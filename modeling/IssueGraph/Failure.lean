import IssueGraph.Config.Yaml
import IssueGraph.Files.Basic
import IssueGraph.Text.Utf8

/-!
# Failures

What stops a command: files that cannot be read, a configuration that cannot be used, or an issue
that is not there.
-/
namespace IssueGraph

inductive Failure where
  | file (fault : FileFault)
  /-- The file of issues holds bytes that are no text. -/
  | encoding (fault : Utf8.Fault)
  /-- The file of the configuration is no text. -/
  | noText
  | config (error : Config.Error)
  | issueNotFound (id : IssueId)
  deriving DecidableEq, Repr

namespace Failure

def message : Failure → String
  | file fault => "IO error: " ++ fault.message
  | encoding fault => "IO error: " ++ fault.message
  | noText => "IO error: stream did not contain valid UTF-8"
  | config error => "Configuration error: " ++ error.message
  | issueNotFound id => "Issue not found: " ++ id

end Failure

end IssueGraph
