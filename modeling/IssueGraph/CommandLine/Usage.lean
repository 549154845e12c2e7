import IssueGraph.CommandLine.Level

/-!
# Usage

What is printed instead of running a command line that asks for nothing, or for help.
-/
namespace IssueGraph.CommandLine

def usage : String :=
  "Usage: blockgraph [OPTIONS] [COMMAND]\n\n" ++
  "Commands:\n" ++
  "  graph  Summarize the dependency graph\n" ++
  "  chain  Show the blocking chain of an issue\n" ++
  "  top    List the issues blocking the most other issues\n" ++
  "  ready  List issues ready to work on\n" ++
  "  help   Print this message\n\n" ++
  "Options:\n" ++
  "  -f, --file <FILE>      Issue file in JSON Lines format [default: issues.jsonl]\n" ++
  "  -c, --config <CONFIG>  Configuration file (YAML)\n" ++
  "      --json             Output in JSON format\n" ++
  "  -h, --help             Print help\n" ++
  "  -V, --version          Print version\n"

namespace Stop

/-- Whether the user asked for what is printed. -/
def isWanted : Stop → Bool
  | help | version => true
  | _ => false

def message : Stop → String
  | unknownArgument => "error: unexpected argument"
  | unknownCommand => "error: unrecognized subcommand"
  | conflict => "error: an argument cannot be used with another one or more than once"
  | unfitValue => "error: invalid value for an argument"
  | missingValue => "error: a value is required for an argument but none was supplied"
  | missingOperand => "error: a required argument was not provided"
  | needlessValue => "error: unexpected value for an argument that takes none"
  | help => usage
  | version => "blockgraph 0.1.0"

end Stop

end IssueGraph.CommandLine
