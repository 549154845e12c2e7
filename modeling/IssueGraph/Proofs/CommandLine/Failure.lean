import IssueGraph.CommandLine.Run
import IssueGraph.Files.Directory
import IssueGraph.Proofs.Board
import IssueGraph.Proofs.Collection
import IssueGraph.Proofs.Json.Reader
import IssueGraph.Proofs.Text.Utf8

/-!
# When a command fails

A command stops at the first thing that goes wrong: no usable configuration, no readable file of
issues, or a chain that is asked for of an issue that is not there. Each of these is described by
what the files hold, without the steps of loading. Nothing is printed before all of them are past,
so a command that fails prints nothing. Main statement: `run_stops_at_first_fault`.
-/
namespace IssueGraph

/-! ## The configuration -/

/-- Why the file at a path gives no configuration. -/
inductive Config.FileFails (files : Files) (path : String) : Failure → Prop
  | unreadable {fault : FileFault} (h : files.read path = .error fault) :
    FileFails files path (.file fault)
  | noText {bytes : List UInt8} (h : files.read path = .ok bytes)
    (hbytes : ∀ s, Utf8.encode s ≠ bytes) : FileFails files path .noText
  | refused {s : String} {e : Config.Error} (h : files.read path = .ok (Utf8.encode s))
    (hs : Config.ofYaml s = .error e) : FileFails files path (.config e)

/-- Why there is no configuration for a file of issues. The file beside the issues is not looked
into if there is none. -/
inductive Config.Fails (files : Files) (issueFile : String) : Option String → Failure → Prop
  | named {path : String} {f : Failure} (h : FileFails files path f) :
    Fails files issueFile (some path) f
  | unknown {fault : FileFault} (h : files.has (pathBeside issueFile) = .error fault) :
    Fails files issueFile none (.file fault)
  | beside {f : Failure} (h : files.has (pathBeside issueFile) = .ok true)
    (hf : FileFails files (pathBeside issueFile) f) : Fails files issueFile none f

namespace Config

variable {files : Files} {path issueFile : String} {configFile : Option String} {f : Failure}

theorem load_eq_error_iff : load files path = .error f ↔ FileFails files path f := by
  constructor
  · intro h
    unfold load at h
    split at h
    · next hread =>
      obtain rfl := Except.error.inj h
      exact .unreadable hread
    · next bytes hread =>
      split at h
      · next hdecode =>
        obtain rfl := Except.error.inj h
        exact .noText hread (Utf8.exists_decode_error_iff.mp ⟨_, hdecode⟩)
      · next text hdecode =>
        cases hyaml : ofYaml (String.ofList text) with
        | ok c =>
          rw [hyaml] at h
          cases h
        | error e =>
          rw [hyaml] at h
          obtain rfl := Except.error.inj h
          rw [← Utf8.decode_eq_ok_iff_encode.mp hdecode] at hread
          exact .refused hread hyaml
  · rintro (hread | ⟨hread, hbytes⟩ | ⟨hread, hyaml⟩)
    · rw [load, hread]
    · obtain ⟨fault, hdecode⟩ := Utf8.exists_decode_error_iff.mpr hbytes
      simp only [load, hread, hdecode]
    · simp only [load, hread, Utf8.decode_encode, String.ofList_toList, hyaml]
      rfl

theorem loadFor_eq_error_iff :
    loadFor files issueFile configFile = .error f ↔ Fails files issueFile configFile f := by
  cases configFile with
  | some path =>
    rw [loadFor, load_eq_error_iff]
    exact ⟨.named, fun | .named h => h⟩
  | none =>
    rw [loadFor, loadOrDefault]
    constructor
    · intro h
      split at h
      · next hhas =>
        obtain rfl := Except.error.inj h
        exact .unknown hhas
      · next hhas => exact .beside hhas (load_eq_error_iff.mp h)
      · cases h
    · rintro (_ | hhas | ⟨hhas, h⟩)
      · rw [hhas]
      · rw [hhas]
        exact load_eq_error_iff.mpr h

/-- What a text is read as has been checked. -/
theorem check_of_ofYaml {s : String} {c : Config} (h : ofYaml s = .ok c) : c.check = .ok () := by
  unfold ofYaml at h
  dsimp only at h
  split at h
  on_goal 2 =>
    obtain ⟨c', -, h⟩ := Json.bind_eq_ok.mp h
    split at h
    · cases h
    split at h
    · cases h
  -- Both ways to a configuration end in the check.
  all_goals
    rw [pure_bind] at h
    split at h
    · next hcheck =>
      obtain rfl := Except.ok.inj h
      exact hcheck
    · cases h

theorem check_of_load {c : Config} (h : load files path = .ok c) : c.check = .ok () := by
  unfold load at h
  split at h
  · cases h
  · split at h
    · cases h
    · next text _ =>
      cases hyaml : ofYaml (String.ofList text) with
      | error e =>
        rw [hyaml] at h
        cases h
      | ok c' =>
        rw [hyaml] at h
        obtain rfl := Except.ok.inj h
        exact check_of_ofYaml hyaml

theorem check_of_loadFor {c : Config} (h : loadFor files issueFile configFile = .ok c) :
    c.check = .ok () := by
  cases configFile with
  | some path => exact check_of_load h
  | none =>
    rw [loadFor, loadOrDefault] at h
    split at h
    · cases h
    · exact check_of_load h
    · obtain rfl := Except.ok.inj h
      rfl

end Config

/-! ## The issues -/

/-- Why the file of issues cannot be read to its end: the first line that is no text stops it. -/
inductive Collection.Fails (files : Files) (path : String) : Failure → Prop
  | unreadable {fault : FileFault} (h : files.read path = .error fault) :
    Fails files path (.file fault)
  | noText {bytes line : List UInt8} {before after : List (List UInt8)} {fault : Utf8.Fault}
    (h : files.read path = .ok bytes) (hlines : Text.linesOf 10 13 bytes = before ++ line :: after)
    (hbefore : ∀ l ∈ before, ∃ s, Utf8.encode s = l) (hline : Utf8.decode line = .error fault) :
    Fails files path (.encoding fault)

namespace Collection

variable {files : Files} {path : String} {f : Failure} {c : Collection} {number : Nat}
  {lines : List (List UInt8)} {fault : Utf8.Fault}

theorem addLines_eq_some_iff : (c.addLines number lines).2 = some fault ↔
    ∃ before line after, lines = before ++ line :: after ∧
      (∀ l ∈ before, ∃ s, Utf8.encode s = l) ∧ Utf8.decode line = .error fault := by
  induction lines generalizing c number with
  | nil => simp [addLines]
  | cons l ls ih =>
    rw [addLines]
    cases hdecode : Utf8.decode l with
    | error fault' =>
      constructor
      · intro h
        obtain rfl := Option.some.inj h
        exact ⟨[], l, ls, rfl, by simp, hdecode⟩
      · rintro ⟨before, line, after, hlines, hbefore, hline⟩
        cases before with
        | nil =>
          obtain ⟨rfl, -⟩ := List.cons.inj hlines
          exact congrArg some (Except.error.inj (hdecode.symm.trans hline))
        | cons l' before =>
          obtain ⟨rfl, -⟩ := List.cons.inj hlines
          obtain ⟨s, rfl⟩ := hbefore l List.mem_cons_self
          rw [Utf8.decode_encode] at hdecode
          cases hdecode
    | ok text =>
      rw [ih]
      constructor
      · rintro ⟨before, line, after, rfl, hbefore, hline⟩
        refine ⟨l :: before, line, after, rfl, List.forall_mem_cons.mpr ⟨?_, hbefore⟩, hline⟩
        exact ⟨_, Utf8.decode_eq_ok_iff_encode.mp hdecode⟩
      · rintro ⟨before, line, after, hlines, hbefore, hline⟩
        cases before with
        | nil =>
          obtain ⟨rfl, -⟩ := List.cons.inj hlines
          rw [hdecode] at hline
          cases hline
        | cons l' before =>
          obtain ⟨rfl, rfl⟩ := List.cons.inj hlines
          exact ⟨before, line, after, rfl, (List.forall_mem_cons.mp hbefore).2, hline⟩

-- A line that breaks off within a character is an incomplete text, whatever follows the line.
example : (read [0xc3, 0x0a]).2 = some ⟨0, none⟩ := by decide

theorem nodup_ids_load (files : Files) (path : String) :
    ((load files path).1.issues.map (·.id)).Nodup := by
  unfold load
  split
  · exact List.nodup_nil
  · exact nodup_ids_read _

theorem load_eq_some_iff : (load files path).2 = some f ↔ Fails files path f := by
  unfold load
  cases hread : files.read path with
  | error fault =>
    constructor
    · intro h
      obtain rfl := Option.some.inj h
      exact .unreadable hread
    · rintro (h | ⟨h, -, -, -⟩)
      · exact congrArg (fun e => some (Failure.file e)) (Except.error.inj (hread.symm.trans h))
      · rw [hread] at h
        cases h
  | ok bytes =>
    constructor
    · intro h
      obtain ⟨fault, hfault, rfl⟩ := Option.map_eq_some_iff.mp h
      obtain ⟨before, line, after, hlines, hbefore, hline⟩ := addLines_eq_some_iff.mp hfault
      exact .noText hread hlines hbefore hline
    · rintro (h | ⟨h, hlines, hbefore, hline⟩)
      · rw [hread] at h
        cases h
      · obtain rfl := Except.ok.inj (hread.symm.trans h)
        have hfault : (addLines {} 1 (Text.linesOf 10 13 bytes)).2 = some _ :=
          addLines_eq_some_iff.mpr ⟨_, _, _, hlines, hbefore, hline⟩
        exact congrArg (Option.map Failure.encoding) hfault

end Collection

/-! ## The command -/

namespace CommandLine

open Report (Console)

theorem find_eq_error_iff {b : Board} {command : Command} {f : Failure} :
    command.find b = .error f ↔ ∃ id depth, command = .chain id depth ∧
      id ∉ b.issues.map (·.id) ∧ f = .issueNotFound id := by
  cases command with
  | chain id depth =>
    by_cases hid : id ∈ b.issues.map (·.id)
    · constructor
      · intro h
        rw [Command.find, Board.chain, Board.askChain_of_mem hid] at h
        cases h
      · rintro ⟨id', _, heq, hmissing, -⟩
        obtain ⟨rfl, -⟩ := Command.chain.inj heq
        exact absurd hid hmissing
    · rw [Command.find, Board.chain, Board.askChain_of_not_mem hid]
      constructor
      · intro h
        exact ⟨id, depth, rfl, hid, (Except.error.inj h).symm⟩
      · rintro ⟨id', _, heq, -, rfl⟩
        obtain ⟨rfl, -⟩ := Command.chain.inj heq
        rfl
  | graph request => exact ⟨nofun, nofun⟩
  | top limit => exact ⟨nofun, nofun⟩
  | ready limit => exact ⟨nofun, nofun⟩

/-- The first thing that goes wrong when a command is run. -/
inductive StopsAt (files : Files) (file : String) (config : Option String) (command : Command) :
    Failure → Prop
  | config {f : Failure} (h : Config.Fails files file config f) :
    StopsAt files file config command f
  | issues {f : Failure} (hconfig : ∀ e, ¬ Config.Fails files file config e)
    (h : Collection.Fails files file f) : StopsAt files file config command f
  | missing {id : IssueId} {depth : Option Nat} (hconfig : ∀ e, ¬ Config.Fails files file config e)
    (hissues : ∀ e, ¬ Collection.Fails files file e) (hcommand : command = .chain id depth)
    (h : id ∉ (Collection.load files file).1.issues.map (·.id)) :
    StopsAt files file config command (.issueNotFound id)

section

variable {files : Files} {console : Console} {file : String} {config : Option String} {json : Bool}
  {command : Command} {c : Config} {collection : Collection} {f : Failure}

theorem run_of_no_config (hconfig : Config.loadFor files file config = .error f) :
    ({ file, config, json, command := some command } : Invocation).run files console =
      { failure := some f } := by
  simp only [Invocation.run, Board.load, hconfig, List.map_nil]

theorem run_of_no_issues (hconfig : Config.loadFor files file config = .ok c)
    (hissues : Collection.load files file = (collection, some f)) :
    ({ file, config, json, command := some command } : Invocation).run files console =
      { log := collection.warnings.map Warning.logEntry, failure := some f } := by
  simp only [Invocation.run, Board.load, hconfig, hissues]

theorem run_of_loaded (hconfig : Config.loadFor files file config = .ok c)
    (hissues : Collection.load files file = (collection, none)) :
    ({ file, config, json, command := some command } : Invocation).run files console =
      match command.find (Board.new collection c) with
      | .error f => { log := collection.warnings.map Warning.logEntry, failure := some f }
      | .ok finding =>
        { output := (finding.print json console).1
          log := collection.warnings.map Warning.logEntry ++ (finding.print json console).2 } := by
  cases hfind : command.find (Board.new collection c) <;>
    simp only [Invocation.run, Board.load, hconfig, hissues, hfind]

theorem failure_run_of_loaded (hconfig : Config.loadFor files file config = .ok c)
    (hissues : Collection.load files file = (collection, none)) :
    (({ file, config, json, command := some command } : Invocation).run files console).failure =
      some f ↔ command.find (Board.new collection c) = .error f := by
  rw [run_of_loaded hconfig hissues]
  cases command.find (Board.new collection c) <;> simp

theorem not_configFails_iff :
    (∀ e, ¬ Config.Fails files file config e) ↔ ∃ c, Config.loadFor files file config = .ok c := by
  simp only [← Config.loadFor_eq_error_iff]
  cases Config.loadFor files file config <;> simp

theorem not_issuesFail_iff :
    (∀ e, ¬ Collection.Fails files file e) ↔ (Collection.load files file).2 = none := by
  simp only [← Collection.load_eq_some_iff]
  exact Option.eq_none_iff_forall_ne_some.symm

theorem failure_run_iff : (({ file, config, json, command := some command } : Invocation).run files
    console).failure = some f ↔ StopsAt files file config command f := by
  cases hconfig : Config.loadFor files file config with
  | error e =>
    rw [run_of_no_config hconfig]
    have hfails := Config.loadFor_eq_error_iff.mp hconfig
    constructor
    · intro h
      obtain rfl := Option.some.inj h
      exact .config hfails
    · rintro (h | ⟨hnone, -⟩ | ⟨hnone, -, -, -⟩)
      · rw [← Config.loadFor_eq_error_iff, hconfig] at h
        exact congrArg some (Except.error.inj h)
      · exact absurd hfails (hnone e)
      · exact absurd hfails (hnone e)
  | ok c =>
    have hnone := not_configFails_iff.mpr ⟨c, hconfig⟩
    rcases hissues : Collection.load files file with ⟨collection, fault⟩
    cases fault with
    | some e =>
      rw [run_of_no_issues hconfig hissues]
      have hfails : Collection.Fails files file e :=
        Collection.load_eq_some_iff.mp (congrArg Prod.snd hissues)
      constructor
      · intro h
        obtain rfl := Option.some.inj h
        exact .issues hnone hfails
      · rintro (h | ⟨-, h⟩ | ⟨-, hread, -, -⟩)
        · exact absurd h (hnone f)
        · rw [← Collection.load_eq_some_iff, hissues] at h
          exact h
        · exact absurd hfails (hread e)
    | none =>
      have hread := not_issuesFail_iff.mpr (congrArg Prod.snd hissues)
      rw [failure_run_of_loaded hconfig hissues, find_eq_error_iff]
      constructor
      · rintro ⟨id, depth, hcommand, hmissing, rfl⟩
        refine .missing hnone hread hcommand ?_
        rwa [hissues]
      · rintro (h | ⟨-, h⟩ | ⟨-, -, hcommand, hmissing⟩)
        · exact absurd h (hnone f)
        · exact absurd h (hread f)
        · rw [hissues] at hmissing
          exact ⟨_, _, hcommand, hmissing, rfl⟩

theorem output_run_of_failure (h : (({ file, config, json, command := some command } :
    Invocation).run files console).failure = some f) :
    (({ file, config, json, command := some command } : Invocation).run files console).output =
      "" := by
  cases hconfig : Config.loadFor files file config with
  | error e => rw [run_of_no_config hconfig]
  | ok c =>
    rcases hissues : Collection.load files file with ⟨collection, fault⟩
    cases fault with
    | some e => rw [run_of_no_issues hconfig hissues]
    | none =>
      have hfind := (failure_run_of_loaded hconfig hissues).mp h
      rw [run_of_loaded hconfig hissues, hfind]

end

/-- A command that is run fails with the first thing that goes wrong, and then nothing has been
printed; once its configuration and its issues are loaded, only a chain of a missing issue can go
wrong. The configuration has been checked when it is loaded, so that it is usable by then. -/
theorem run_stops_at_first_fault (files : Files) (console : Console) (file : String)
    (config : Option String) (json : Bool) (command : Command) :
    let outcome := ({ file, config, json, command := some command } : Invocation).run files console
    (∀ f, outcome.failure = some f ↔ StopsAt files file config command f) ∧
    (∀ f, outcome.failure = some f → outcome.output = "") ∧
    ((∀ e, ¬ Config.Fails files file config e) → (∀ e, ¬ Collection.Fails files file e) →
      (∀ id depth, command ≠ .chain id depth) → outcome.failure = none) ∧
    ∀ c, Config.loadFor files file config = .ok c → c.check = .ok () := by
  refine ⟨fun f => failure_run_iff, ?_, ?_, fun c => Config.check_of_loadFor⟩
  · intro f h
    exact output_run_of_failure h
  · intro hconfig hissues hcommand
    refine Option.eq_none_iff_forall_ne_some.mpr fun f h => ?_
    rcases failure_run_iff.mp h with hfails | ⟨-, hfails⟩ | ⟨-, -, hchain, -⟩
    · exact hconfig f hfails
    · exact hissues f hfails
    · exact hcommand _ _ hchain

/-- An issue and a line that is none, beside a directory; in another one, issues beside a
configuration that is no text. -/
def smallDirectory : Directory :=
  .ofPaths
    [("issues.jsonl", some (Utf8.encode "\x7b\"id\":\"a\"\x7d\nx\n")),
      ("conf", none),
      ("data/issues.jsonl", some []),
      ("data/blockgraph.yaml", some [0xff])]

def plainConsole : Console where
  environment := fun _ => none
  takesColor := false

/-- Ask for the chain of an issue that the directory does not hold. -/
def strayRequest : Invocation where
  file := "issues.jsonl"
  config := none
  json := true
  command := some (.chain "b" none)

/-- A chain is refused after the issues have been loaded, and a directory in place of the
configuration before the file of issues is found missing. The configuration that no one names is
the one in the directory of the issues. -/
theorem run_stops_at_first_fault_of_two :
    StopsAt smallDirectory.files "issues.jsonl" none (.chain "b" none) (.issueNotFound "b") ∧
    (strayRequest.run smallDirectory.files plainConsole).output = "" ∧
    StopsAt smallDirectory.files "gone.jsonl" (some "conf") (.top 3) (.file .isDirectory) ∧
    ¬ StopsAt smallDirectory.files "gone.jsonl" (some "conf") (.top 3) (.file .notFound) ∧
    StopsAt smallDirectory.files "data/issues.jsonl" none (.top 3) .noText := by
  obtain ⟨hchain, hsilent, -, -⟩ := run_stops_at_first_fault smallDirectory.files plainConsole
    "issues.jsonl" none true (.chain "b" none)
  obtain ⟨htop, -, -, -⟩ := run_stops_at_first_fault smallDirectory.files plainConsole
    "gone.jsonl" (some "conf") true (.top 3)
  have hmissing : (strayRequest.run smallDirectory.files plainConsole).failure =
      some (.issueNotFound "b") := by
    decide +kernel
  obtain ⟨hbeside, -, -, -⟩ := run_stops_at_first_fault smallDirectory.files plainConsole
    "data/issues.jsonl" none true (.top 3)
  refine ⟨(hchain _).mp hmissing, hsilent _ hmissing, (htop _).mp (by decide +kernel), ?_,
    (hbeside _).mp (by decide +kernel)⟩
  rw [← htop]
  decide +kernel

end CommandLine

end IssueGraph
