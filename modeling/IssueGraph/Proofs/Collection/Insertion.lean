import IssueGraph.Proofs.Collection.Account

/-!
# Putting a line into a text

A line that is no issue leaves no trace but its warning: lines after it add what they added before,
since that depends on the issues read so far alone, and their warnings move down by one line. So a
run over lines is compared with the same run one line later, from a collection with the same issues.
All this is so for lines that are text; other bytes end the reading where they stand. Main
statement: `Collection.read_insert_line`.
-/
namespace IssueGraph

namespace Warning

/-- The same warning about the next line. -/
def nextLine : Warning → Warning
  | malformed line fault => malformed (line + 1) fault
  | duplicate line id => duplicate (line + 1) id
  | priority line id p => priority (line + 1) id p

end Warning

namespace Collection

/-- The same collection if it were found one line further down. -/
def nextLine (c : Collection) : Collection := { c with warnings := c.warnings.map Warning.nextLine }

/-- The collection when a line is put in that has the given number and warnings of its own. -/
def insertLine (c : Collection) (number : Nat) (own : List Warning) : Collection :=
  { c with
    warnings := c.warnings.filter (·.lineNumber < number) ++ own ++
      (c.warnings.filter (number ≤ ·.lineNumber)).map Warning.nextLine }

variable {c d part : Collection} {number : Nat} {text : String} {taken : IssueId → Prop}
  {lines : List (List UInt8)}

theorem join_pair (c d : Collection) : join [c, d] =
    { issues := c.issues ++ d.issues, warnings := c.warnings ++ d.warnings } := by
  simp [join]

theorem join_pair_empty (c : Collection) : join [c, {}] = c := by
  rw [join_pair, List.append_nil, List.append_nil]

theorem join_pair_assoc (c d e : Collection) : join [join [c, d], e] = join [c, join [d, e]] := by
  simp [join]

theorem nextLine_join (c d : Collection) :
    (join [c, d]).nextLine = join [c.nextLine, d.nextLine] := by
  simp [join, nextLine]

/-! ## One line -/

theorem Adds.nextLine (h : Adds taken number text part) :
    Adds taken (number + 1) text part.nextLine := by
  cases h with
  | blank htext => exact .blank htext
  | malformed htext hread => exact .malformed htext hread
  | duplicate htext hread htaken => exact .duplicate htext hread htaken
  | issue htext hread hfree hle => exact .issue htext hread hfree hle
  | raised htext hread hfree hlt => exact .raised htext hread hfree hlt

theorem Adds.lineNumber_eq (h : Adds taken number text part) :
    ∀ w ∈ part.warnings, w.lineNumber = number := by
  intro w hw
  rcases h.warnings_nil_or_number with hnone | hone
  · rw [hnone] at hw
    exact absurd hw List.not_mem_nil
  · have hmem : w.lineNumber ∈ part.warnings.map (·.lineNumber) := List.mem_map_of_mem hw
    rw [hone] at hmem
    exact List.mem_singleton.mp hmem

/-- A line adds the same to all collections with the same issues, also one line later. -/
theorem exists_part_addLine (c : Collection) (number : Nat) (line : List Char) : ∃ part,
    (∀ w ∈ part.warnings, w.lineNumber = number) ∧
    c.addLine number line = join [c, part] ∧
    ∀ d : Collection, d.issues = c.issues →
      d.addLine (number + 1) line = join [d, part.nextLine] := by
  have hsingle : ∀ c : Collection, join [c] = c := by
    intro c
    simp [join]
  obtain ⟨part, hadds, hline⟩ := exists_adds_addLine [c] number line
  refine ⟨part, hadds.lineNumber_eq, by rwa [hsingle] at hline, ?_⟩
  intro d hissues
  obtain ⟨part', hadds', hline'⟩ := exists_adds_addLine [d] (number + 1) line
  have htaken : Taken [d] = Taken [c] := by
    funext id
    simp [Taken, hissues]
  rw [htaken] at hadds'
  rw [hsingle, hadds'.unique hadds.nextLine] at hline'
  exact hline'

/-! ## A run over lines -/

/-- Some lines add the same to all collections with the same issues, also one line later. -/
theorem exists_part_addLines (c : Collection) (number : Nat) (lines : List (List UInt8)) :
    ∃ part, ∃ fault,
      (∀ w ∈ part.warnings, number ≤ w.lineNumber ∧ w.lineNumber < number + lines.length) ∧
      c.addLines number lines = (join [c, part], fault) ∧
      ∀ d : Collection, d.issues = c.issues →
        d.addLines (number + 1) lines = (join [d, part.nextLine], fault) := by
  induction lines generalizing c number with
  | nil =>
    refine ⟨{}, none, by simp, ?_, ?_⟩
    · rw [addLines, join_pair_empty]
    · intro d _
      exact congrArg (·, none) (join_pair_empty d).symm
  | cons line lines ih =>
    cases hdecode : Utf8.decode line with
    | error fault =>
      refine ⟨{}, some fault, by simp, ?_, ?_⟩
      · rw [addLines, hdecode, join_pair_empty]
      · intro d _
        rw [addLines, hdecode]
        exact congrArg (·, some fault) (join_pair_empty d).symm
    | ok text =>
      obtain ⟨part, hnumber, hline, hlater⟩ := exists_part_addLine c number text
      obtain ⟨rest, fault, hnumbers, hlines, hlaters⟩ := ih (join [c, part]) (number + 1)
      refine ⟨join [part, rest], fault, ?_, ?_, ?_⟩
      · intro w hw
        rw [join_pair, List.mem_append] at hw
        rw [List.length_cons]
        rcases hw with hw | hw
        · have heq := hnumber w hw
          omega
        · have hbounds := hnumbers w hw
          omega
      · rw [addLines, hdecode]
        dsimp only
        rw [hline, hlines, join_pair_assoc]
      · intro d hissues
        have hsame : (join [d, part.nextLine]).issues = (join [c, part]).issues := by
          rw [join_pair, join_pair, hissues]
          rfl
        rw [addLines, hdecode]
        dsimp only
        rw [hlater d hissues, hlaters _ hsame, join_pair_assoc, nextLine_join]

theorem addLines_append {lines' : List (List UInt8)} (h : c.addLines number lines = (d, none)) :
    c.addLines number (lines ++ lines') = d.addLines (number + lines.length) lines' := by
  induction lines generalizing c number with
  | nil =>
    obtain rfl : c = d := congrArg Prod.fst h
    rfl
  | cons line lines ih =>
    rw [addLines] at h
    rw [List.cons_append, addLines]
    cases hdecode : Utf8.decode line with
    | error fault =>
      rw [hdecode] at h
      exact absurd (congrArg Prod.snd h) (Option.some_ne_none fault)
    | ok text =>
      rw [hdecode] at h
      dsimp only at h ⊢
      rw [ih h, List.length_cons, Nat.add_right_comm, Nat.add_assoc]

/-- Whether lines can be read to the end depends on their bytes alone. -/
theorem addLines_eq_none_iff : (c.addLines number lines).2 = none ↔
    ∀ line ∈ lines, ∃ text, Utf8.decode line = .ok text := by
  induction lines generalizing c number with
  | nil => simp [addLines]
  | cons line lines ih =>
    rw [addLines, List.forall_mem_cons]
    cases hdecode : Utf8.decode line with
    | error fault => simp
    | ok text => simp [ih]

/-! ## A line that is no issue -/

theorem addLine_blank {line : List Char} (htext : String.ofList (Text.trim line) = "") :
    c.addLine number line = c := by
  rw [addLine, htext]
  rfl

theorem addLine_malformed {line : List Char} {fault : Json.Fault}
    (htext : String.ofList (Text.trim line) ≠ "")
    (hread : Issue.shape.readText (String.ofList (Text.trim line)) = .error fault) :
    c.addLine number line = c.warn (.malformed number fault) := by
  rw [addLine, if_neg (by simpa using htext), hread]

theorem insertLine_join {own : List Warning} (hc : ∀ w ∈ c.warnings, w.lineNumber < number)
    (hd : ∀ w ∈ d.warnings, number ≤ w.lineNumber) : (join [c, d]).insertLine number own =
      join [{ c with warnings := c.warnings ++ own }, d.nextLine] := by
  have hbefore : (c.warnings ++ d.warnings).filter (·.lineNumber < number) = c.warnings := by
    rw [List.filter_append, List.filter_eq_self.mpr (by simpa using hc),
      List.filter_eq_nil_iff.mpr (by simpa using hd), List.append_nil]
  have hafter : (c.warnings ++ d.warnings).filter (number ≤ ·.lineNumber) = d.warnings := by
    rw [List.filter_append, List.filter_eq_nil_iff.mpr (by simpa using hc),
      List.filter_eq_self.mpr (by simpa using hd), List.nil_append]
  rw [join_pair, join_pair, insertLine, hbefore, hafter]
  rfl

section Insert

variable {lines' : List (List UInt8)} {line : List UInt8}
  (hread : ({} : Collection).addLines 1 (lines ++ lines') = (c, none))
include hread

theorem addLines_before : ({} : Collection).addLines 1 lines =
    ((({} : Collection).addLines 1 lines).1, none) := by
  have hdecoded := addLines_eq_none_iff.mp (congrArg Prod.snd hread)
  have hnone : (({} : Collection).addLines 1 lines).2 = none :=
    addLines_eq_none_iff.mpr fun l hl => hdecoded l (List.mem_append_left lines' hl)
  exact Prod.ext rfl hnone

/-- A line that brings no issue adds its own warnings. -/
theorem addLines_insert {text : List Char} {own : List Warning}
    (htext : Utf8.decode line = .ok text)
    (hown : ∀ d : Collection, d.addLine (lines.length + 1) text =
      { d with warnings := d.warnings ++ own }) :
    ({} : Collection).addLines 1 (lines ++ line :: lines') =
      (c.insertLine (lines.length + 1) own, none) := by
  have hstart := addLines_before hread
  obtain ⟨start, fault, hnumbers, hrun, -⟩ := exists_part_addLines {} 1 lines
  have hempty : join [{}, start] = start := by
    rw [join_pair]
    rfl
  rw [hrun, hempty] at hstart
  obtain rfl : fault = none := congrArg Prod.snd hstart
  rw [hempty] at hrun
  obtain ⟨part, fault', hnumbers', hlines', hlater⟩ :=
    exists_part_addLines start (lines.length + 1) lines'
  rw [addLines_append hrun, Nat.add_comm 1, hlines'] at hread
  obtain ⟨rfl, rfl⟩ := Prod.mk.inj hread
  rw [addLines_append hrun, Nat.add_comm 1, addLines, htext]
  dsimp only
  rw [hown, hlater { start with warnings := start.warnings ++ own } rfl, insertLine_join]
  · intro w hw
    have hbounds := hnumbers w hw
    omega
  · intro w hw
    exact (hnumbers' w hw).1

theorem addLines_insert_eq_none_iff :
    (({} : Collection).addLines 1 (lines ++ line :: lines')).2 = none ↔
      ∃ text, Utf8.decode line = .ok text := by
  have hdecoded := addLines_eq_none_iff.mp (congrArg Prod.snd hread)
  rw [addLines_eq_none_iff]
  constructor
  · intro h
    exact h line (List.mem_append_right lines List.mem_cons_self)
  · intro hline l hl
    rcases List.mem_append.mp hl with hl | hl
    · exact hdecoded l (List.mem_append_left lines' hl)
    rcases List.mem_cons.mp hl with rfl | hl
    · exact hline
    · exact hdecoded l (List.mem_append_right lines hl)

/-- A line that is no text ends the reading. -/
theorem addLines_insert_error {fault : Utf8.Fault} (hline : Utf8.decode line = .error fault) :
    ({} : Collection).addLines 1 (lines ++ line :: lines') =
      ((({} : Collection).addLines 1 lines).1, some fault) := by
  rw [addLines_append (addLines_before hread), addLines, hline]

end Insert

/-- Put a line into a text that can be read. If the line is text but no issue, the text can still be
read, with the same issues and the same warnings about the other lines, and one warning about the
line unless it is blank. A line that is no text ends the reading before it. -/
theorem read_insert_line (before after line : List UInt8) (c : Collection)
    (hbefore : Text.WholeLines 10 before) (hline : 10 ∉ line)
    (hread : read (before ++ after) = (c, none)) :
    (∀ s, Utf8.encode s = line → Text.trimString s = "" →
      read (before ++ line ++ 10 :: after) =
        (c.insertLine ((Text.linesOf 10 13 before).length + 1) [], none)) ∧
    (∀ s fault, Utf8.encode s = line → Text.trimString s ≠ "" →
      Issue.shape.readText (Text.trimString s) = .error fault →
      read (before ++ line ++ 10 :: after) =
        (c.insertLine ((Text.linesOf 10 13 before).length + 1)
          [.malformed ((Text.linesOf 10 13 before).length + 1) fault], none)) ∧
    ((read (before ++ line ++ 10 :: after)).2 = none ↔ ∃ s, Utf8.encode s = line) ∧
    ((∀ s, Utf8.encode s ≠ line) →
      (read (before ++ line ++ 10 :: after)).1 = (read before).1) := by
  rw [read, Text.linesOf_wholeLines_append hbefore] at hread
  rw [read, Text.linesOf_insert (by decide) hbefore hline]
  have htrim : ∀ s, String.ofList (Text.trim (Text.chomp '\r' s.toList)) = Text.trimString s := by
    intro s
    rw [Text.trim_chomp, Text.trimString]
  refine ⟨?_, ?_, ?_, ?_⟩
  · rintro s rfl hblank
    refine addLines_insert hread (Text.decode_chomp_encode s) fun d => ?_
    rw [addLine_blank ((htrim s).trans hblank), List.append_nil]
  · rintro s fault rfl hnonblank hfault
    rw [← htrim] at hnonblank hfault
    exact addLines_insert hread (Text.decode_chomp_encode s) fun d =>
      addLine_malformed hnonblank hfault
  · rw [addLines_insert_eq_none_iff hread, Text.exists_decode_chomp_iff]
  · intro hnotext
    cases hdecode : Utf8.decode (Text.chomp 13 line) with
    | ok text =>
      obtain ⟨s, hs⟩ := Text.exists_decode_chomp_iff.mp ⟨text, hdecode⟩
      exact absurd hs (hnotext s)
    | error fault =>
      rw [addLines_insert_error hread hdecode, read]

/-- An issue on a line, with the line break. -/
def lineOfA : List UInt8 := Issue.line { id := "a" } ++ [10]

/-- An issue on the last line, without a line break. -/
def lineOfB : List UInt8 := Issue.line { id := "b" }

theorem read_insert_line_between :
    read (lineOfA ++ Utf8.encode "x\r" ++ 10 :: lineOfB) =
      ({ issues := [{ id := "a" }, { id := "b" }]
         warnings := [.malformed 2 ⟨.expectedValue, { line := 1, column := 1 }⟩] }, none) := by
  have hread :
      read (lineOfA ++ lineOfB) = ({ issues := [{ id := "a" }, { id := "b" }] }, none) := by
    have hwritten : lineOfA ++ lineOfB = written [{ id := "a" }, { id := "b" }] false := by
      decide +kernel
    rw [hwritten]
    exact read_written _ false (by decide) (by decide)
  have hend : Text.WholeLines 10 lineOfA := .inr (by decide +kernel)
  obtain ⟨-, hmalformed, -⟩ :=
    read_insert_line lineOfA lineOfB (Utf8.encode "x\r") _ hend (by decide +kernel) hread
  rw [hmalformed "x\r" ⟨.expectedValue, { line := 1, column := 1 }⟩ rfl (by decide +kernel) rfl]
  decide +kernel

/-- Two issues that are read without a warning are not both read once a line of other bytes stands
between them. -/
theorem read_fails_on_line_of_bytes :
    read (lineOfA ++ lineOfB) = ({ issues := [{ id := "a" }, { id := "b" }] }, none) ∧
      read (lineOfA ++ [0xff] ++ 10 :: lineOfB) =
        ({ issues := [{ id := "a" }] }, some { start := 0, length := some 1 }) := by
  decide +kernel

end Collection

end IssueGraph
