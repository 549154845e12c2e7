import IssueGraph.Collection
import IssueGraph.Proofs.Graph.Json
import IssueGraph.Proofs.Json.Compact
import IssueGraph.Proofs.Json.Shape
import IssueGraph.Proofs.Text.Lines

/-!
# Reading written collections

No two issues that are read have one id, whatever the bytes. Issues that are written one a line are
read back as they were, without a warning, if no two of them have one id and no priority is too low:
a compact text has no line break and no blank at its ends, so the lines are the texts. Main
statements: `Collection.nodup_ids_read` and `Collection.read_written`.
-/
namespace IssueGraph

open Json

namespace Text

/-- Text that neither begins nor ends with a blank stays as it is. -/
theorem trim_eq_self {c d : Char} {cs : List Char} (hc : isBlank c = false)
    (hd : isBlank d = false) : trim (c :: (cs ++ [d])) = c :: (cs ++ [d]) := by
  have hlast : (c :: (cs ++ [d])).reverse = d :: (c :: cs).reverse := by simp
  rw [trim, List.dropWhile_cons_of_neg (by simp [hc]), hlast,
    List.dropWhile_cons_of_neg (by simp [hd]), ← hlast, List.reverse_reverse]

end Text

/-! ## One issue -/

theorem Json.compactMembers_eq_append (ms : List (String × Json)) :
    ∃ cs, compactMembers ms = cs ++ ['}'] := by
  induction ms with
  | nil => exact ⟨[], rfl⟩
  | cons m ms ih =>
    obtain ⟨cs, hcs⟩ := ih
    refine ⟨',' :: (quote m.1 ++ ':' :: (compact m.2 ++ cs)), ?_⟩
    simp [compactMembers, hcs]

/-- An object is written between braces. -/
theorem Json.compact_obj (ms : List (String × Json)) :
    ∃ cs, compact (.obj ms) = '{' :: (cs ++ ['}']) := by
  cases ms with
  | nil => exact ⟨[], rfl⟩
  | cons m ms =>
    obtain ⟨cs, hcs⟩ := compactMembers_eq_append ms
    refine ⟨quote m.1 ++ ':' :: (compact m.2 ++ cs), ?_⟩
    simp [compact, hcs]

theorem Json.numeral_natCast {n : Nat} (hn : n < Nat.pow 2 64) :
    Numeral (compact (.int n)) (.int n) := by
  rw [compact_int, if_neg (by omega), Int.natAbs_natCast]
  exact numeral_toDigits hn

namespace Issue

/-- The bytes of an issue on a line of its own. -/
def line (i : Issue) : List UInt8 := Utf8.encode i.toJson.compactText

theorem numerals_toJson (i : Issue) : Every (fun n => Numeral n.toJson.compact n) i.toJson :=
  i.every_toJson (numeral_natCast (Nat.lt_trans i.priority.toNat_lt (by decide)))

theorem readText_toJson (i : Issue) : shape.readText i.toJson.compactText = .ok i :=
  Shape.readText_compactText i.numerals_toJson i.fit_toJson

theorem line_unbroken (i : Issue) : ∀ b ∈ i.line, b ≠ 10 ∧ b ≠ 13 := by
  have hchars : ∀ c ∈ i.toJson.compactText.toList, 32 ≤ c.toNat := by
    rw [compactText, String.toList_ofList]
    exact le_toNat_of_mem_compact (i.every_toJson ⟨_, rfl⟩)
  intro b hb
  have hle := Utf8.le_toNat_of_mem_encode hchars b hb
  constructor <;> rintro rfl <;> revert hle <;> decide

theorem line_ne_nil (i : Issue) : i.line ≠ [] := by
  obtain ⟨cs, hcs⟩ : ∃ cs, i.toJson.compact = '{' :: (cs ++ ['}']) := compact_obj _
  rw [line, Utf8.encode_eq, compactText, String.toList_ofList, hcs]
  exact List.cons_ne_nil _ _

theorem trim_compact_toJson (i : Issue) : Text.trim i.toJson.compact = i.toJson.compact := by
  obtain ⟨cs, hcs⟩ : ∃ cs, i.toJson.compact = '{' :: (cs ++ ['}']) := compact_obj _
  rw [hcs]
  exact Text.trim_eq_self (by decide) (by decide)

end Issue

/-! ## All issues -/

namespace Collection

variable {c : Collection} {i : Issue} {issues : List Issue}

theorem addLine_compact (n : Nat) : c.addLine n i.toJson.compactText.toList = c.add n i := by
  have htext : String.ofList (Text.trim i.toJson.compactText.toList) = i.toJson.compactText := by
    rw [compactText, String.toList_ofList, i.trim_compact_toJson]
  have hempty : i.toJson.compactText.isEmpty = false := by
    obtain ⟨cs, hcs⟩ : ∃ cs, i.toJson.compact = '{' :: (cs ++ ['}']) := compact_obj _
    rw [compactText, hcs]
    simp
  rw [addLine]
  simp only [htext, hempty, i.readText_toJson]
  rfl

theorem hasId_eq_false_iff {id : IssueId} : c.hasId id = false ↔ id ∉ c.issues.map Issue.id := by
  rw [hasId, Bool.eq_false_iff, List.mem_map]
  simp

theorem add_new (n : Nat) (hid : i.id ∉ c.issues.map Issue.id)
    (hpriority : i.priority ≤ Priority.lowest) :
    c.add n i = { c with issues := c.issues ++ [i] } := by
  rw [add, hasId_eq_false_iff.mpr hid, if_neg Bool.false_ne_true, if_pos hpriority]

theorem nodup_ids_add (n : Nat) (i : Issue) (h : (c.issues.map Issue.id).Nodup) :
    ((c.add n i).issues.map Issue.id).Nodup := by
  unfold add
  split
  · exact h
  · next hid =>
    have hfree : i.id ∉ c.issues.map Issue.id := hasId_eq_false_iff.mp (Bool.eq_false_iff.mpr hid)
    have hnodup : (c.issues.map Issue.id ++ [i.id]).Nodup :=
      List.nodup_append.mpr ⟨h, List.pairwise_singleton _ _, by simpa using hfree⟩
    split
    · rwa [List.map_append]
    · rwa [List.map_append]

theorem nodup_ids_addLine (n : Nat) (text : List Char) (h : (c.issues.map Issue.id).Nodup) :
    ((c.addLine n text).issues.map Issue.id).Nodup := by
  unfold addLine
  dsimp only
  split
  · exact h
  · split
    · exact nodup_ids_add n _ h
    · exact h

theorem nodup_ids_addLines (n : Nat) (lines : List (List UInt8))
    (h : (c.issues.map Issue.id).Nodup) : ((c.addLines n lines).1.issues.map Issue.id).Nodup := by
  induction lines generalizing c n with
  | nil => exact h
  | cons l ls ih =>
    rw [addLines]
    split
    · exact ih (n + 1) (nodup_ids_addLine n _ h)
    · exact h

/-- Whatever the bytes, no two issues that are read have one id. -/
theorem nodup_ids_read (bytes : List UInt8) : ((read bytes).1.issues.map Issue.id).Nodup :=
  nodup_ids_addLines 1 _ List.nodup_nil

theorem addLines_lines (n : Nat) (hids : ((c.issues ++ issues).map Issue.id).Nodup)
    (hpriority : ∀ i ∈ issues, i.priority ≤ Priority.lowest) :
    c.addLines n (issues.map Issue.line) = ({ c with issues := c.issues ++ issues }, none) := by
  induction issues generalizing c n with
  | nil => simp [addLines]
  | cons i issues ih =>
    obtain ⟨hi, hpriority⟩ := List.forall_mem_cons.mp hpriority
    have hid : i.id ∉ c.issues.map Issue.id := by
      rw [List.map_append, List.nodup_append] at hids
      exact fun h => hids.2.2 i.id h i.id List.mem_cons_self rfl
    rw [List.map_cons, addLines, Issue.line, Utf8.decode_encode]
    dsimp only
    rw [addLine_compact, add_new n hid hi, ih (n + 1) (by simpa using hids) hpriority]
    simp

/-- The issues one a line, with or without a line break behind the last one. -/
def written (issues : List Issue) (ended : Bool) : List UInt8 :=
  List.intercalate [10] (issues.map Issue.line) ++ (if ended then [10] else [])

theorem linesOf_written (ended : Bool) (h : issues ≠ []) :
    Text.linesOf 10 13 (written issues ended) = issues.map Issue.line := by
  -- Only the last line may stand without a line break behind it.
  induction issues with
  | nil => exact absurd rfl h
  | cons i issues ih =>
    cases issues with
    | nil =>
      cases ended with
      | true =>
        have hwritten : written [i] true = i.line ++ 10 :: [] := by
          simp [written, List.intercalate]
        rw [hwritten, Text.linesOf_append_newline i.line_unbroken]
        rfl
      | false =>
        have hwritten : written [i] false = i.line := by simp [written, List.intercalate]
        rw [hwritten, Text.linesOf_unbroken i.line_unbroken i.line_ne_nil]
        rfl
    | cons i' issues =>
      have hwritten : written (i :: i' :: issues) ended =
          i.line ++ 10 :: written (i' :: issues) ended := by
        simp [written, List.intercalate]
      rw [hwritten, Text.linesOf_append_newline i.line_unbroken, ih (List.cons_ne_nil i' issues)]
      rfl

/-- Issues with ids of their own and priorities that are not too low are read back as written. -/
theorem read_written (issues : List Issue) (ended : Bool) (hids : (issues.map Issue.id).Nodup)
    (hpriority : ∀ i ∈ issues, i.priority ≤ Priority.lowest) :
    read (written issues ended) = ({ issues := issues, warnings := [] }, none) := by
  by_cases h : issues = []
  · subst h
    cases ended <;> rfl
  · rw [read, linesOf_written ended h, addLines_lines (c := {}) 1 hids hpriority]
    rfl

/-- An issue with line breaks, quotes, blanks at the ends and a tag of the user's own. -/
def awkwardIssue : Issue where
  id := " a\n"
  title := "\r\n\"\\\t"
  priority := 4
  status := some .review
  dependencies := [⟨" a\n", "\u2028", .ofTag "Blocks "⟩]

theorem read_written_awkward :
    ([awkwardIssue, { id := "a" }].map Issue.id).Nodup ∧
      (∀ i ∈ [awkwardIssue, { id := "a" }], i.priority ≤ Priority.lowest) ∧
      read (written [awkwardIssue, { id := "a" }] true) =
        ({ issues := [awkwardIssue, { id := "a" }], warnings := [] }, none) :=
  ⟨by decide, by decide, read_written _ true (by decide) (by decide)⟩

end Collection

end IssueGraph
