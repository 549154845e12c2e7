import IssueGraph.Proofs.Collection

/-!
# What each line adds to a collection

A text is read line by line. `Adds` says what one line adds when some ids are taken, and `Account`
lists what each line of a text has added, the taken ids being those of the issues added so far. That
the priorities are in range, the warnings in the order of their lines and all lines accounted for
follows from it by induction on the lines. Main statement: `Collection.read_account`.
-/
namespace IssueGraph.Collection

/-- The ids of the issues in some parts. -/
def Taken (parts : List Collection) (id : IssueId) : Prop :=
  ∃ part ∈ parts, ∃ i ∈ part.issues, i.id = id

/-- What the trimmed text of a line adds when some ids are taken. -/
inductive Adds (taken : IssueId → Prop) (number : Nat) (text : String) : Collection → Prop
  | blank : text = "" → Adds taken number text {}
  | malformed {fault : Json.Fault} : text ≠ "" → Issue.shape.readText text = .error fault →
      Adds taken number text { warnings := [.malformed number fault] }
  | duplicate {i : Issue} : text ≠ "" → Issue.shape.readText text = .ok i → taken i.id →
      Adds taken number text { warnings := [.duplicate number i.id] }
  | issue {i : Issue} : text ≠ "" → Issue.shape.readText text = .ok i → ¬ taken i.id →
      i.priority ≤ Priority.lowest → Adds taken number text { issues := [i] }
  | raised {i : Issue} : text ≠ "" → Issue.shape.readText text = .ok i → ¬ taken i.id →
      Priority.lowest < i.priority →
      Adds taken number text
        { issues := [i.withPriority Priority.lowest]
          warnings := [.priority number i.id i.priority] }

/-- What each of some lines adds, the first of them being line one. -/
inductive Account : List String → List Collection → Prop
  | nil : Account [] []
  | snoc {texts : List String} {parts : List Collection} {text : String} {part : Collection} :
      Account texts parts → Adds (Taken parts) (texts.length + 1) text part →
      Account (texts ++ [text]) (parts ++ [part])

/-- All that some parts hold, in order. -/
def join (parts : List Collection) : Collection :=
  { issues := parts.flatMap (·.issues), warnings := parts.flatMap (·.warnings) }

variable {parts : List Collection} {part : Collection} {texts : List String} {text : String}
  {taken : IssueId → Prop} {number : Nat} {id : IssueId}

theorem join_snoc : join (parts ++ [part]) =
    { issues := (join parts).issues ++ part.issues
      warnings := (join parts).warnings ++ part.warnings } := by
  simp [join]

theorem hasId_join_iff : (join parts).hasId id = true ↔ Taken parts id := by
  simp [hasId, join, Taken]

/-! ## One line -/

theorem Adds.unique {part' : Collection} (h : Adds taken number text part)
    (h' : Adds taken number text part') : part = part' := by
  cases h with
  | blank => cases h' <;> simp_all
  | malformed => cases h' <;> simp_all
  | duplicate => cases h' <;> simp_all
  | issue => cases h' <;> grind
  | raised => cases h' <;> grind

theorem Adds.priority_le (h : Adds taken number text part) :
    ∀ i ∈ part.issues, i.priority ≤ Priority.lowest := by
  cases h with
  | issue _ _ _ hle => simpa using hle
  | raised => simp [Issue.withPriority]
  | blank | malformed | duplicate => simp

theorem Adds.warnings_nil_or_number (h : Adds taken number text part) :
    part.warnings = [] ∨ part.warnings.map (·.lineNumber) = [number] := by
  cases h with
  | blank | issue => exact .inl rfl
  | malformed | duplicate | raised => exact .inr rfl

/-- A line that is not blank adds an issue or a warning that says why not. -/
theorem Adds.countP_nonblank (h : Adds taken number text part) :
    (if text = "" then 0 else 1) = part.issues.length +
      part.warnings.countP (·.kind = "duplicate_id") +
      part.warnings.countP (·.kind = "malformed_json") := by
  cases h with
  | blank htext => simp [htext]
  | malformed htext => simp [htext, Warning.kind]
  | duplicate htext => simp [htext, Warning.kind]
  | issue htext => simp [htext]
  | raised htext => simp [htext, Warning.kind]

theorem exists_adds_addLine (parts : List Collection) (number : Nat) (line : List Char) :
    ∃ part, Adds (Taken parts) number (String.ofList (Text.trim line)) part ∧
      (join parts).addLine number line = join (parts ++ [part]) := by
  rw [addLine]
  by_cases htext : String.ofList (Text.trim line) = ""
  · refine ⟨{}, .blank htext, ?_⟩
    rw [if_pos (by simp [htext]), join_snoc]
    simp
  rw [if_neg (by simpa using htext)]
  cases hread : Issue.shape.readText (String.ofList (Text.trim line)) with
  | error fault =>
    refine ⟨_, .malformed htext hread, ?_⟩
    rw [join_snoc]
    simp [warn]
  | ok i =>
    dsimp only
    rw [add]
    by_cases hid : (join parts).hasId i.id = true
    · refine ⟨_, .duplicate htext hread (hasId_join_iff.mp hid), ?_⟩
      rw [if_pos hid, join_snoc]
      simp [warn]
    have hfree : ¬ Taken parts i.id := fun h => hid (hasId_join_iff.mpr h)
    rw [if_neg hid]
    by_cases hpriority : i.priority ≤ Priority.lowest
    · refine ⟨_, .issue htext hread hfree hpriority, ?_⟩
      rw [if_pos hpriority, join_snoc]
      simp
    · refine ⟨_, .raised htext hread hfree (UInt8.not_le.mp hpriority), ?_⟩
      rw [if_neg hpriority, join_snoc]

/-! ## All lines -/

namespace Account

theorem nil_or_snoc (h : Account texts parts) : (texts = [] ∧ parts = []) ∨
    ∃ texts₀ parts₀ text part, texts = texts₀ ++ [text] ∧ parts = parts₀ ++ [part] ∧
      Account texts₀ parts₀ ∧ Adds (Taken parts₀) (texts₀.length + 1) text part := by
  cases h with
  | nil => exact .inl ⟨rfl, rfl⟩
  | snoc h hadds => exact .inr ⟨_, _, _, _, rfl, rfl, h, hadds⟩

theorem unique {parts' : List Collection} (h : Account texts parts) (h' : Account texts parts') :
    parts = parts' := by
  induction h generalizing parts' with
  | nil =>
    rcases h'.nil_or_snoc with ⟨-, rfl⟩ | ⟨_, _, _, _, htexts, -⟩
    · rfl
    · simp at htexts
  | snoc _ hadds ih =>
    rcases h'.nil_or_snoc with ⟨htexts, -⟩ | ⟨_, _, _, _, htexts, rfl, h₀, hadds₀⟩
    · simp at htexts
    · obtain ⟨rfl, htext⟩ := List.append_inj' htexts rfl
      obtain rfl := List.singleton_inj.mp htext
      obtain rfl := ih h₀
      rw [hadds.unique hadds₀]

theorem priority_le (h : Account texts parts) :
    ∀ i ∈ (join parts).issues, i.priority ≤ Priority.lowest := by
  induction h with
  | nil => simp [join]
  | snoc _ hadds ih =>
    rw [join_snoc]
    intro i hi
    rcases List.mem_append.mp hi with hi | hi
    · exact ih i hi
    · exact hadds.priority_le i hi

theorem lineNumbers_increasing (h : Account texts parts) :
    (∀ n ∈ (join parts).warnings.map (·.lineNumber), n ≤ texts.length) ∧
      ((join parts).warnings.map (·.lineNumber)).Pairwise (· < ·) := by
  induction h with
  | nil => exact ⟨by simp [join], List.Pairwise.nil⟩
  | @snoc texts parts text part _ hadds ih =>
    -- Order alone is not inductive: the new number must exceed all that were used.
    obtain ⟨hle, hord⟩ := ih
    rw [join_snoc, List.map_append, List.length_append, List.length_singleton]
    rcases hadds.warnings_nil_or_number with hnone | hone
    · rw [hnone, List.map_nil, List.append_nil]
      exact ⟨fun n hn => Nat.le_succ_of_le (hle n hn), hord⟩
    · rw [hone, List.pairwise_append]
      refine ⟨?_, hord, List.pairwise_singleton _ _, ?_⟩
      · intro n hn
        rcases List.mem_append.mp hn with hn | hn
        · exact Nat.le_succ_of_le (hle n hn)
        · exact Nat.le_of_eq (List.mem_singleton.mp hn)
      · intro n hn m hm
        obtain rfl := List.mem_singleton.mp hm
        exact Nat.lt_succ_of_le (hle n hn)

theorem countP_nonblank (h : Account texts parts) :
    texts.countP (· ≠ "") = (join parts).issues.length +
      (join parts).warnings.countP (·.kind = "duplicate_id") +
      (join parts).warnings.countP (·.kind = "malformed_json") := by
  induction h with
  | nil => rfl
  | @snoc texts parts text part _ hadds ih =>
    have hone : [text].countP (· ≠ "") = if text = "" then 0 else 1 := by
      by_cases htext : text = "" <;> simp [htext]
    rw [join_snoc, List.countP_append, List.countP_append, List.countP_append, List.length_append,
      ih, hone, hadds.countP_nonblank]
    omega

end Account

/-- The trimmed texts of the lines of a text. -/
def trimmedLines (s : String) : List String :=
  (Text.linesOf '\n' '\r' s.toList).map fun line => String.ofList (Text.trim line)

/-- Reading on from an account leads to an account of the lines read before and now. -/
theorem exists_account_addLines (lines : List (List Char)) (h : Account texts parts) :
    ∃ parts', Account (texts ++ lines.map fun line => String.ofList (Text.trim line)) parts' ∧
      (join parts).addLines (texts.length + 1) (lines.map (·.flatMap String.utf8EncodeChar)) =
        (join parts', none) := by
  induction lines generalizing texts parts with
  | nil => exact ⟨parts, by simpa using h, rfl⟩
  | cons line lines ih =>
    obtain ⟨part, hadds, hline⟩ := exists_adds_addLine parts (texts.length + 1) line
    obtain ⟨parts', haccount, hrest⟩ := ih (h.snoc hadds)
    refine ⟨parts', by simpa using haccount, ?_⟩
    rw [List.map_cons, addLines, Utf8.decode_flatMap]
    dsimp only
    rw [hline]
    simpa using hrest

/-- Text is read without a fault, and the collection is the sum of what its lines add one by one. So
ids are distinct and priorities in range, a line has one warning at most, the warnings are in the
order of their lines, and every line that is not blank is an issue or is warned about as a duplicate
or as malformed. -/
theorem read_account (s : String) : ∃ parts, Account (trimmedLines s) parts ∧
    (∀ parts', Account (trimmedLines s) parts' → parts' = parts) ∧
    read (Utf8.encode s) = (join parts, none) ∧
    ((join parts).issues.map (·.id)).Nodup ∧
    (∀ i ∈ (join parts).issues, Priority.highest ≤ i.priority ∧ i.priority ≤ Priority.lowest) ∧
    ((join parts).warnings.map (·.lineNumber)).Pairwise (· < ·) ∧
    (trimmedLines s).countP (· ≠ "") = (join parts).issues.length +
      (join parts).warnings.countP (·.kind = "duplicate_id") +
      (join parts).warnings.countP (·.kind = "malformed_json") := by
  obtain ⟨parts, haccount, hread⟩ :=
    exists_account_addLines (Text.linesOf '\n' '\r' s.toList) .nil
  rw [List.nil_append] at haccount
  have hwhole : read (Utf8.encode s) = (join parts, none) := by
    rw [read, Text.linesOf_encode]
    exact hread
  have hids := nodup_ids_read (Utf8.encode s)
  rw [hwhole] at hids
  refine ⟨parts, haccount, fun _ h => h.unique haccount, hwhole, hids, ?_,
    haccount.lineNumbers_increasing.2, haccount.countP_nonblank⟩
  intro i hi
  exact ⟨UInt8.zero_le, haccount.priority_le i hi⟩

end IssueGraph.Collection
