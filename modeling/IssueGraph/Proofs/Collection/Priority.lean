import IssueGraph.Proofs.Collection.Account
import IssueGraph.Proofs.Json.Integer
import Mathlib.Data.List.Induction

/-!
# Priorities out of range

A record may give its issue any integer as priority. Only integers that fit a byte are read: of
those, what is too low is raised, and the record counts as if its priority had been in range. Other
integers make the whole record unreadable, and it counts as if it were not there, but for a warning.
Main statement: `Collection.read_priority_out_of_range`.
-/
namespace IssueGraph

open Json

variable {i : Issue} {p : Int} {text : String} {mayFail : Prop}

/-! ## One record -/

namespace Issue

/-- The text is a record of the issue that can be read but for its priority, the integer `p`:
whatever byte `p` is taken for is read as the priority. -/
def RecordedWith (p : Int) (i : Issue) (text : String) : Prop :=
  ∀ n < 256, readText (shape.readWith (readAs p n)) text = .ok (i.withPriority (.ofNat n))

instance (p : Int) (i : Issue) (text : String) : Decidable (RecordedWith p i text) :=
  Nat.decidableBallLT 256 fun n _ =>
    readText (shape.readWith (readAs p n)) text = .ok (i.withPriority (.ofNat n))

theorem tightens_shape {number : Reader Nat}
    (hnumber : Reader.Tightens mayFail number (Shape.count 256 "u8").read) :
    Reader.Tightens mayFail (shape.readWith number) shape.read := by
  refine Shape.tightens_image _ (Shape.tightens_record _ ?_)
  exact .cons _ _ (.refl _) (.cons _ _ (.refl _) (.cons _ _ hnumber
    (.cons _ _ (.refl _) (.cons _ _ (.refl _) .nil))))

theorem RecordedWith.ne_empty (h : RecordedWith p i text) : text ≠ "" := by
  rintro rfl
  cases h 0 (by decide)

/-- A priority that fits a byte is read. -/
theorem RecordedWith.readText {n : Nat} (h : RecordedWith n i text) (hn : n < 256) :
    shape.readText text = .ok (i.withPriority (.ofNat n)) := by
  have htight : Tightens False (Json.readText (shape.readWith (readAs n n)) text)
      (shape.readText text) :=
    tightens_readText (tightens_shape (tightens_count_of_lt "u8" hn (by decide))) text
  rcases htight _ (h n hn) with hread | ⟨hfalse, -⟩
  · exact hread
  · exact hfalse.elim

/-- A priority that does not fit a byte makes the record unreadable. -/
theorem RecordedWith.exists_fault (h : RecordedWith p i text) (hp : ¬ (0 ≤ p ∧ p < 256)) :
    ∃ fault, shape.readText text = .error fault := by
  have htight := fun n => tightens_readText
    (tightens_shape (tightens_count_of_out_of_range "u8" hp n)) text
  rcases htight 0 _ (h 0 (by decide)) with hzero | ⟨-, hfault⟩
  · rcases htight 1 _ (h 1 (by decide)) with hone | ⟨-, hfault⟩
    · have hsame : i.withPriority (.ofNat 0) = i.withPriority (.ofNat 1) :=
        Except.ok.inj (hzero.symm.trans hone)
      have hpriority : (0 : Priority) = 1 := congrArg Issue.priority hsame
      exact absurd hpriority (by decide)
    · exact hfault
  · exact hfault

end Issue

namespace Collection

variable {texts texts' : List String} {parts before : List Collection} {part : Collection}

/-! ## One line among others -/

theorem taken_replace {after : List Collection} {part₁ : Collection}
    (hids : part₁.issues.map (·.id) = part.issues.map (·.id)) :
    Taken (before ++ part₁ :: after) = Taken (before ++ part :: after) := by
  have htaken : ∀ parts id, Taken parts id ↔ ∃ part ∈ parts, id ∈ part.issues.map (·.id) := by
    simp [Taken]
  funext id
  simp only [htaken, List.mem_append, List.mem_cons, or_and_right, exists_or, exists_eq_left, hids]

/-- What a line has added can be replaced if the issues are those with the same ids: lines after it
add what they did. -/
theorem Account.exists_replace (h : Account (texts ++ text :: texts') parts) :
    ∃ before part after, parts = before ++ part :: after ∧ Account texts before ∧
      Adds (Taken before) (texts.length + 1) text part ∧
      ∀ text₁ part₁, Adds (Taken before) (texts.length + 1) text₁ part₁ →
        part₁.issues.map (·.id) = part.issues.map (·.id) →
        Account (texts ++ text₁ :: texts') (before ++ part₁ :: after) := by
  induction texts' using List.reverseRecOn generalizing parts with
  | nil =>
    rcases h.nil_or_snoc with ⟨htexts, -⟩ | ⟨texts₀, before, text₀, part, htexts, rfl, hbefore, hadds⟩
    · simp at htexts
    · obtain ⟨rfl, htext⟩ := List.append_inj' htexts rfl
      obtain rfl := List.singleton_inj.mp htext
      exact ⟨before, part, [], rfl, hbefore, hadds, fun _ _ hadds₁ _ => hbefore.snoc hadds₁⟩
  | append_singleton texts' last ih =>
    rw [← List.cons_append, ← List.append_assoc] at h
    rcases h.nil_or_snoc with ⟨htexts, -⟩ | ⟨texts₀, parts₀, text₀, part₀, htexts, rfl, h₀, hadds₀⟩
    · simp at htexts
    · obtain ⟨rfl, htext⟩ := List.append_inj' htexts rfl
      obtain rfl := List.singleton_inj.mp htext
      obtain ⟨before, part, after, rfl, hbefore, hadds, hreplace⟩ := ih h₀
      refine ⟨before, part, after ++ [part₀], by simp, hbefore, hadds, ?_⟩
      intro text₁ part₁ hadds₁ hids
      have hadds : Adds (Taken (before ++ part₁ :: after))
          ((texts ++ text₁ :: texts').length + 1) last part₀ := by
        rw [taken_replace hids]
        simpa using hadds₀
      simpa using (hreplace text₁ part₁ hadds₁ hids).snoc hadds

/-- The one warning that a line has added is the only one about it. -/
theorem Account.filter_warnings {after : List Collection} {w : Warning}
    (h : Account (texts ++ text :: texts') (before ++ part :: after)) (hbefore : Account texts before)
    (hpart : part.warnings = [w]) (hw : w.lineNumber = texts.length + 1) :
    (join (before ++ part :: after)).warnings.filter (·.lineNumber = texts.length + 1) = [w] := by
  have hwarnings : (join (before ++ part :: after)).warnings =
      (join before).warnings ++ w :: (join after).warnings := by
    simp [join, hpart]
  have hearlier := hbefore.lineNumbers_increasing.1
  have hlater : ∀ v ∈ (join after).warnings, texts.length + 1 < v.lineNumber := by
    have horder := h.lineNumbers_increasing.2
    rw [hwarnings, List.map_append, List.map_cons, List.pairwise_append] at horder
    intro v hv
    rw [← hw]
    exact List.rel_of_pairwise_cons horder.2.1 (List.mem_map_of_mem hv)
  rw [hwarnings, List.filter_append, List.filter_cons_of_pos (by simpa using hw),
    List.filter_eq_nil_iff.mpr, List.filter_eq_nil_iff.mpr, List.nil_append]
  · intro v hv
    simpa using Nat.ne_of_gt (hlater v hv)
  · intro v hv
    simpa using Nat.ne_of_lt (Nat.lt_succ_of_le (hearlier _ (List.mem_map_of_mem hv)))

/-! ## Reading -/

theorem exists_account_read (s : String) : ∃ parts, Account (trimmedLines s) parts ∧
    read (Utf8.encode s) = (join parts, none) := by
  obtain ⟨parts, haccount, hread⟩ :=
    exists_account_addLines (Text.linesOf '\n' '\r' s.toList) .nil
  rw [List.nil_append] at haccount
  refine ⟨parts, haccount, ?_⟩
  rw [read, Text.linesOf_encode]
  exact hread

theorem read_of_account {s : String} (h : Account (trimmedLines s) parts) :
    read (Utf8.encode s) = (join parts, none) := by
  obtain ⟨parts', h', hread⟩ := exists_account_read s
  obtain rfl := h.unique h'
  exact hread

/-- What a line adds whose issue is kept with the lowest priority. -/
def raised (number : Nat) (i : Issue) (priority : Priority) : Collection :=
  { issues := [i.withPriority Priority.lowest], warnings := [.priority number i.id priority] }

section Record

variable {s : String} (hlines : trimmedLines s = texts ++ text :: texts')
  (hrecord : i.RecordedWith p text) (hbefore : Account texts before)
include hlines hrecord hbefore

/-- Lines around a record whose priority is too low add what they add when it is not. -/
theorem read_raised {n : Nat} (hn : Priority.lowest.toNat < n) (hbyte : n < 256) (hpn : p = n)
    (hfree : ¬ Taken before i.id) : ∃ c after, read (Utf8.encode s) = (c, none) ∧
      c = join (before ++ raised (texts.length + 1) i (.ofNat n) :: after) ∧
      c.warnings.filter (·.lineNumber = texts.length + 1) =
        [.priority (texts.length + 1) i.id (.ofNat n)] ∧
      ∀ s₁ text₁ q, trimmedLines s₁ = texts ++ text₁ :: texts' →
        Issue.shape.readText text₁ = .ok (i.withPriority q) → q ≤ Priority.lowest →
        read (Utf8.encode s₁) =
          (join (before ++ { issues := [i.withPriority q] } :: after), none) := by
  subst hpn
  obtain ⟨parts, haccount, hread⟩ := exists_account_read s
  rw [hlines] at haccount
  obtain ⟨before', part, after, rfl, hbefore', hadds, hreplace⟩ := haccount.exists_replace
  obtain rfl := hbefore.unique hbefore'
  have hlow : Priority.lowest < (.ofNat n : Priority) := by
    rw [UInt8.lt_iff_toNat_lt, UInt8.toNat_ofNat_of_lt' hbyte]
    exact hn
  obtain rfl : part = raised (texts.length + 1) i (.ofNat n) := hadds.unique
    (.raised hrecord.ne_empty (hrecord.readText hbyte) hfree hlow)
  refine ⟨_, after, hread, rfl, haccount.filter_warnings hbefore rfl rfl, ?_⟩
  intro s₁ text₁ q hlines₁ hread₁ hq
  have hne : text₁ ≠ "" := by
    rintro rfl
    cases hread₁
  refine read_of_account ?_
  rw [hlines₁]
  exact hreplace text₁ _ (.issue hne hread₁ hfree hq) rfl

/-- Lines around a record whose priority is no byte add what they add when its line is blank. -/
theorem read_refused (hp : ¬ (0 ≤ p ∧ p < 256)) : ∃ c after fault,
    read (Utf8.encode s) = (c, none) ∧
      c = join (before ++ { warnings := [.malformed (texts.length + 1) fault] } :: after) ∧
      c.warnings.filter (·.lineNumber = texts.length + 1) =
        [.malformed (texts.length + 1) fault] ∧
      ∀ s₁, trimmedLines s₁ = texts ++ "" :: texts' →
        read (Utf8.encode s₁) = (join (before ++ ({} : Collection) :: after), none) := by
  obtain ⟨parts, haccount, hread⟩ := exists_account_read s
  rw [hlines] at haccount
  obtain ⟨before', part, after, rfl, hbefore', hadds, hreplace⟩ := haccount.exists_replace
  obtain rfl := hbefore.unique hbefore'
  obtain ⟨fault, hfault⟩ := hrecord.exists_fault hp
  obtain rfl := hadds.unique (.malformed hrecord.ne_empty hfault)
  refine ⟨_, after, fault, hread, rfl, haccount.filter_warnings hbefore rfl rfl, ?_⟩
  intro s₁ hlines₁
  refine read_of_account ?_
  rw [hlines₁]
  exact hreplace "" {} (.blank rfl) rfl

end Record

/-- A record whose priority is out of range is repaired exactly if the priority fits a byte: then its
issue is kept with the lowest priority, its line has that one warning, and the other lines add what
they add when the priority is in range. Otherwise the line is refused as malformed, and the other
lines add what they add when it is blank. -/
theorem read_priority_out_of_range {s : String} (hlines : trimmedLines s = texts ++ text :: texts')
    (hrecord : i.RecordedWith p text)
    (hp : p < Priority.highest.toNat ∨ Priority.lowest.toNat < p)
    (hbefore : Account texts before) (hfree : ¬ Taken before i.id) :
    (0 ≤ p ∧ p < 256 → ∃ c after, read (Utf8.encode s) = (c, none) ∧
      c = join (before ++ raised (texts.length + 1) i (.ofNat p.toNat) :: after) ∧
      c.warnings.filter (·.lineNumber = texts.length + 1) =
        [.priority (texts.length + 1) i.id (.ofNat p.toNat)] ∧
      ∀ s₁ text₁ q, trimmedLines s₁ = texts ++ text₁ :: texts' →
        Issue.shape.readText text₁ = .ok (i.withPriority q) → q ≤ Priority.lowest →
        read (Utf8.encode s₁) =
          (join (before ++ { issues := [i.withPriority q] } :: after), none)) ∧
    (¬ (0 ≤ p ∧ p < 256) → ∃ c after fault, read (Utf8.encode s) = (c, none) ∧
      c = join (before ++ { warnings := [.malformed (texts.length + 1) fault] } :: after) ∧
      c.warnings.filter (·.lineNumber = texts.length + 1) =
        [.malformed (texts.length + 1) fault] ∧
      ∀ s₁, trimmedLines s₁ = texts ++ "" :: texts' →
        read (Utf8.encode s₁) = (join (before ++ ({} : Collection) :: after), none)) := by
  refine ⟨?_, read_refused hlines hrecord hbefore⟩
  rintro ⟨hnonneg, hbyte⟩
  obtain ⟨n, rfl⟩ := Int.eq_ofNat_of_zero_le hnonneg
  have hlow : Priority.lowest.toNat < n := by
    rcases hp with hneg | hlow
    · exact absurd hneg (Int.not_lt.mpr hnonneg)
    · exact Int.ofNat_lt.mp hlow
  exact read_raised hlines hrecord hbefore hlow (Int.ofNat_lt.mp hbyte) rfl hfree

/-- A record of the issue `a` with some priority. -/
def recordText (p : Int) : String := (Json.obj [("id", .str "a"), ("priority", .int p)]).compactText

/-- Priority nine on the second of three lines; the third line gives the same id again. -/
def threeLines : String :=
  (Issue.toJson { id := "b" }).compactText ++ "\n" ++ recordText 9 ++ "\n" ++ recordText 0

theorem read_priority_out_of_range_of_nine :
    Issue.RecordedWith 9 { id := "a" } (recordText 9) ∧
      ∃ c, read (Utf8.encode threeLines) = (c, none) ∧
        c.warnings.filter (·.lineNumber = 2) = [.priority 2 "a" 9] ∧
        c.issues = [{ id := "b" }, { id := "a", priority := 4 }] := by
  have hlines : trimmedLines threeLines =
      [(Issue.toJson { id := "b" }).compactText] ++ recordText 9 :: [recordText 0] := by
    decide +kernel
  have hrecord : Issue.RecordedWith 9 { id := "a" } (recordText 9) := by decide +kernel
  have hadds : Adds (Taken []) 1 (Issue.toJson { id := "b" }).compactText
      { issues := [{ id := "b" }] } :=
    .issue (by decide +kernel) (by decide +kernel) (by simp [Taken]) (by decide)
  have hfree : ¬ Taken [{ issues := [{ id := "b" }] }] "a" := by simp [Taken]
  obtain ⟨c, -, hread, -, hwarnings, -⟩ :=
    (read_priority_out_of_range hlines hrecord (.inr (by decide)) (.snoc .nil hadds) hfree).1
      (by decide)
  refine ⟨hrecord, c, hread, hwarnings, ?_⟩
  have hissues : (read (Utf8.encode threeLines)).1.issues =
      [{ id := "b" }, { id := "a", priority := 4 }] := by
    decide +kernel
  rwa [hread] at hissues

/-- A record with a priority that does not fit a byte is dropped. -/
theorem read_drops_large_priority : Issue.RecordedWith 256 { id := "a" } (recordText 256) ∧
    (read (Utf8.encode (recordText 256))).1.issues = [] ∧
    (read (Utf8.encode (recordText 256))).1.warnings.map (·.kind) = ["malformed_json"] := by
  decide +kernel

end Collection

end IssueGraph
