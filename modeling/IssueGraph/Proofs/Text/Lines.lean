import IssueGraph.Proofs.Text.Utf8
import IssueGraph.Text.Basic

/-!
# Lines of encoded text

Bytes are split into lines before they are decoded. Nothing is lost by that: a byte below 128 is a
character by itself, so the lines of the bytes of a text are the bytes of its lines. A line put in
behind whole lines is one line of the whole, and what surrounds it is split as before. Main
statements: `Text.linesOf_encode` and `Text.linesOf_insert`.
-/
namespace IssueGraph.Text

section Split

variable {α : Type} [BEq α] [LawfulBEq α] {newline carriage a : α} {piece rest : List α}

/-- Put a piece in front of the first line. -/
def prependLine (piece : List α) : List (List α) → List (List α)
  | [] => [piece]
  | l :: ls => (piece ++ l) :: ls

omit [BEq α] [LawfulBEq α] in
theorem map_flatMap_prependLine {β : Type} (f : α → List β) (piece : List α)
    (lines : List (List α)) :
    (prependLine piece lines).map (·.flatMap f) =
      prependLine (piece.flatMap f) (lines.map (·.flatMap f)) := by
  cases lines with
  | nil => rfl
  | cons l ls => simp [prependLine]

omit [BEq α] [LawfulBEq α] in
theorem prependLine_prependLine (piece piece' : List α) (lines : List (List α)) :
    prependLine piece (prependLine piece' lines) = prependLine (piece ++ piece') lines := by
  cases lines with
  | nil => rfl
  | cons l ls => simp [prependLine]

theorem linesOf_newline :
    linesOf newline carriage (newline :: rest) = [] :: linesOf newline carriage rest := by
  rw [linesOf, if_pos (beq_self_eq_true newline)]

theorem linesOf_carriage (hne : carriage ≠ newline) (hrest : rest.head? = some newline) :
    linesOf newline carriage (carriage :: rest) = linesOf newline carriage rest := by
  rw [linesOf, if_neg (by simpa using hne), if_pos (by simp [hrest])]

theorem linesOf_cons (hne : a ≠ newline) (hbreak : a = carriage → rest.head? ≠ some newline) :
    linesOf newline carriage (a :: rest) = prependLine [a] (linesOf newline carriage rest) := by
  rw [linesOf, if_neg (by simpa using hne), if_neg (by simpa using hbreak)]
  rfl

/-- Items that break no line stay in front of the first line. -/
theorem linesOf_append (h : ∀ a ∈ piece, a ≠ newline ∧ a ≠ carriage) (hpiece : piece ≠ []) :
    linesOf newline carriage (piece ++ rest) =
      prependLine piece (linesOf newline carriage rest) := by
  induction piece with
  | nil => exact absurd rfl hpiece
  | cons a piece ih =>
    obtain ⟨⟨hnewline, hcarriage⟩, hrest⟩ := List.forall_mem_cons.mp h
    rw [List.cons_append, linesOf_cons hnewline fun hc => absurd hc hcarriage]
    by_cases hp : piece = []
    · rw [hp, List.nil_append]
    · rw [ih hrest hp, prependLine_prependLine, List.singleton_append]

theorem linesOf_append_newline (h : ∀ a ∈ piece, a ≠ newline ∧ a ≠ carriage) :
    linesOf newline carriage (piece ++ newline :: rest) =
      piece :: linesOf newline carriage rest := by
  by_cases hpiece : piece = []
  · rw [hpiece, List.nil_append, linesOf_newline]
  · rw [linesOf_append h hpiece, linesOf_newline, prependLine, List.append_nil]

theorem linesOf_unbroken (h : ∀ a ∈ piece, a ≠ newline ∧ a ≠ carriage) (hpiece : piece ≠ []) :
    linesOf newline carriage piece = [piece] := by
  have hlines : linesOf newline carriage (piece ++ []) = [piece] := linesOf_append h hpiece
  rwa [List.append_nil] at hlines

/-! ### Whole lines -/

/-- Items that end with a newline, if there are any. -/
def WholeLines (newline : α) (items : List α) : Prop :=
  items = [] ∨ items.getLast? = some newline

omit [BEq α] [LawfulBEq α] in
theorem prependLine_ne_nil (piece : List α) (lines : List (List α)) :
    prependLine piece lines ≠ [] := by
  cases lines with
  | nil => exact List.cons_ne_nil _ _
  | cons l ls => exact List.cons_ne_nil _ _

omit [BEq α] [LawfulBEq α] in
theorem prependLine_append {lines : List (List α)} (h : lines ≠ []) (lines' : List (List α)) :
    prependLine piece (lines ++ lines') = prependLine piece lines ++ lines' := by
  cases lines with
  | nil => exact absurd rfl h
  | cons l ls => rfl

theorem linesOf_ne_nil (h : rest ≠ []) : linesOf newline carriage rest ≠ [] := by
  induction rest with
  | nil => exact absurd rfl h
  | cons a rest ih =>
    by_cases hnewline : a = newline
    · rw [hnewline, linesOf_newline]
      exact List.cons_ne_nil _ _
    by_cases hbreak : a = carriage ∧ rest.head? = some newline
    · obtain ⟨rfl, hhead⟩ := hbreak
      rw [linesOf_carriage hnewline hhead]
      exact ih fun hnil => by simp [hnil] at hhead
    · rw [linesOf_cons hnewline fun hc hhead => hbreak ⟨hc, hhead⟩]
      exact prependLine_ne_nil _ _

theorem linesOf_wholeLines_append (h : WholeLines newline piece) :
    linesOf newline carriage (piece ++ rest) =
      linesOf newline carriage piece ++ linesOf newline carriage rest := by
  induction piece with
  | nil => rfl
  | cons a piece ih =>
    have hlast : (a :: piece).getLast? = some newline := h.resolve_left (List.cons_ne_nil a piece)
    have hpiece : WholeLines newline piece := by
      by_cases hnil : piece = []
      · exact .inl hnil
      · exact .inr (by rwa [List.getLast?_cons_of_ne_nil hnil] at hlast)
    rw [List.cons_append]
    by_cases hnewline : a = newline
    · rw [hnewline, linesOf_newline, linesOf_newline, ih hpiece, List.cons_append]
    have hne : piece ≠ [] := by
      rintro rfl
      exact hnewline (Option.some_inj.mp hlast)
    have hhead : (piece ++ rest).head? = piece.head? := by
      cases piece with
      | nil => exact absurd rfl hne
      | cons b piece => rfl
    by_cases hbreak : a = carriage ∧ piece.head? = some newline
    · obtain ⟨rfl, hnext⟩ := hbreak
      rw [linesOf_carriage hnewline hnext, linesOf_carriage hnewline (hhead.trans hnext), ih hpiece]
    · rw [linesOf_cons hnewline fun hc hnext => hbreak ⟨hc, hnext⟩,
        linesOf_cons hnewline fun hc hnext => hbreak ⟨hc, hhead.symm.trans hnext⟩, ih hpiece,
        prependLine_append (linesOf_ne_nil hne)]

/-! ### Carriage returns -/

/-- A line without the carriage return at its end, if there is one. -/
def chomp (carriage : α) (line : List α) : List α :=
  if line.getLast? == some carriage then line.dropLast else line

theorem chomp_append_carriage (line : List α) : chomp carriage (line ++ [carriage]) = line := by
  rw [chomp, if_pos (by simp), List.dropLast_concat]

theorem chomp_of_ne (h : piece.getLast? ≠ some carriage) : chomp carriage piece = piece := by
  rw [chomp, if_neg (by simpa using h)]

theorem chomp_cases (carriage : α) (line : List α) :
    chomp carriage line = line ∨ line = chomp carriage line ++ [carriage] := by
  by_cases h : line.getLast? = some carriage
  · obtain ⟨init, rfl⟩ := List.getLast?_eq_some_iff.mp h
    exact .inr (by rw [chomp_append_carriage])
  · exact .inl (chomp_of_ne h)

theorem chomp_cons (h : a = carriage → piece ≠ []) :
    chomp carriage (a :: piece) = a :: chomp carriage piece := by
  by_cases hnil : piece = []
  · subst hnil
    exact chomp_of_ne fun hlast => h (Option.some_inj.mp hlast) rfl
  · rw [chomp, chomp, List.getLast?_cons_of_ne_nil hnil, List.dropLast_cons_of_ne_nil hnil]
    split <;> rfl

theorem linesOf_line (hne : carriage ≠ newline) (h : newline ∉ piece) :
    linesOf newline carriage (piece ++ newline :: rest) =
      chomp carriage piece :: linesOf newline carriage rest := by
  induction piece with
  | nil => exact linesOf_newline
  | cons a piece ih =>
    obtain ⟨hnewline, hpiece⟩ := List.ne_and_not_mem_of_not_mem_cons h
    rw [List.cons_append]
    by_cases hbreak : a = carriage ∧ piece = []
    · obtain ⟨rfl, rfl⟩ := hbreak
      rw [List.nil_append, linesOf_carriage hne rfl, linesOf_newline]
      exact congrArg (· :: _) (chomp_append_carriage []).symm
    · have hhead : a = carriage → (piece ++ newline :: rest).head? ≠ some newline := by
        intro hc hhead
        cases piece with
        | nil => exact hbreak ⟨hc, rfl⟩
        | cons b piece => exact hpiece (List.mem_cons.mpr (.inl (Option.some_inj.mp hhead).symm))
      rw [linesOf_cons (Ne.symm hnewline) hhead, ih hpiece,
        chomp_cons fun hc hnil => hbreak ⟨hc, hnil⟩]
      rfl

/-- A line put in behind whole lines is one line, and the lines around it stay. -/
theorem linesOf_insert {before line after : List α} (hne : carriage ≠ newline)
    (hbefore : WholeLines newline before) (hline : newline ∉ line) :
    linesOf newline carriage (before ++ line ++ newline :: after) =
      linesOf newline carriage before ++ chomp carriage line :: linesOf newline carriage after := by
  rw [List.append_assoc, linesOf_wholeLines_append hbefore, linesOf_line hne hline]

end Split

/-- The first byte of a text is a newline exactly when its first character is. -/
theorem head?_flatMap_utf8EncodeChar {cs : List Char} :
    (cs.flatMap String.utf8EncodeChar).head? = some 10 ↔ cs.head? = some '\n' := by
  cases cs with
  | nil => simp
  | cons c cs =>
    rw [List.flatMap_cons, List.head?_cons]
    constructor
    · intro h
      cases hbytes : String.utf8EncodeChar c with
      | nil => exact absurd hbytes (Utf8.utf8EncodeChar_ne_nil c)
      | cons b bs =>
        rw [hbytes, List.cons_append, List.head?_cons, Option.some_inj] at h
        have hmem : 10 ∈ String.utf8EncodeChar c := hbytes ▸ h ▸ List.mem_cons_self
        exact congrArg some (Utf8.eq_of_mem_utf8EncodeChar hmem (by decide) rfl)
    · intro h
      rw [Option.some_inj.mp h]
      rfl

/-- The bytes of a text have lines that are the bytes of the lines of the text. -/
theorem linesOf_flatMap_utf8EncodeChar (cs : List Char) :
    linesOf 10 13 (cs.flatMap String.utf8EncodeChar) =
      (linesOf '\n' '\r' cs).map (·.flatMap String.utf8EncodeChar) := by
  induction cs with
  | nil => rfl
  | cons c cs ih =>
    rw [List.flatMap_cons]
    by_cases hnewline : c = '\n'
    · subst hnewline
      rw [linesOf_newline, List.map_cons, ← ih]
      exact linesOf_newline
    by_cases hcarriage : c = '\r'
    · subst hcarriage
      have hbytes : String.utf8EncodeChar '\r' = [13] := rfl
      rw [hbytes, List.singleton_append]
      by_cases hhead : cs.head? = some '\n'
      · rw [linesOf_carriage (by decide) hhead, ← ih]
        exact linesOf_carriage (by decide) (head?_flatMap_utf8EncodeChar.mpr hhead)
      · rw [linesOf_cons (by decide) fun _ => hhead, map_flatMap_prependLine, ← ih]
        exact linesOf_cons (by decide) fun _ h => hhead (head?_flatMap_utf8EncodeChar.mp h)
    · have hplain : ∀ b ∈ String.utf8EncodeChar c, b ≠ 10 ∧ b ≠ 13 := by
        intro b hb
        constructor
        · rintro rfl
          exact hnewline (Utf8.eq_of_mem_utf8EncodeChar hb (by decide) rfl)
        · rintro rfl
          exact hcarriage (Utf8.eq_of_mem_utf8EncodeChar hb (by decide) rfl)
      rw [linesOf_append hplain (Utf8.utf8EncodeChar_ne_nil c), ih,
        linesOf_cons hnewline fun h => absurd h hcarriage, map_flatMap_prependLine,
        List.flatMap_singleton]

theorem linesOf_encode (s : String) : linesOf 10 13 (Utf8.encode s) =
    (linesOf '\n' '\r' s.toList).map (·.flatMap String.utf8EncodeChar) := by
  rw [Utf8.encode_eq, linesOf_flatMap_utf8EncodeChar]

/-! ## Lines that end with a carriage return -/

theorem trim_append_blank {c : Char} (h : isBlank c = true) (cs : List Char) :
    trim (cs ++ [c]) = trim cs := by
  rw [trim, trim, List.dropWhile_append]
  split
  · next hempty =>
    rw [List.isEmpty_iff.mp hempty, List.dropWhile_cons_of_pos h]
    rfl
  · rw [List.reverse_append, List.reverse_singleton, List.singleton_append,
      List.dropWhile_cons_of_pos h]

/-- A carriage return at the end is trimmed in any case. -/
theorem trim_chomp (cs : List Char) : trim (chomp '\r' cs) = trim cs := by
  rcases chomp_cases '\r' cs with h | h
  · rw [h]
  · have hblank := trim_append_blank (c := '\r') (by decide) (chomp '\r' cs)
    rw [← h] at hblank
    exact hblank.symm

theorem chomp_flatMap_utf8EncodeChar (cs : List Char) :
    chomp 13 (cs.flatMap String.utf8EncodeChar) =
      (chomp '\r' cs).flatMap String.utf8EncodeChar := by
  rcases List.eq_nil_or_concat cs with rfl | ⟨init, c, rfl⟩
  · rfl
  rw [List.concat_eq_append, List.flatMap_append, List.flatMap_singleton]
  by_cases hcarriage : c = '\r'
  · subst hcarriage
    have hbytes : String.utf8EncodeChar '\r' = [13] := rfl
    rw [hbytes, chomp_append_carriage, chomp_append_carriage]
  · have hlast : (init ++ [c]).getLast? ≠ some '\r' := by
      rw [List.getLast?_concat]
      exact fun h => hcarriage (Option.some_inj.mp h)
    rw [chomp_of_ne hlast, chomp_of_ne, List.flatMap_append, List.flatMap_singleton]
    intro h
    have hlastByte := List.getLast?_eq_some_getLast (Utf8.utf8EncodeChar_ne_nil c)
    rw [List.getLast?_append, hlastByte, Option.some_or, ← hlastByte] at h
    exact hcarriage (Utf8.eq_of_mem_utf8EncodeChar (List.mem_of_getLast? h) (by decide) rfl)

theorem decode_chomp_encode (s : String) :
    Utf8.decode (chomp 13 (Utf8.encode s)) = .ok (chomp '\r' s.toList) := by
  rw [Utf8.encode_eq, chomp_flatMap_utf8EncodeChar, Utf8.decode_flatMap]

/-- A carriage return more or less makes no text and unmakes none. -/
theorem exists_decode_chomp_iff {line : List UInt8} :
    (∃ cs, Utf8.decode (chomp 13 line) = .ok cs) ↔ ∃ s, Utf8.encode s = line := by
  constructor
  · rintro ⟨cs, h⟩
    have hbytes := Utf8.decode_eq_ok_iff.mp h
    rcases chomp_cases 13 line with hsame | hcarriage
    · refine ⟨String.ofList cs, ?_⟩
      rw [Utf8.encode_eq, String.toList_ofList, hbytes, hsame]
    · refine ⟨String.ofList (cs ++ ['\r']), ?_⟩
      rw [Utf8.encode_eq, String.toList_ofList, List.flatMap_append, hbytes]
      exact hcarriage.symm
  · rintro ⟨s, rfl⟩
    exact ⟨_, decode_chomp_encode s⟩

end IssueGraph.Text
