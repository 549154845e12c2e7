import IssueGraph.Proofs.Json.Compact
import IssueGraph.Proofs.Json.Lenient

/-!
# Integers of any size

The digits of an integer are read as that integer or, if it is too long or negative and too large,
as a double, if at all. A reader of numbers from a range takes those in the range and fails on all
others. Main statements: `tightens_count_of_lt` and `tightens_count_of_out_of_range`.
-/
namespace IssueGraph.Json

variable {i : Input} {rest : List Char} {negative : Bool} {m n : Nat} {p : Int}

/-! ## Numbers as they are read -/

theorem floatAt_eq_ok {exponent : Int} {w : Within i Number}
    (h : floatAt negative n exponent i = .ok w) : w.rest = i ∧ ∃ x, w.value = .float x := by
  unfold floatAt at h
  split at h
  · cases h
    exact ⟨rfl, _, rfl⟩
  · cases h

theorem whole_eq_ok {w : Within i Number} (h : readFraction.whole negative n i = .ok w) :
    w.rest = i ∧ ((∃ x, w.value = .float x) ∨ w.value = .int (if negative then -n else n)) := by
  unfold readFraction.whole at h
  cases h
  refine ⟨rfl, ?_⟩
  dsimp only [Within.here]
  cases negative with
  | false => exact .inr rfl
  | true =>
    rw [if_neg (by decide)]
    split
    · exact .inl ⟨_, rfl⟩
    · exact .inr rfl

/-- What is read at the end of the digits depends on whether some of them are left over. -/
theorem readFraction_eq_ite {dropped : Nat} (hi : Follows i.ahead) :
    readFraction negative n dropped i =
      if dropped = 0 then readFraction.whole negative n i else floatAt negative n dropped i := by
  rw [← readFloatEnd_of_follows hi]
  unfold readFraction
  split
  · next c j hj =>
    have hhead : c ∈ i.ahead.head? := by rw [Input.ahead_of_next? hj]; rfl
    obtain ⟨-, hpoint, he, hE⟩ := hi.not_numeral c hhead
    simp only [beq_eq_false_iff_ne.mpr hpoint, beq_eq_false_iff_ne.mpr he,
      beq_eq_false_iff_ne.mpr hE]
    by_cases hdropped : dropped = 0
    · simp [hdropped]
    · simp [hdropped]
  · rw [ite_not]

/-- Digits are read as a whole number only if none of them is left over. -/
theorem readFraction_eq_ok {dropped : Nat} (hi : Follows i.ahead) {w : Within i Number}
    (h : readFraction negative n dropped i = .ok w) : w.rest = i ∧
      ((∃ x, w.value = .float x) ∨
        dropped = 0 ∧ w.value = .int (if negative then -n else n)) := by
  rw [readFraction_eq_ite hi] at h
  split at h
  · next hdropped =>
    obtain ⟨hrest, hvalue⟩ := whole_eq_ok h
    exact ⟨hrest, hvalue.imp_right fun h => ⟨hdropped, h⟩⟩
  · obtain ⟨hrest, hvalue⟩ := floatAt_eq_ok h
    exact ⟨hrest, .inl hvalue⟩

theorem appendDigits_fst {cs : List Char} (h : (appendDigits n cs).2.length = 0) :
    (appendDigits n cs).1 = Nat.ofDigitChars 10 cs n := by
  induction cs generalizing n with
  | nil => rfl
  | cons c cs ih =>
    rw [appendDigits] at h ⊢
    split at h
    · next hlt =>
      rw [if_pos hlt]
      exact ih h
    · cases h

theorem dropWhile_isDigit {ds : List Char} (place : Place) (hds : ∀ c ∈ ds, c.isDigit = true)
    (hrest : Follows rest) : (Input.mk (ds ++ rest) place).dropWhile Char.isDigit =
      ⟨rest, place.afterChars ds⟩ := by
  obtain ⟨hahead, htake⟩ := ahead_dropWhile_isDigit (i := ⟨ds ++ rest, place⟩) rfl hds hrest.noDigit
  rw [Input.dropWhile] at hahead ⊢
  dsimp only at hahead htake ⊢
  rw [hahead, htake]

theorem readDigits_eq_ok (hi : i.ahead = Nat.toDigits 10 n ++ rest) (hrest : Follows rest)
    {s : Step i Number} (h : readDigits negative i = .ok s) :
    s.rest = ⟨rest, i.place.afterChars (Nat.toDigits 10 n)⟩ ∧
      ((∃ x, s.value = .float x) ∨ s.value = .int (if negative then -n else n)) := by
  obtain ⟨ahead, place⟩ := i
  dsimp only at hi ⊢
  rcases toDigits_cases n with ⟨rfl, hds⟩ | ⟨c, ds, hds, hc, hdigit⟩
  · rw [hds, List.singleton_append] at hi
    subst hi
    rw [hds]
    simp only [readDigits, Input.next?, hrest.noDigit.head, beq_self_eq_true, if_true,
      Bool.false_eq_true, if_false] at h
    obtain ⟨w, hw, hs⟩ := bind_eq_ok.mp h
    cases hs
    obtain ⟨hend, hvalue⟩ := readFraction_eq_ok (i := ⟨rest, place.next '0'⟩) hrest hw
    exact ⟨hend, hvalue.imp_right And.right⟩
  · rw [hds, List.cons_append] at hi
    subst hi
    rw [hds]
    have hdrop := dropWhile_isDigit (place.next c)
      (fun d hd => hdigit d (List.mem_cons_of_mem c hd)) hrest
    have htake := (ahead_dropWhile_isDigit (i := ⟨ds ++ rest, place.next c⟩) rfl
      (fun d hd => hdigit d (List.mem_cons_of_mem c hd)) hrest.noDigit).2
    simp only [readDigits, Input.next?, beq_eq_false_iff_ne.mpr hc, hdigit c List.mem_cons_self,
      htake, Bool.false_eq_true, if_false, if_true] at h
    obtain ⟨w, hw, hs⟩ := bind_eq_ok.mp h
    cases hs
    obtain ⟨hend, hvalue⟩ := readFraction_eq_ok (hdrop ▸ hrest) hw
    refine ⟨hend.trans hdrop, hvalue.imp_right fun hwhole => ?_⟩
    have hn : (appendDigits 0 (c :: ds)).1 = n := by
      rw [appendDigits_fst hwhole.1, ← hds, Nat.ofDigitChars_ten_toDigits]
    exact hn ▸ hwhole.2

/-- The digits of an integer are read as the integer or as a double, if at all. -/
theorem readNumber_eq_ok (hi : i.ahead = compact (.int p) ++ rest) (hrest : Follows rest)
    {s : Step i Number} (h : readNumber i = .ok s) :
    s.rest = ⟨rest, i.place.afterChars (compact (.int p))⟩ ∧
      ((∃ x, s.value = .float x) ∨ s.value = .int p) := by
  rw [compact_int] at hi ⊢
  obtain ⟨ahead, place⟩ := i
  dsimp only at hi ⊢
  split at hi
  · next hneg =>
    subst hi
    rw [if_pos hneg]
    obtain ⟨t, ht, hs⟩ := bind_eq_ok.mp h
    cases hs
    obtain ⟨hend, hvalue⟩ := readDigits_eq_ok
      (i := ⟨Nat.toDigits 10 p.natAbs ++ rest, place.next '-'⟩) rfl hrest ht
    have habs : -(p.natAbs : Int) = p := by omega
    rw [if_pos rfl, habs] at hvalue
    exact ⟨hend, hvalue⟩
  · next hneg =>
    rw [if_neg hneg]
    have hdigits : readDigits false ⟨ahead, place⟩ = .ok s := by
      unfold readNumber at h
      split at h
      · next j hj =>
        obtain ⟨c, ds, hds, hdigit⟩ := toDigits_lead p.natAbs
        rw [hds] at hi
        subst hi
        cases hj
        exact absurd hdigit (by decide)
      · exact h
    obtain ⟨hend, hvalue⟩ := readDigits_eq_ok hi hrest hdigits
    have habs : (p.natAbs : Int) = p := Int.natAbs_of_nonneg (Int.not_lt.mp hneg)
    rw [if_neg Bool.false_ne_true, habs] at hvalue
    exact ⟨hend, hvalue⟩

/-! ## Numbers from a range -/

instance : DecidablePred Follows
  | [] => isTrue follows_nil
  | c :: _ => decidable_of_iff (Input.isBlank c = true ∨ c = ',' ∨ c = ']' ∨ c = '}')
      ⟨follows_cons, fun h => h c rfl⟩

/-- Take the digits of the integer `p` for the number `n`. -/
def readAs (p : Int) (n : Nat) : Reader Nat := Reader.atValue fun _ i =>
  if h : compact (.int p) <+: i.ahead ∧ Follows (i.ahead.drop (compact (.int p)).length) then
    .ok ⟨n, i.drop (compact (.int p)).length, by
      obtain ⟨c, ds, hp, -⟩ := compact_int_lead p
      have hle := h.1.length_le
      rw [Input.length_drop, Input.length]
      rw [hp, List.length_cons] at hle ⊢
      omega⟩
  else i.faultAhead .expectedValue

/-- Digits that are taken are those of a number. -/
theorem numeral_ahead {c : Char} (hc : i.ahead.head? = some c)
    (h : compact (.int p) <+: i.ahead ∧ Follows (i.ahead.drop (compact (.int p)).length)) :
    ∃ rest, i.ahead = compact (.int p) ++ rest ∧ Follows rest ∧ (c == '-' || c.isDigit) = true := by
  obtain ⟨⟨rest, hi⟩, hrest⟩ := h
  rw [← hi, List.drop_left] at hrest
  refine ⟨rest, hi.symm, hrest, ?_⟩
  obtain ⟨d, ds, hp, hd⟩ := compact_int_lead p
  rw [← hi, hp] at hc
  obtain rfl : d = c := Option.some.inj hc
  simpa using hd

/-- A reader of numbers below `limit` takes those numbers. -/
theorem tightens_count_of_lt {limit : Nat} (name : String) (hn : n < limit)
    (hlimit : limit ≤ Nat.pow 2 64) {mayFail : Prop} :
    Reader.Tightens mayFail (readAs n n) (Shape.count limit name).read := by
  rw [readAs, Shape.read, readNumberAs]
  refine .atValue fun c i hc s hs => .inl ?_
  split at hs
  · next h =>
    cases hs
    obtain ⟨rest, hi, hrest, hnumeral⟩ := numeral_ahead hc h
    have hdigits : compact (.int n) = Nat.toDigits 10 n := by
      rw [compact_int, if_neg (by omega), Int.natAbs_natCast]
    obtain ⟨s, hs, hvalue, -⟩ :=
      takes_readNumber (Nat.lt_of_lt_of_le hn hlimit) hrest.noDigit
        (reaches_readFraction_whole hrest) i (hdigits ▸ hi)
    obtain ⟨hend, -⟩ := readNumber_eq_ok hi hrest hs
    have hcount : countOf limit name s.value = .ok n := by
      rw [hvalue, countOf, if_pos (by simpa using hn), Int.toNat_natCast]
    have hdrop : s.rest = i.drop (compact (.int n)).length := by
      rw [hend, Input.drop, hi, List.drop_left, List.take_left]
    rw [if_pos hnumeral, Reader.check, bind_of_eq_ok hs, hcount]
    obtain ⟨value, rest, shorter⟩ := s
    subst hdrop
    rfl
  · cases hs

/-- A reader of numbers below `limit` fails on all other integers. -/
theorem tightens_count_of_out_of_range {limit : Nat} (name : String)
    (hp : ¬ (0 ≤ p ∧ p < limit)) (n : Nat) :
    Reader.Tightens True (readAs p n) (Shape.count limit name).read := by
  rw [readAs, Shape.read, readNumberAs]
  refine .atValue fun c i hc s hs => .inr ⟨trivial, ?_⟩
  split at hs
  · next h =>
    obtain ⟨rest, hi, hrest, hnumeral⟩ := numeral_ahead hc h
    rw [if_pos hnumeral, Reader.check]
    cases hread : readNumber i with
    | error fault => exact ⟨fault, rfl⟩
    | ok t =>
      obtain ⟨-, hvalue⟩ := readNumber_eq_ok hi hrest hread
      have hcount : ∃ cause, countOf limit name t.value = .error cause := by
        rcases hvalue with ⟨x, hx⟩ | hx
        · exact ⟨_, by rw [hx, countOf]⟩
        · exact ⟨_, by rw [hx, countOf, if_neg (by simpa using hp)]⟩
      obtain ⟨cause, hcause⟩ := hcount
      refine ⟨⟨cause, t.rest.place⟩, ?_⟩
      rw [bind_of_eq_ok rfl, hcause]
      rfl
  · cases hs

end IssueGraph.Json
