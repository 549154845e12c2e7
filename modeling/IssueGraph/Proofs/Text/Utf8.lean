import IssueGraph.Text.Utf8

/-!
# Decoding encoded text

The bytes of a string are decoded to its characters. A character is followed byte by byte: each byte
brings its bits, and the bounds set by the first one are kept since the code point lies in the range
that the number of bytes stands for. What is no text is refused: bytes that are decoded are the
bytes of their characters. Main statements: `decode_encode` and `decode_eq_ok_iff`.
-/
namespace IssueGraph.Utf8

variable {start n : Nat} {before cs : List Char} {b : UInt8} {bs : List UInt8} {p : Pending}

/-! ## Single bytes -/

theorem toNat_ofNat_byte (h : n < 256) : (UInt8.ofNat n).toNat = n := by
  rw [UInt8.toNat_ofNat']
  exact Nat.mod_eq_of_lt h

theorem ofLead?_one (h : n ≤ 127) :
    Pending.ofLead? (UInt8.ofNat n) = some { bits := n, taken := 1, missing := 0 } := by
  rw [Pending.ofLead?, toNat_ofNat_byte (by omega), if_pos (by omega)]

theorem ofLead?_two (hlow : 127 < n) (hhigh : n ≤ 2047) :
    Pending.ofLead? (UInt8.ofNat (n / 64 % 32 + 192)) =
      some { bits := n / 64, taken := 1, missing := 1 } := by
  have hbits : n / 64 % 32 + 192 - 0xc0 = n / 64 := by omega
  rw [Pending.ofLead?, toNat_ofNat_byte (by omega), if_neg (by omega), if_neg (by omega),
    if_pos (by omega), hbits]

theorem ofLead?_three (hlow : 2047 < n) (hhigh : n ≤ 65535) :
    Pending.ofLead? (UInt8.ofNat (n / 4096 % 16 + 224)) =
      some
        { bits := n / 4096
          taken := 1
          missing := 2
          low := if n < 4096 then 0xa0 else 0x80
          high := if n / 4096 = 13 then 0x9f else 0xbf } := by
  have hbits : n / 4096 % 16 + 224 - 0xe0 = n / 4096 := by omega
  have hfirst : (n / 4096 % 16 + 224 = 0xe0) = (n < 4096) := propext (by omega)
  have hsurrogate : (n / 4096 % 16 + 224 = 0xed) = (n / 4096 = 13) := propext (by omega)
  rw [Pending.ofLead?, toNat_ofNat_byte (by omega), if_neg (by omega), if_neg (by omega),
    if_neg (by omega), if_pos (by omega)]
  simp only [hbits, hfirst, hsurrogate]

theorem ofLead?_four (hlow : 65535 < n) (hhigh : n < 0x110000) :
    Pending.ofLead? (UInt8.ofNat (n / 262144 % 8 + 240)) =
      some
        { bits := n / 262144
          taken := 1
          missing := 3
          low := if n < 262144 then 0x90 else 0x80
          high := if n / 262144 = 4 then 0x8f else 0xbf } := by
  have hbits : n / 262144 % 8 + 240 - 0xf0 = n / 262144 := by omega
  have hfirst : (n / 262144 % 8 + 240 = 0xf0) = (n < 262144) := propext (by omega)
  have hlast : (n / 262144 % 8 + 240 = 0xf4) = (n / 262144 = 4) := propext (by omega)
  rw [Pending.ofLead?, toNat_ofNat_byte (by omega), if_neg (by omega), if_neg (by omega),
    if_neg (by omega), if_neg (by omega), if_pos (by omega)]
  simp only [hbits, hfirst, hlast]

theorem next?_of_bounds (hlow : p.low.toNat ≤ n % 64 + 128) (hhigh : n % 64 + 128 ≤ p.high.toNat) :
    p.next? (UInt8.ofNat (n % 64 + 128)) =
      some { bits := 64 * p.bits + n % 64, taken := p.taken + 1, missing := p.missing - 1 } := by
  have hbyte := toNat_ofNat_byte (n := n % 64 + 128) (by omega)
  have hbounds : (p.low ≤ UInt8.ofNat (n % 64 + 128) && UInt8.ofNat (n % 64 + 128) ≤ p.high) =
      true := by
    simp only [Bool.and_eq_true, decide_eq_true_eq, UInt8.le_iff_toNat_le, hbyte]
    exact ⟨hlow, hhigh⟩
  rw [Pending.next?, if_pos hbounds, hbyte, Nat.add_sub_cancel]

/-! ## Characters -/

theorem decodeFrom_lead {b : UInt8} (h : Pending.ofLead? b = some p) (hp : p.missing ≠ 0) :
    decodeFrom start none before (b :: bs) = decodeFrom start (some p) before bs := by
  simp only [decodeFrom, h, if_neg hp]

theorem decodeFrom_next (hlow : p.low.toNat ≤ n % 64 + 128) (hhigh : n % 64 + 128 ≤ p.high.toNat)
    (hp : 1 < p.missing) :
    decodeFrom start (some p) before (UInt8.ofNat (n % 64 + 128) :: bs) =
      decodeFrom start
        (some { bits := 64 * p.bits + n % 64, taken := p.taken + 1, missing := p.missing - 1 })
        before bs := by
  have hmissing : p.missing - 1 ≠ 0 := by omega
  simp only [decodeFrom, next?_of_bounds hlow hhigh, if_neg hmissing]

theorem decodeFrom_last {c : Char} (hlow : p.low.toNat ≤ n % 64 + 128)
    (hhigh : n % 64 + 128 ≤ p.high.toNat) (hp : p.missing = 1)
    (hc : 64 * p.bits + n % 64 = c.toNat) :
    decodeFrom start (some p) before (UInt8.ofNat (n % 64 + 128) :: bs) =
      decodeFrom (start + (p.taken + 1)) none (c :: before) bs := by
  simp only [decodeFrom, next?_of_bounds hlow hhigh, hp, Nat.sub_self, if_true, hc,
    Char.ofNat_toNat]

/-- One encoded character is decoded. -/
theorem decodeFrom_utf8EncodeChar (c : Char) : ∃ start',
    decodeFrom start none before (String.utf8EncodeChar c ++ bs) =
      decodeFrom start' none (c :: before) bs := by
  obtain ⟨n, hn⟩ : ∃ n, c.toNat = n := ⟨_, rfl⟩
  -- Surrogates are no characters; without that the bound after the byte 0xed would be broken.
  have hvalid : n < 0xd800 ∨ 0xdfff < n ∧ n < 0x110000 := hn ▸ c.valid
  have hval : c.val.toNat = n := hn
  simp only [String.utf8EncodeChar, hval]
  split
  · have hread := ofLead?_one (n := n) ‹_›
    have hchar : Char.ofNat n = c := hn ▸ Char.ofNat_toNat c
    refine ⟨start + 1, ?_⟩
    simp only [List.cons_append, List.nil_append, decodeFrom, hread, if_true, hchar]
  split
  · have hlead := ofLead?_two (n := n) (by omega) ‹_›
    refine ⟨_, (decodeFrom_lead hlead (Nat.succ_ne_zero _)).trans
      (decodeFrom_last ?_ ?_ rfl ?_)⟩
    · change 128 ≤ _; omega
    · change _ ≤ 191; omega
    · dsimp only; omega
  split
  · have hlead := ofLead?_three (n := n) (by omega) ‹_›
    refine ⟨_, (decodeFrom_lead hlead (Nat.succ_ne_zero _)).trans
      ((decodeFrom_next ?_ ?_ (Nat.lt_succ_self 1)).trans (decodeFrom_last ?_ ?_ rfl ?_))⟩
    · dsimp only
      split
      · change 160 ≤ _; omega
      · change 128 ≤ _; omega
    · dsimp only
      split
      · change _ ≤ 159; omega
      · change _ ≤ 191; omega
    · change 128 ≤ _; omega
    · change _ ≤ 191; omega
    · dsimp only; omega
  · have hlead := ofLead?_four (n := n) (by omega) (by omega)
    refine ⟨_, (decodeFrom_lead hlead (Nat.succ_ne_zero _)).trans
      ((decodeFrom_next ?_ ?_ (by dsimp only; omega)).trans
        ((decodeFrom_next ?_ ?_ (Nat.lt_succ_self 1)).trans (decodeFrom_last ?_ ?_ rfl ?_)))⟩
    · dsimp only
      split
      · change 144 ≤ _; omega
      · change 128 ≤ _; omega
    · dsimp only
      split
      · change _ ≤ 143; omega
      · change _ ≤ 191; omega
    · change 128 ≤ _; omega
    · change _ ≤ 191; omega
    · change 128 ≤ _; omega
    · change _ ≤ 191; omega
    · dsimp only; omega

/-! ## Strings -/

theorem decodeFrom_flatMap (start : Nat) (before l : List Char) (bs : List UInt8) : ∃ start',
    decodeFrom start none before (l.flatMap String.utf8EncodeChar ++ bs) =
      decodeFrom start' none (l.reverse ++ before) bs := by
  induction l generalizing start before with
  | nil => exact ⟨start, rfl⟩
  | cons c l ih =>
    rw [List.flatMap_cons, List.append_assoc]
    obtain ⟨start₁, hfirst⟩ := decodeFrom_utf8EncodeChar c
    obtain ⟨start₂, hrest⟩ := ih start₁ (c :: before)
    refine ⟨start₂, hfirst.trans (hrest.trans ?_)⟩
    rw [List.reverse_cons, List.append_assoc, List.singleton_append]

theorem toList_loop (b : ByteArray) (i : Nat) (before : List UInt8) :
    ByteArray.toList.loop b i before = before.reverse ++ b.data.toList.drop i := by
  rw [ByteArray.toList.loop]
  split
  · next h =>
    have hi : i < b.data.toList.length := h
    have hget : b.get! i = b.data.toList[i] := by
      rw [ByteArray.get!, getElem!_pos b.data i h]
      rfl
    rw [toList_loop b (i + 1), List.drop_eq_getElem_cons hi, hget, List.reverse_cons,
      List.append_assoc, List.singleton_append]
  · next h =>
    have hsize : b.data.toList.length ≤ i := Nat.le_of_not_lt h
    rw [List.drop_eq_nil_of_le hsize, List.append_nil]
termination_by b.size - i

/-- The bytes of a string are those of its characters. -/
theorem encode_eq (s : String) : encode s = s.toList.flatMap String.utf8EncodeChar := by
  have hbytes : s.toByteArray = s.toList.utf8Encode := by
    rw [← String.toByteArray_ofList, String.ofList_toList]
  rw [encode, String.toUTF8, hbytes, ByteArray.toList, toList_loop, List.utf8Encode,
    List.toList_data_toByteArray]
  rfl

theorem decode_flatMap (cs : List Char) : decode (cs.flatMap String.utf8EncodeChar) = .ok cs := by
  obtain ⟨start, h⟩ := decodeFrom_flatMap 0 [] cs []
  rw [List.append_nil] at h
  rw [decode, h, decodeFrom, List.append_nil, List.reverse_reverse]

theorem decode_encode (s : String) : decode (encode s) = .ok s.toList := by
  rw [encode_eq, decode_flatMap]

/-- Every byte of a longer form has its highest bit set, so that a byte below 128 is all there is of
its character. -/
theorem toNat_eq_of_mem_utf8EncodeChar {c : Char} {b : UInt8} (hb : b ∈ String.utf8EncodeChar c)
    (hlow : b.toNat < 128) : c.toNat = b.toNat := by
  have hbyte {m : Nat} (hm : m < 256) (hle : 128 ≤ m) : ¬ (UInt8.ofNat m).toNat < 128 := by
    rw [toNat_ofNat_byte hm]
    omega
  have hval : c.val.toNat = c.toNat := rfl
  simp only [String.utf8EncodeChar, hval] at hb
  split at hb
  · obtain rfl := List.mem_singleton.mp hb
    exact (toNat_ofNat_byte (by omega)).symm
  split at hb
  · simp only [List.mem_cons, List.not_mem_nil, or_false] at hb
    rcases hb with rfl | rfl <;> exact absurd hlow (hbyte (by omega) (by omega))
  split at hb
  · simp only [List.mem_cons, List.not_mem_nil, or_false] at hb
    rcases hb with rfl | rfl | rfl <;> exact absurd hlow (hbyte (by omega) (by omega))
  · simp only [List.mem_cons, List.not_mem_nil, or_false] at hb
    rcases hb with rfl | rfl | rfl | rfl <;> exact absurd hlow (hbyte (by omega) (by omega))

theorem eq_of_mem_utf8EncodeChar {c d : Char} {b : UInt8} (hb : b ∈ String.utf8EncodeChar c)
    (hlow : b.toNat < 128) (hd : d.toNat = b.toNat) : c = d :=
  Char.toNat_inj.mp ((toNat_eq_of_mem_utf8EncodeChar hb hlow).trans hd.symm)

theorem utf8EncodeChar_ne_nil (c : Char) : String.utf8EncodeChar c ≠ [] := by
  refine List.ne_nil_of_length_pos ?_
  rw [String.length_utf8EncodeChar]
  exact c.utf8Size_pos

/-- Characters that are no control characters have no bytes of such. -/
theorem le_toNat_of_mem_encode {s : String} (h : ∀ c ∈ s.toList, 32 ≤ c.toNat) :
    ∀ b ∈ encode s, 32 ≤ b.toNat := by
  intro b hb
  rw [encode_eq, List.mem_flatMap] at hb
  obtain ⟨c, hc, hb⟩ := hb
  rcases Nat.lt_or_ge b.toNat 128 with hlow | hhigh
  · exact toNat_eq_of_mem_utf8EncodeChar hb hlow ▸ h c hc
  · omega

theorem encode_injective : Function.Injective encode := by
  intro s t h
  have hchars := (decode_encode s).symm.trans ((congrArg decode h).trans (decode_encode t))
  exact String.toList_inj.mp (Except.ok.inj hchars)

/-! ## Decoded bytes -/

theorem toNat_val_ofNat (h : n.isValidChar) : (Char.ofNat n).val.toNat = n := by
  rw [Char.ofNat, dif_pos h]
  rfl

theorem ofNat_eq_byte (h : n = b.toNat) : UInt8.ofNat n = b := by
  rw [h, UInt8.ofNat_toNat]

theorem le_of_low {c : Prop} [Decidable c] {low : UInt8} {l : Nat} (hl : low.toNat = l)
    (hle : 128 ≤ l) (h : (if c then low else 0x80).toNat ≤ n) : 128 ≤ n ∧ (c → l ≤ n) := by
  split at h
  · exact ⟨by omega, fun _ => by omega⟩
  · exact ⟨h, fun hc => absurd hc ‹_›⟩

theorem le_of_high {c : Prop} [Decidable c] {high : UInt8} {l : Nat} (hl : high.toNat = l)
    (hle : l ≤ 191) (h : n ≤ (if c then high else 0xbf).toNat) : n ≤ 191 ∧ (c → n ≤ l) := by
  split at h
  · exact ⟨by omega, fun _ => by omega⟩
  · exact ⟨h, fun hc => absurd hc ‹_›⟩

/-- What a first byte promises depends on which of four ranges it is in. -/
theorem ofLead?_cases (h : Pending.ofLead? b = some p) :
    (b.toNat < 128 ∧ p = { bits := b.toNat, taken := 1, missing := 0 }) ∨
    (194 ≤ b.toNat ∧ b.toNat < 224 ∧
      p = { bits := b.toNat - 192, taken := 1, missing := 1 }) ∨
    (224 ≤ b.toNat ∧ b.toNat < 240 ∧
      p = { bits := b.toNat - 224
            taken := 1
            missing := 2
            low := if b.toNat = 224 then 0xa0 else 0x80
            high := if b.toNat = 237 then 0x9f else 0xbf }) ∨
    240 ≤ b.toNat ∧ b.toNat < 245 ∧
      p = { bits := b.toNat - 240
            taken := 1
            missing := 3
            low := if b.toNat = 240 then 0x90 else 0x80
            high := if b.toNat = 244 then 0x8f else 0xbf } := by
  simp only [Pending.ofLead?] at h
  split at h
  · exact .inl ⟨by omega, (Option.some.inj h).symm⟩
  split at h
  · cases h
  split at h
  · exact .inr (.inl ⟨by omega, by omega, (Option.some.inj h).symm⟩)
  split at h
  · exact .inr (.inr (.inl ⟨by omega, by omega, (Option.some.inj h).symm⟩))
  split at h
  · exact .inr (.inr (.inr ⟨by omega, by omega, (Option.some.inj h).symm⟩))
  · cases h

theorem next?_eq_some {q : Pending} (h : p.next? b = some q) :
    p.low.toNat ≤ b.toNat ∧ b.toNat ≤ p.high.toNat ∧
      q =
        { bits := 64 * p.bits + (b.toNat - 128)
          taken := p.taken + 1
          missing := p.missing - 1 } := by
  rw [Pending.next?] at h
  split at h
  · next hbounds =>
    simp only [Bool.and_eq_true, decide_eq_true_eq, UInt8.le_iff_toNat_le] at hbounds
    exact ⟨hbounds.1, hbounds.2, (Option.some.inj h).symm⟩
  · cases h

/-- After a first byte the character is complete or bytes follow. -/
theorem exists_of_decodeFrom_none (h : decodeFrom start none before (b :: bs) = .ok cs) :
    ∃ p, Pending.ofLead? b = some p ∧
      (p.missing = 0 →
        decodeFrom (start + p.taken) none (Char.ofNat p.bits :: before) bs = .ok cs) ∧
      (p.missing ≠ 0 → decodeFrom start (some p) before bs = .ok cs) := by
  simp only [decodeFrom] at h
  split at h
  · cases h
  · next p hp =>
    refine ⟨p, hp, fun hmissing => ?_, fun hmissing => ?_⟩
    · rwa [if_pos hmissing] at h
    · rwa [if_neg hmissing] at h

/-- While bytes are missing one follows, and it lies between the bounds. -/
theorem exists_of_decodeFrom_some (h : decodeFrom start (some p) before bs = .ok cs) :
    ∃ b rest, bs = b :: rest ∧ p.low.toNat ≤ b.toNat ∧ b.toNat ≤ p.high.toNat ∧
      (p.missing = 1 → decodeFrom (start + (p.taken + 1)) none
        (Char.ofNat (64 * p.bits + (b.toNat - 128)) :: before) rest = .ok cs) ∧
      (1 < p.missing → decodeFrom start
        (some
          { bits := 64 * p.bits + (b.toNat - 128)
            taken := p.taken + 1
            missing := p.missing - 1 })
        before rest = .ok cs) := by
  cases bs with
  | nil => cases h
  | cons b rest =>
    simp only [decodeFrom] at h
    split at h
    · cases h
    · next q hq =>
      obtain ⟨hlow, hhigh, rfl⟩ := next?_eq_some hq
      refine ⟨b, rest, rfl, hlow, hhigh, fun hmissing => ?_, fun hmissing => ?_⟩
      · rwa [if_pos (by dsimp only; omega)] at h
      · rwa [if_neg (by dsimp only; omega)] at h

/-- Bytes that can be decoded begin with the bytes of a character. -/
theorem exists_utf8EncodeChar_of_decodeFrom
    (h : decodeFrom start none before (b :: bs) = .ok cs) :
    ∃ c rest start', b :: bs = String.utf8EncodeChar c ++ rest ∧
      decodeFrom start' none (c :: before) rest = .ok cs := by
  obtain ⟨p, hlead, hone, hmore⟩ := exists_of_decodeFrom_none h
  -- The bounds of the second byte leave out what the character is never encoded as: overlong forms,
  -- surrogates and code points past the last one.
  rcases ofLead?_cases hlead with ⟨hb, rfl⟩ | ⟨hlow, hhigh, rfl⟩ | ⟨hlow, hhigh, rfl⟩ |
    ⟨hlow, hhigh, rfl⟩
  · have hval := toNat_val_ofNat (n := b.toNat) (by omega)
    refine ⟨Char.ofNat b.toNat, bs, _, ?_, hone rfl⟩
    simp only [String.utf8EncodeChar, hval]
    rw [if_pos (by omega), ofNat_eq_byte rfl]
    rfl
  · obtain ⟨b₁, rest, rfl, hlow₁, hhigh₁, hdone, -⟩ :=
      exists_of_decodeFrom_some (hmore (Nat.succ_ne_zero _))
    change 128 ≤ _ at hlow₁
    change _ ≤ 191 at hhigh₁
    have hval := toNat_val_ofNat (n := 64 * (b.toNat - 192) + (b₁.toNat - 128)) (by omega)
    refine ⟨_, rest, _, ?_, hdone rfl⟩
    simp only [String.utf8EncodeChar, hval]
    rw [if_neg (by omega), if_pos (by omega), ofNat_eq_byte (b := b) (by omega),
      ofNat_eq_byte (b := b₁) (by omega)]
    rfl
  · obtain ⟨b₁, rest, rfl, hlow₁, hhigh₁, -, hmore₁⟩ :=
      exists_of_decodeFrom_some (hmore (Nat.succ_ne_zero _))
    obtain ⟨b₂, rest, rfl, hlow₂, hhigh₂, hdone, -⟩ :=
      exists_of_decodeFrom_some (hmore₁ (Nat.lt_succ_self 1))
    change 128 ≤ _ at hlow₂
    change _ ≤ 191 at hhigh₂
    obtain ⟨hlow₁, hfirst⟩ := le_of_low (l := 160) rfl (by decide) hlow₁
    obtain ⟨hhigh₁, hsurrogate⟩ := le_of_high (l := 159) rfl (by decide) hhigh₁
    have hval := toNat_val_ofNat
      (n := 64 * (64 * (b.toNat - 224) + (b₁.toNat - 128)) + (b₂.toNat - 128)) (by omega)
    refine ⟨_, rest, _, ?_, hdone rfl⟩
    simp only [String.utf8EncodeChar, hval]
    rw [if_neg (by omega), if_neg (by omega), if_pos (by omega), ofNat_eq_byte (b := b) (by omega),
      ofNat_eq_byte (b := b₁) (by omega), ofNat_eq_byte (b := b₂) (by omega)]
    rfl
  · obtain ⟨b₁, rest, rfl, hlow₁, hhigh₁, -, hmore₁⟩ :=
      exists_of_decodeFrom_some (hmore (Nat.succ_ne_zero _))
    obtain ⟨b₂, rest, rfl, hlow₂, hhigh₂, -, hmore₂⟩ :=
      exists_of_decodeFrom_some (hmore₁ (by dsimp only; omega))
    obtain ⟨b₃, rest, rfl, hlow₃, hhigh₃, hdone, -⟩ :=
      exists_of_decodeFrom_some (hmore₂ (Nat.lt_succ_self 1))
    change 128 ≤ _ at hlow₂ hlow₃
    change _ ≤ 191 at hhigh₂ hhigh₃
    obtain ⟨hlow₁, hfirst⟩ := le_of_low (l := 144) rfl (by decide) hlow₁
    obtain ⟨hhigh₁, hpast⟩ := le_of_high (l := 143) rfl (by decide) hhigh₁
    have hval := toNat_val_ofNat
      (n := 64 * (64 * (64 * (b.toNat - 240) + (b₁.toNat - 128)) + (b₂.toNat - 128)) +
        (b₃.toNat - 128)) (by omega)
    refine ⟨_, rest, _, ?_, hdone rfl⟩
    simp only [String.utf8EncodeChar, hval]
    rw [if_neg (by omega), if_neg (by omega), if_neg (by omega), ofNat_eq_byte (b := b) (by omega),
      ofNat_eq_byte (b := b₁) (by omega), ofNat_eq_byte (b := b₂) (by omega),
      ofNat_eq_byte (b := b₃) (by omega)]
    rfl

theorem exists_flatMap_of_decodeFrom (h : decodeFrom start none before bs = .ok cs) :
    ∃ cs', cs = before.reverse ++ cs' ∧ cs'.flatMap String.utf8EncodeChar = bs := by
  -- A character takes several bytes, so the induction is on their number.
  induction hn : bs.length using Nat.strongRecOn generalizing start before bs with
  | _ n ih =>
    cases bs with
    | nil =>
      rw [decodeFrom, Except.ok.injEq] at h
      exact ⟨[], by rw [← h, List.append_nil], rfl⟩
    | cons b bs =>
      obtain ⟨c, rest, start', hbytes, hrest⟩ := exists_utf8EncodeChar_of_decodeFrom h
      have hpos : 0 < (String.utf8EncodeChar c).length :=
        List.length_pos_iff.mpr (utf8EncodeChar_ne_nil c)
      have hlength : (b :: bs).length = (String.utf8EncodeChar c).length + rest.length := by
        rw [hbytes, List.length_append]
      obtain ⟨cs', hcs, hflat⟩ := ih rest.length (by omega) hrest rfl
      refine ⟨c :: cs', ?_, ?_⟩
      · rw [hcs, List.reverse_cons, List.append_assoc, List.singleton_append]
      · rw [List.flatMap_cons, hflat, hbytes]

/-- Bytes are decoded to characters exactly if they are the bytes of these characters. -/
theorem decode_eq_ok_iff :
    decode bs = .ok cs ↔ cs.flatMap String.utf8EncodeChar = bs := by
  constructor
  · intro h
    obtain ⟨cs', rfl, hbytes⟩ := exists_flatMap_of_decodeFrom h
    exact hbytes
  · rintro rfl
    exact decode_flatMap cs

theorem decode_eq_ok_iff_encode : decode bs = .ok cs ↔ encode (String.ofList cs) = bs := by
  rw [decode_eq_ok_iff, encode_eq, String.toList_ofList]

theorem exists_decode_error_iff :
    (∃ fault, decode bs = .error fault) ↔ ∀ s, encode s ≠ bs := by
  cases h : decode bs with
  | ok cs =>
    have hcs := decode_eq_ok_iff_encode.mp h
    simpa using ⟨_, hcs⟩
  | error fault =>
    refine ⟨fun _ s hs => ?_, fun _ => ⟨fault, rfl⟩⟩
    rw [← hs, decode_encode] at h
    cases h

end IssueGraph.Utf8
