/-
The bytes of a text spell it. The reader takes the bytes of a character for one character (`Utf8.Spells`), whatever
follows them, and so reads a text back from its bytes (`Utf8.decode_encode`). It reads no other bytes
(`Utf8.decode_eq_ok_iff`): the limits of the second byte leave no second spelling of a character.
-/
import PathRouter.Utf8
import Mathlib.Data.List.Basic

namespace PathRouter.Utf8

/-- A code point is below the surrogates or above them, and within the range of all code points. -/
theorem toNat_bounds (c : Char) : c.toNat < 0xD800 ∨ 0xDFFF < c.toNat ∧ c.toNat < 0x110000 :=
  c.valid

/-- The reader takes a first byte with the bytes behind it for a character, whatever follows. -/
structure Spells (c : Char) (first : Nat) (others : List Nat) : Prop where
  width : width first = others.length + 1
  tails : ∀ rest, tails first 0 others.length (others ++ rest) = .complete
  codePoint : codePoint first others = c.toNat

theorem isSecond_iff {first b : Nat} : isSecond first b = true ↔
    0x80 ≤ b ∧ b < 0xC0 ∧ (first = 0xE0 → 0xA0 ≤ b) ∧ (first = 0xF0 → 0x90 ≤ b) ∧ (first = 0xED → b < 0xA0) ∧
      (first = 0xF4 → b < 0x90) := by
  simp only [isSecond, Bool.and_eq_true, decide_eq_true_eq]
  split_ifs <;> omega

theorem isTail_iff {b : Nat} : isTail b = true ↔ 0x80 ≤ b ∧ b < 0xC0 := by
  simp only [isTail, Bool.and_eq_true, decide_eq_true_eq]

/-- The first byte of a character, by the number of bytes behind it. -/
theorem width_eq_succ_iff {b w : Nat} : width b = w + 1 ↔ w = 0 ∧ b < 0x80 ∨ w = 1 ∧ 0xC2 ≤ b ∧ b < 0xE0 ∨
    w = 2 ∧ 0xE0 ≤ b ∧ b < 0xF0 ∨ w = 3 ∧ 0xF0 ≤ b ∧ b < 0xF5 := by
  simp only [width, Bool.and_eq_true, decide_eq_true_eq]
  constructor
  · intro h
    split_ifs at h <;> omega
  · intro h
    split_ifs <;> omega

/-- The bytes of a character spell it. -/
theorem exists_encodeChar (c : Char) : ∃ first others, encodeChar c = first :: others ∧ Spells c first others := by
  have hc := toNat_bounds c
  unfold encodeChar
  dsimp only
  -- By the number of bytes. The limits of the second byte leave room for all code points but the surrogates.
  by_cases h₁ : c.toNat < 0x80
  · rw [if_pos h₁]
    exact ⟨_, [], rfl, width_eq_succ_iff.2 (.inl ⟨rfl, h₁⟩), fun _ => rfl, rfl⟩
  rw [if_neg h₁]
  by_cases h₂ : c.toNat < 0x800
  · rw [if_pos h₂]
    refine ⟨_, [_], rfl, width_eq_succ_iff.2 (.inr (.inl ⟨rfl, by omega⟩)), fun rest => ?_, ?_⟩
    · have hsecond : isSecond (0xC0 + c.toNat / 64) (0x80 + c.toNat % 64) = true := isSecond_iff.2 (by omega)
      simp [tails, hsecond]
    · simp [codePoint]
      omega
  rw [if_neg h₂]
  by_cases h₃ : c.toNat < 0x10000
  · rw [if_pos h₃]
    refine ⟨_, [_, _], rfl, width_eq_succ_iff.2 (.inr (.inr (.inl ⟨rfl, by omega⟩))), fun rest => ?_, ?_⟩
    · have hsecond : isSecond (0xE0 + c.toNat / 4096) (0x80 + c.toNat / 64 % 64) = true := isSecond_iff.2 (by omega)
      have htail : isTail (0x80 + c.toNat % 64) = true := isTail_iff.2 (by omega)
      simp [tails, hsecond, htail]
    · simp [codePoint]
      omega
  rw [if_neg h₃]
  refine ⟨_, [_, _, _], rfl, width_eq_succ_iff.2 (.inr (.inr (.inr ⟨rfl, by omega⟩))), fun rest => ?_, ?_⟩
  · have hsecond : isSecond (0xF0 + c.toNat / 262144) (0x80 + c.toNat / 4096 % 64) = true := isSecond_iff.2 (by omega)
    have htail : isTail (0x80 + c.toNat / 64 % 64) = true := isTail_iff.2 (by omega)
    have htail' : isTail (0x80 + c.toNat % 64) = true := isTail_iff.2 (by omega)
    simp [tails, hsecond, htail, htail']
  · simp [codePoint]
    omega

theorem encode_cons (c : Char) (t : Text) : encode (c :: t) = encodeChar c ++ encode t := rfl

/-- A text has at least as many bytes as characters. -/
theorem length_le_encode : ∀ t : Text, t.length ≤ (encode t).length
  | [] => Nat.le_refl 0
  | c :: t => by
    obtain ⟨first, others, hc, -⟩ := exists_encodeChar c
    have ih := length_le_encode t
    rw [encode_cons, hc, List.length_append, List.length_cons, List.length_cons]
    omega

/-- A text is read back from its bytes, character by character. -/
theorem decodeFrom_encode : ∀ (t : Text) {k : Nat} (pos : Nat), t.length ≤ k → decodeFrom k pos (encode t) = .ok t
  | [], k, pos, _ => by cases k <;> rfl
  | c :: t, 0, _, hk => absurd hk (by simp)
  | c :: t, k + 1, pos, hk => by
    obtain ⟨first, others, hc, hspells⟩ := exists_encodeChar c
    have ih := decodeFrom_encode t (pos + others.length + 1) (Nat.le_of_succ_le_succ hk)
    rw [encode_cons, hc, List.cons_append, decodeFrom, hspells.width]
    dsimp only
    rw [hspells.tails, List.drop_left, List.take_left, ih, hspells.codePoint, Char.ofNat_toNat]
    rfl

theorem decode_encode (t : Text) : decode (encode t) = .ok t :=
  decodeFrom_encode t 0 (length_le_encode t)

theorem lt_of_mem_encode {t : Text} {b : Nat} (h : b ∈ encode t) : b < 0x100 := by
  obtain ⟨c, -, hb⟩ := List.mem_flatMap.1 h
  have hc := toNat_bounds c
  unfold encodeChar at hb
  dsimp only at hb
  split_ifs at hb <;> simp only [List.mem_cons, List.not_mem_nil, or_false] at hb <;> omega

/-- A character of ASCII is its own byte. -/
theorem encodeChar_low {c : Char} (h : c.toNat < 0x80) : encodeChar c = [c.toNat] :=
  if_pos h

/-! ## Bytes that are read -/

theorem toNat_ofNat {n : Nat} (h : n < 0xD800 ∨ 0xDFFF < n ∧ n < 0x110000) : (Char.ofNat n).toNat = n := by
  rw [Char.ofNat, dif_pos h]
  rfl

/-- A byte that continues a character stands first among those that complete it. -/
theorem exists_of_tails {first seen need : Nat} {bs : List Nat} (h : tails first seen (need + 1) bs = .complete) :
    ∃ b rest, bs = b :: rest ∧ (if seen = 0 then isSecond first b else isTail b) = true ∧
      tails first (seen + 1) need rest = .complete := by
  cases bs with
  | nil => cases h
  | cons b rest =>
    by_cases hfits : (if seen = 0 then isSecond first b else isTail b) = true
    · exact ⟨b, rest, rfl, hfits, by rwa [tails, if_pos hfits] at h⟩
    · rw [tails, if_neg hfits] at h
      cases h

/-- Bytes that are read as a character are the bytes of that character. -/
theorem encodeChar_codePoint {b w : Nat} {bs : List Nat} (hw : width b = w + 1) (h : tails b 0 w bs = .complete) :
    encodeChar (Char.ofNat (codePoint b (bs.take w))) = b :: bs.take w := by
  -- By the number of bytes. The limits of the second byte rule out surrogates, and what fewer bytes can spell.
  rcases width_eq_succ_iff.1 hw with ⟨rfl, hb⟩ | ⟨rfl, hb⟩ | ⟨rfl, hb⟩ | ⟨rfl, hb⟩
  · have hcode : codePoint b (bs.take 0) = b := rfl
    rw [hcode, encodeChar, toNat_ofNat (by omega)]
    exact if_pos hb
  · obtain ⟨x, bs, rfl, hx, -⟩ := exists_of_tails h
    replace hx := isSecond_iff.1 hx
    have hcode : codePoint b ((x :: bs).take 1) = (b - 0xC0) * 64 + (x - 0x80) := rfl
    rw [hcode, encodeChar, toNat_ofNat (by omega), if_neg (by omega), if_pos (by omega)]
    simp only [List.take_succ_cons, List.take_zero, List.cons.injEq, and_true]
    omega
  · obtain ⟨x, bs, rfl, hx, h⟩ := exists_of_tails h
    obtain ⟨y, bs, rfl, hy, -⟩ := exists_of_tails h
    replace hx := isSecond_iff.1 hx
    replace hy := isTail_iff.1 hy
    have hcode : codePoint b ((x :: y :: bs).take 2) = ((b - 0xE0) * 64 + (x - 0x80)) * 64 + (y - 0x80) := rfl
    rw [hcode, encodeChar, toNat_ofNat (by omega), if_neg (by omega), if_neg (by omega), if_pos (by omega)]
    simp only [List.take_succ_cons, List.take_zero, List.cons.injEq, and_true]
    omega
  · obtain ⟨x, bs, rfl, hx, h⟩ := exists_of_tails h
    obtain ⟨y, bs, rfl, hy, h⟩ := exists_of_tails h
    obtain ⟨z, bs, rfl, hz, -⟩ := exists_of_tails h
    replace hx := isSecond_iff.1 hx
    replace hy := isTail_iff.1 hy
    replace hz := isTail_iff.1 hz
    have hcode : codePoint b ((x :: y :: z :: bs).take 3) =
        (((b - 0xF0) * 64 + (x - 0x80)) * 64 + (y - 0x80)) * 64 + (z - 0x80) := rfl
    rw [hcode, encodeChar, toNat_ofNat (by omega), if_neg (by omega), if_neg (by omega), if_neg (by omega)]
    simp only [List.take_succ_cons, List.take_zero, List.cons.injEq, and_true]
    omega

/-- Bytes that are read as a text are the bytes of that text. -/
theorem eq_encode_of_decodeFrom : ∀ {k pos : Nat} {bytes : List Nat} {t : Text}, bytes.length ≤ k →
    decodeFrom k pos bytes = .ok t → bytes = encode t
  | 0, _, [], _, _, h => by
    cases h
    rfl
  | _ + 1, _, [], _, _, h => by
    cases h
    rfl
  | k + 1, pos, b :: bs, t, hk, h => by
    rw [decodeFrom] at h
    split at h
    · cases h
    · rename_i w hw
      split at h
      · cases h
      · cases h
      · rename_i htails
        cases hrest : decodeFrom k (pos + w + 1) (bs.drop w) with
        | error e =>
          rw [hrest] at h
          cases h
        | ok rest =>
          rw [hrest] at h
          cases h
          have hlength : (bs.drop w).length ≤ k := by
            rw [List.length_drop]
            exact Nat.le_trans (Nat.sub_le ..) (Nat.le_of_succ_le_succ hk)
          rw [encode_cons, encodeChar_codePoint hw htails, ← eq_encode_of_decodeFrom hlength hrest, List.cons_append,
            List.take_append_drop]

/-- Bytes are read as a text where they are the bytes of it. -/
theorem decode_eq_ok_iff {bytes : List Nat} {t : Text} : decode bytes = .ok t ↔ bytes = encode t := by
  constructor
  · exact eq_encode_of_decodeFrom (Nat.le_refl _)
  · rintro rfl
    exact decode_encode t

end PathRouter.Utf8
