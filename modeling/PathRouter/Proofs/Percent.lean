/-
Percent-encoding with nothing but letters, digits and percent signs in the outcome. A text that is encoded so is
decoded again (`Percent.Encodes.decode`), whatever characters it has; what is encoded holds no character that
separates the parts of a path or of a URI.
-/
import Mathlib
import PathRouter.Percent
import PathRouter.Proofs.Utf8

namespace PathRouter.Percent

/-- A hexadecimal digit, in upper or in lower case. -/
def digit (upper : Bool) (n : Nat) : Char :=
  Char.ofNat (if n < 10 then 48 + n else if upper then 55 + n else 87 + n)

/-- A text spells bytes: letters and digits of ASCII as they are, all else as percent signs with two hexadecimal
digits. -/
inductive Spells : List Nat → Text → Prop
  | nil : Spells [] []
  | plain {b : Nat} {bs : List Nat} {t : Text} : (Char.ofNat b).isAlphanum = true → Spells bs t →
      Spells (b :: bs) (Char.ofNat b :: t)
  | encoded {b : Nat} {bs : List Nat} {t : Text} (upper upper' : Bool) :
      (Char.ofNat b).isAlphanum = false → Spells bs t →
      Spells (b :: bs) ('%' :: digit upper (b / 16) :: digit upper' (b % 16) :: t)

/-- A text is percent-encoded, byte by byte. -/
def Encodes (t encoded : Text) : Prop := Spells (Utf8.encode t) encoded

/-- The encoding of bytes in upper case. -/
def encodeBytes : List Nat → Text
  | [] => []
  | b :: bs =>
    if (Char.ofNat b).isAlphanum then Char.ofNat b :: encodeBytes bs
    else '%' :: digit true (b / 16) :: digit true (b % 16) :: encodeBytes bs

theorem spells_encodeBytes : ∀ bs, Spells bs (encodeBytes bs)
  | [] => .nil
  | b :: bs => by
    rw [encodeBytes]
    split
    · rename_i h
      exact .plain h (spells_encodeBytes bs)
    · rename_i h
      exact .encoded true true (Bool.not_eq_true _ ▸ h) (spells_encodeBytes bs)

/-- Every text can be encoded. -/
theorem exists_encodes (t : Text) : ∃ encoded, Encodes t encoded :=
  ⟨_, spells_encodeBytes (Utf8.encode t)⟩

/-! ## The characters of an encoding -/

theorem isAlphanum_iff {c : Char} : c.isAlphanum = true ↔
    (48 ≤ c.toNat ∧ c.toNat ≤ 57) ∨ (65 ≤ c.toNat ∧ c.toNat ≤ 90) ∨ (97 ≤ c.toNat ∧ c.toNat ≤ 122) := by
  simp only [Char.isAlphanum, Char.isAlpha, Char.isUpper, Char.isLower, Char.isDigit, Bool.or_eq_true, Bool.and_eq_true,
    decide_eq_true_eq, ge_iff_le, UInt32.le_iff_toNat_le]
  show (65 ≤ c.toNat ∧ c.toNat ≤ 90 ∨ 97 ≤ c.toNat ∧ c.toNat ≤ 122) ∨ 48 ≤ c.toNat ∧ c.toNat ≤ 57 ↔ _
  omega

theorem toNat_digit (upper : Bool) {n : Nat} (h : n < 16) :
    (digit upper n).toNat = if n < 10 then 48 + n else if upper then 55 + n else 87 + n := by
  revert h
  revert n upper
  decide

theorem isAlphanum_digit (upper : Bool) {n : Nat} (h : n < 16) : (digit upper n).isAlphanum = true := by
  rw [isAlphanum_iff, toNat_digit upper h]
  split_ifs <;> omega

theorem hexValue?_digit (upper : Bool) {n : Nat} (h : n < 16) : hexValue? (digit upper n).toNat = some n := by
  rw [toNat_digit upper h]
  revert h
  revert n upper
  decide

/-- An encoding has nothing but letters, digits and percent signs. -/
theorem Spells.mem {bs : List Nat} {t : Text} (h : Spells bs t) (hbs : ∀ b ∈ bs, b < 0x100) {c : Char} (hc : c ∈ t) :
    c = '%' ∨ c.isAlphanum = true := by
  induction h with
  | nil => cases hc
  | plain hb _ ih =>
    rw [List.forall_mem_cons] at hbs
    rcases List.mem_cons.1 hc with rfl | hc
    · exact .inr hb
    · exact ih hbs.2 hc
  | @encoded b _ _ upper upper' _ _ ih =>
    rw [List.forall_mem_cons] at hbs
    simp only [List.mem_cons] at hc
    rcases hc with rfl | rfl | rfl | hc
    · exact .inl rfl
    · exact .inr (isAlphanum_digit upper (by omega))
    · exact .inr (isAlphanum_digit upper' (by omega))
    · exact ih hbs.2 hc

/-! ## Decoding -/

theorem decodeBytes_cons {b : Nat} (hb : b ≠ 37) (bs : List Nat) : decodeBytes (b :: bs) = b :: decodeBytes bs := by
  rw [decodeBytes]
  rintro high low rest rfl
  exact absurd rfl hb

theorem decodeBytes_byte {high low b : Nat} (h : byte? high low = some b) (bs : List Nat) :
    decodeBytes (37 :: high :: low :: bs) = b :: decodeBytes bs := by
  rw [decodeBytes, h]

theorem toNat_lt_of_isAlphanum {c : Char} (h : c.isAlphanum = true) : c.toNat < 0x80 := by
  have := isAlphanum_iff.1 h
  omega

/-- The bytes that an encoding spells are decoded from it. -/
theorem Spells.decodeBytes {bs : List Nat} {t : Text} (h : Spells bs t) (hbs : ∀ b ∈ bs, b < 0x100) :
    decodeBytes (Utf8.encode t) = bs := by
  induction h with
  | nil => rfl
  | @plain b _ _ hb _ ih =>
    rw [List.forall_mem_cons] at hbs
    -- The percent sign is no letter and no digit, so the byte is not taken for one.
    have hvalid : b.isValidChar := .inl (by omega)
    have hnat : (Char.ofNat b).toNat = b := by
      rw [Char.ofNat, dif_pos hvalid]
      rfl
    have hne : b ≠ 37 := by
      rintro rfl
      cases hb
    rw [Utf8.encode_cons, Utf8.encodeChar_low (toNat_lt_of_isAlphanum hb), hnat, List.singleton_append,
      decodeBytes_cons hne, ih hbs.2]
  | @encoded b _ _ upper upper' _ _ ih =>
    rw [List.forall_mem_cons] at hbs
    have hhigh : b / 16 < 16 := by omega
    have hlow : b % 16 < 16 := by omega
    have hbyte : byte? (digit upper (b / 16)).toNat (digit upper' (b % 16)).toNat = some b := by
      rw [byte?, hexValue?_digit upper hhigh, hexValue?_digit upper' hlow, Option.bind_some, Option.map_some,
        Nat.div_add_mod']
    rw [Utf8.encode_cons, Utf8.encode_cons, Utf8.encode_cons, Utf8.encodeChar_low (by decide),
      Utf8.encodeChar_low (toNat_lt_of_isAlphanum (isAlphanum_digit upper hhigh)),
      Utf8.encodeChar_low (toNat_lt_of_isAlphanum (isAlphanum_digit upper' hlow)), List.singleton_append,
      List.singleton_append, List.singleton_append, show '%'.toNat = 37 from rfl, decodeBytes_byte hbyte, ih hbs.2]

namespace Encodes

variable {t encoded : Text}

/-- Decoding is inverse to encoding. -/
theorem decode (h : Encodes t encoded) : Percent.decode encoded = .ok t := by
  rw [Percent.decode, Spells.decodeBytes h fun _ => Utf8.lt_of_mem_encode, Utf8.decode_encode]

theorem ne_nil (h : Encodes t encoded) (ht : t ≠ []) : encoded ≠ [] := by
  rintro rfl
  have hdecode := h.decode
  cases hdecode
  exact ht rfl

/-- Characters that separate parts do not occur in what is encoded. -/
theorem not_mem (h : Encodes t encoded) {c : Char} (hc : c ≠ '%') (hplain : c.isAlphanum = false) : c ∉ encoded := by
  intro hmem
  rcases Spells.mem h (fun _ => Utf8.lt_of_mem_encode) hmem with rfl | halphanum
  · exact hc rfl
  · exact absurd halphanum (by rw [hplain]; exact Bool.false_ne_true)

end Encodes

end PathRouter.Percent
