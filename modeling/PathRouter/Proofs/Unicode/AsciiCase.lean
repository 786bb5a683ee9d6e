/-
The case of ASCII characters. An ASCII character folds to its lower case. What folds to the same is that character in
either case, but for two letters: the long s folds to `s` as well, and the Kelvin sign to `k` (`sameFold_ascii_iff`).
-/
import PathRouter.Proofs.Unicode.Folding

namespace PathRouter.Unicode

/-! ## Folding code points -/

/-- A code point folds to itself, or as a run says that it lies in. -/
theorem foldNat_cases (n : Nat) : ∀ rules : List FoldRule,
    foldNat rules n = n ∨ ∃ r ∈ rules, r.first ≤ n ∧ n ≤ r.last ∧ foldNat rules n = r.image + (n - r.first)
  | [] => .inl rfl
  | r :: rs => by
    rw [foldNat]
    split
    · exact .inl rfl
    · split
      · rename_i hholds
        simp only [FoldRule.holds, Bool.and_eq_true, decide_eq_true_eq] at hholds
        exact .inr ⟨r, List.mem_cons_self, hholds.1.1, hholds.1.2, rfl⟩
      · rcases foldNat_cases n rs with h | ⟨s, hs, h⟩
        · exact .inl h
        · exact .inr ⟨s, List.mem_cons_of_mem r hs, h⟩

/-- No run leads to code points that are no characters. -/
theorem foldRules_valid : ∀ r ∈ foldRules, r.image + (r.last - r.first) < 0xD800 ∨
    (0xDFFF < r.image ∧ r.image + (r.last - r.first) < 0x110000) := by decide +kernel

/-- The runs that lead to ASCII characters: the capital letters, the long s and the Kelvin sign. -/
theorem foldRules_ascii : ∀ r ∈ foldRules, 128 ≤ r.image ∨ (r.first = 65 ∧ r.last = 90 ∧ r.image = 97) ∨
    (r.first = 383 ∧ r.last = 383 ∧ r.image = 115) ∨
    (r.first = 8490 ∧ r.last = 8490 ∧ r.image = 107) := by decide +kernel

theorem foldNat_ascii : ∀ n < 128, foldNat foldRules n = if 65 ≤ n ∧ n ≤ 90 then n + 32 else n := by decide +kernel

theorem foldNat_longS : foldNat foldRules 0x17F = 115 := by decide +kernel

theorem foldNat_kelvin : foldNat foldRules 0x212A = 107 := by decide +kernel

/-- What folds to an ASCII character. -/
theorem foldNat_lt {n : Nat} (h : foldNat foldRules n < 128) : n < 128 ∨ n = 0x17F ∨ n = 0x212A := by
  rcases foldNat_cases n foldRules with hn | ⟨r, hr, hfirst, hlast, hn⟩
  · exact .inl (hn ▸ h)
  · rw [hn] at h
    rcases foldRules_ascii r hr with hr | hr | hr | hr <;> omega

/-! ## Folding characters -/

theorem toNat_fold (c : Char) : (fold c).toNat = foldNat foldRules c.toNat := by
  have hvalid : (foldNat foldRules c.toNat).isValidChar := by
    rcases foldNat_cases c.toNat foldRules with hn | ⟨r, hr, hfirst, hlast, hn⟩
    · rw [hn]
      exact c.valid
    · rw [hn]
      rcases foldRules_valid r hr with hr | hr
      · exact .inl (by omega)
      · exact .inr (by omega)
  rw [fold, Char.ofNat, dif_pos hvalid]
  rfl

theorem sameFold_iff {c d : Char} : sameFold c d = true ↔ foldNat foldRules c.toNat = foldNat foldRules d.toNat := by
  rw [sameFold, beq_iff_eq, ← Char.toNat_inj, toNat_fold, toNat_fold]

theorem toNat_toLower (c : Char) : c.toLower.toNat = if 65 ≤ c.toNat ∧ c.toNat ≤ 90 then c.toNat + 32 else c.toNat := by
  unfold Char.toLower
  split
  · rename_i h
    have h1 : 65 ≤ c.toNat := UInt32.le_iff_toNat_le.1 h.1
    have h2 : c.toNat ≤ 90 := UInt32.le_iff_toNat_le.1 h.2
    have hadd : (c.val + 32).toNat = (c.toNat + 32) % 2 ^ 32 := UInt32.toNat_add c.val 32
    rw [if_pos ⟨h1, h2⟩]
    exact hadd.trans (by omega)
  · rename_i h
    rw [if_neg]
    rintro ⟨h1, h2⟩
    exact h ⟨UInt32.le_iff_toNat_le.2 h1, UInt32.le_iff_toNat_le.2 h2⟩

theorem sameAscii_iff {c d : Char} : sameAscii c d = true ↔ c.toLower.toNat = d.toLower.toNat := by
  rw [sameAscii, beq_iff_eq, Char.toNat_inj]

/-- An ASCII character folds to its lower case. -/
theorem foldNat_toNat {c : Char} (hc : c.toNat < 128) : foldNat foldRules c.toNat = c.toLower.toNat := by
  rw [toNat_toLower, foldNat_ascii c.toNat hc]

/-- The characters that are the same as an ASCII character up to case: it in either case, the long s for `s`, and the
Kelvin sign for `k`. -/
theorem sameFold_ascii_iff {c d : Char} (hc : c.toNat < 128) : sameFold c d = true ↔
    sameAscii c d = true ∨ (c.toLower = 's' ∧ d = '\u017F') ∨ (c.toLower = 'k' ∧ d = '\u212A') := by
  have hlower : c.toLower.toNat < 128 := by
    rw [toNat_toLower]
    split <;> omega
  rw [sameFold_iff, foldNat_toNat hc,
    sameAscii_iff, ← Char.toNat_inj, ← Char.toNat_inj, ← Char.toNat_inj, ← Char.toNat_inj]
  show _ ↔ _ ∨ (_ = 115 ∧ _ = 0x17F) ∨ (_ = 107 ∧ _ = 0x212A)
  constructor
  · intro h
    rcases foldNat_lt (h ▸ hlower) with hd | hd | hd
    · exact .inl (h.trans (foldNat_toNat hd))
    · rw [hd, foldNat_longS] at h
      exact .inr (.inl ⟨h, hd⟩)
    · rw [hd, foldNat_kelvin] at h
      exact .inr (.inr ⟨h, hd⟩)
  · rintro (h | ⟨h, hd⟩ | ⟨h, hd⟩)
    · -- The other character is ASCII too: outside of ASCII the lower case is the character itself.
      have hd : d.toNat < 128 := by
        rw [toNat_toLower d] at h
        split at h <;> omega
      rw [h, foldNat_toNat hd]
    · rw [hd, foldNat_longS, h]
    · rw [hd, foldNat_kelvin, h]

/-- A character other than an ASCII letter is the same as no other one. -/
theorem eq_or_ascii_of_sameAscii {c d : Char} (h : sameAscii c d = true) : c = d ∨ (c.toNat < 128 ∧ d.toNat < 128) := by
  rw [sameAscii_iff, toNat_toLower c, toNat_toLower d] at h
  by_cases hcd : c.toNat = d.toNat
  · exact .inl (Char.toNat_inj.1 hcd)
  · -- One of the two is a capital letter, and the other one its lower case.
    refine .inr ?_
    split at h <;> split at h <;> omega

theorem foldNat_eq_of_sameAscii {c d : Char} (h : sameAscii c d = true) :
    foldNat foldRules c.toNat = foldNat foldRules d.toNat := by
  rcases eq_or_ascii_of_sameAscii h with rfl | ⟨hc, hd⟩
  · rfl
  · rw [foldNat_toNat hc, foldNat_toNat hd, sameAscii_iff.1 h]

/-- The case of an ASCII letter does not count for what it is the same as. -/
theorem sameFold_congr {c d : Char} (h : sameAscii c d = true) (e : Char) : sameFold e c = sameFold e d := by
  rw [Bool.eq_iff_iff, sameFold_iff, sameFold_iff, foldNat_eq_of_sameAscii h]

theorem utf8Size_eq_of_sameAscii {c d : Char} (h : sameAscii c d = true) : c.utf8Size = d.utf8Size := by
  rcases eq_or_ascii_of_sameAscii h with rfl | ⟨hc, hd⟩
  · rfl
  · have one : ∀ {e : Char}, e.toNat < 128 → e.utf8Size = 1 := fun he =>
      Char.utf8Size_eq_one_iff.2 (UInt32.le_iff_toNat_le.2 (Nat.le_of_lt_succ he))
    rw [one hc, one hd]

end PathRouter.Unicode
