/-
Characters below the letters have no case: they fold to themselves, and nothing else folds to them.
The slash and the dot of paths are such characters.
-/
import Mathlib
import PathRouter.Regex.Basic

namespace PathRouter.Unicode

theorem foldRules_bounds : ∀ r ∈ foldRules, 65 ≤ r.first ∧ 97 ≤ r.image := by decide +kernel

theorem foldNat_low {n : Nat} (hn : n < 65) : ∀ {rules : List FoldRule}, (∀ r ∈ rules, 65 ≤ r.first ∧ 97 ≤ r.image) →
    foldNat rules n = n
  | [], _ => rfl
  | r :: rs, h => by
    have := (h r List.mem_cons_self).1
    rw [foldNat, if_pos (by omega)]

theorem eq_of_foldNat_low {n : Nat} : ∀ {rules : List FoldRule}, (∀ r ∈ rules, 65 ≤ r.first ∧ 97 ≤ r.image) →
    foldNat rules n < 65 → foldNat rules n = n
  | [], _, _ => rfl
  | r :: rs, h, hn => by
    have hr := (h r List.mem_cons_self).2
    rw [foldNat] at hn ⊢
    split at hn
    · rw [if_pos ‹_›]
    · rw [if_neg ‹_›]
      split at hn
      · rw [FoldRule.apply] at hn
        omega
      · rw [if_neg ‹_›]
        exact eq_of_foldNat_low (fun s hs => h s (List.mem_cons_of_mem _ hs)) hn

/-- A code point that a character other than NUL is made of. -/
theorem eq_toNat_of_ofNat {n : Nat} {c : Char} (hc : 0 < c.toNat) (h : Char.ofNat n = c) : n = c.toNat := by
  subst h
  unfold Char.ofNat at hc ⊢
  split
  · simp [Char.ofNatAux, Char.toNat]
  · rename_i hv
    rw [dif_neg hv] at hc
    exact absurd hc (by decide)

variable {c d : Char}

theorem sameFold_low (h0 : 0 < c.toNat) (h : c.toNat < 65) : sameFold c d = true ↔ d = c := by
  have hc : fold c = c := by rw [fold, foldNat_low h foldRules_bounds, Char.ofNat_toNat]
  rw [sameFold, hc, beq_iff_eq]
  constructor
  · intro hd
    have hn := eq_toNat_of_ofNat h0 hd.symm
    have := eq_of_foldNat_low foldRules_bounds (hn ▸ h)
    rw [← Char.toNat_inj, ← this, hn]
  · rintro rfl
    exact hc.symm

/-- The character is the only one of its class. -/
theorem mem_variants_low (h0 : 0 < c.toNat) (h : c.toNat < 65) (hd : c ∈ variants d) : d = c := by
  rcases List.mem_cons.1 hd with hd | hd
  · exact (sameFold_low h0 h).1 (by
      rw [sameFold, fold, fold, foldNat_low h foldRules_bounds, Char.ofNat_toNat, beq_iff_eq]
      exact hd)
  · obtain ⟨n, hn, hc⟩ := List.mem_map.1 hd
    obtain ⟨r, hr, hs⟩ := List.mem_filterMap.1 hn
    have hb := foldRules_bounds r hr
    have := eq_toNat_of_ofNat h0 hc
    unfold FoldRule.source? at hs
    dsimp only at hs
    split at hs
    · cases hs
      omega
    · cases hs

end PathRouter.Unicode

namespace PathRouter.CharSet

/-- Ignoring case adds nothing to a character that has no case. -/
theorem anyCase_low {s : CharSet} {c d : Char} (h0 : 0 < c.toNat) (h : c.toNat < 65) (hs : ∀ e, s e = true ↔ e = c) :
    s.anyCase d = true ↔ d = c := by
  rw [anyCase, Bool.or_eq_true, hs, List.any_eq_true]
  constructor
  · rintro (hd | ⟨e, he, hse⟩)
    · exact hd
    · rw [hs] at hse
      subst hse
      exact Unicode.mem_variants_low h0 h he
  · exact .inl

end PathRouter.CharSet
