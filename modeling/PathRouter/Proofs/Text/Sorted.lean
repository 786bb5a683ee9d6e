/-
Lists of keys and values in the order of their keys. An entry that is put in is found under its key, and nothing
changes under the others (`Text.lookup_insertSorted`). So of several entries with one key the last counts
(`Text.lookup_sorted`), and since the keys ascend, each is there once (`Text.nodup_sorted`).
-/
import PathRouter.Proofs.Text.Keyed
import PathRouter.Text.Sorted
import Mathlib.Data.Char
import Mathlib.Data.List.Lex

namespace PathRouter.Text

/-- Texts are ordered as the lists of their characters are. -/
theorem less_iff : ∀ s t : Text, less s t = true ↔ s < t
  | [], [] | _ :: _, [] | [], _ :: _ => by simp [less]
  | c :: s, d :: t => by
    rw [List.cons_lt_cons_iff, ← less_iff s t, less, Bool.or_eq_true, Bool.and_eq_true, decide_eq_true_iff, beq_iff_eq]

variable {α β : Type} {key other : Text} {value : α} {entries : List (Text × α)}

/-! ## What is found under a key -/

/-- An entry that is put in changes what is found under its key, and under no other. -/
theorem lookup_insertSorted : (insertSorted less key value entries).lookup other =
    if other = key then some value else entries.lookup other := by
  induction entries with
  | nil => rw [insertSorted, lookup_cons_eq_ite]
  | cons e entries ih =>
    unfold insertSorted
    split
    · rename_i hless
      -- An entry that stays in front has another key.
      have hne : e.1 ≠ key := fun h => lt_irrefl key ((less_iff key key).1 (h ▸ hless))
      rw [lookup_cons_eq_ite, lookup_cons_eq_ite, ih]
      split
      · rename_i hother
        rw [if_neg fun h => hne (hother.symm.trans h)]
      · rfl
    · split
      · rename_i hkey
        rw [lookup_cons_eq_ite, lookup_cons_eq_ite]
        by_cases hother : other = key
        · rw [if_pos hother, if_pos hother]
        · rw [if_neg hother, if_neg hother, if_neg fun h => hother (h.trans hkey)]
      · rw [lookup_cons_eq_ite]

theorem sorted_eq_foldr (less : Text → Text → Bool) (entries : List (Text × α)) :
    sorted less entries = entries.reverse.foldr (fun e done => insertSorted less e.1 e.2 done) [] := by
  rw [sorted, List.foldl_eq_foldr_reverse]

/-- Of several entries with one key the last counts. -/
theorem lookup_sorted (entries : List (Text × α)) (key : Text) :
    (sorted less entries).lookup key = entries.reverse.lookup key := by
  rw [sorted_eq_foldr]
  induction entries.reverse with
  | nil => rfl
  | cons e entries ih => rw [List.foldr_cons, lookup_insertSorted, ih, lookup_cons_eq_ite]

/-! ## The order of keys -/

theorem mem_insertSorted {e : Text × α} (h : e ∈ insertSorted less key value entries) :
    e = (key, value) ∨ e ∈ entries := by
  induction entries with
  | nil => exact .inl (List.mem_singleton.1 h)
  | cons d entries ih =>
    unfold insertSorted at h
    split at h
    · rcases List.mem_cons.1 h with rfl | h
      · exact .inr List.mem_cons_self
      · exact (ih h).imp_right (List.mem_cons_of_mem d)
    · split at h
      · exact (List.mem_cons.1 h).imp_right (List.mem_cons_of_mem d)
      · exact List.mem_cons.1 h

/-- Keys that ascend still do when one is put in. -/
theorem pairwise_insertSorted (h : entries.Pairwise fun d e => d.1 < e.1) :
    (insertSorted less key value entries).Pairwise fun d e => d.1 < e.1 := by
  induction entries with
  | nil => exact List.pairwise_singleton _ _
  | cons d entries ih =>
    obtain ⟨hfront, hrest⟩ := List.pairwise_cons.1 h
    unfold insertSorted
    split
    · rename_i hless
      refine List.pairwise_cons.2 ⟨fun e he => ?_, ih hrest⟩
      rcases mem_insertSorted he with rfl | he
      · exact (less_iff d.1 key).1 hless
      · exact hfront e he
    · rename_i hless
      split
      · rename_i hkey
        exact List.pairwise_cons.2 ⟨fun e he => hkey ▸ hfront e he, hrest⟩
      · rename_i hkey
        have hlt : key < d.1 := lt_of_le_of_ne (not_lt.1 (mt (less_iff d.1 key).2 hless)) (Ne.symm hkey)
        refine List.pairwise_cons.2 ⟨fun e he => ?_, h⟩
        rcases List.mem_cons.1 he with rfl | he
        · exact hlt
        · exact hlt.trans (hfront e he)

/-- A key is there once. -/
theorem nodup_sorted (entries : List (Text × α)) : ((sorted less entries).map (·.1)).Nodup := by
  have hsorted : (sorted less entries).Pairwise fun d e => d.1 < e.1 := by
    rw [sorted_eq_foldr]
    induction entries.reverse with
    | nil => exact .nil
    | cons e entries ih => exact pairwise_insertSorted ih
  exact List.pairwise_map.2 (hsorted.imp ne_of_lt)

/-! ## Other values under the same keys -/

/-- Values do not count for the order. -/
theorem sorted_map (less : Text → Text → Bool) (f : Text → α → β) (entries : List (Text × α)) :
    sorted less (entries.map fun e => (e.1, f e.1 e.2)) = (sorted less entries).map fun e => (e.1, f e.1 e.2) := by
  have hinsert : ∀ (key : Text) (value : α) (entries : List (Text × α)),
      insertSorted less key (f key value) (entries.map fun e => (e.1, f e.1 e.2)) =
        (insertSorted less key value entries).map fun e => (e.1, f e.1 e.2) := by
    intro key value entries
    induction entries with
    | nil => rfl
    | cons e entries ih =>
      rw [List.map_cons, insertSorted, insertSorted, ih]
      split
      · rfl
      · split <;> rfl
  rw [sorted_eq_foldr, sorted_eq_foldr, ← List.map_reverse]
  induction entries.reverse with
  | nil => rfl
  | cons e entries ih => rw [List.map_cons, List.foldr_cons, List.foldr_cons, ih, hinsert]

end PathRouter.Text
