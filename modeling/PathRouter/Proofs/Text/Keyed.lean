/-
Looking up under a key in a list of keys and values. The first value under the key is found, also if the list has more
of them; if there is one at most, it does not matter from which end the list is looked through (`lookup_reverse`).
-/
import PathRouter.Text
import Mathlib.Data.List.Nodup

namespace PathRouter

variable {α : Type} {l : List (Text × α)} {key : Text} {a : α}

theorem lookup_cons_eq_ite (e : Text × α) (l : List (Text × α)) :
    (e :: l).lookup key = if key = e.1 then some e.2 else l.lookup key := by
  rw [List.lookup_cons]
  by_cases hkey : key = e.1
  · rw [beq_iff_eq.2 hkey, if_pos hkey]
  · rw [beq_eq_false_iff_ne.2 hkey, if_neg hkey]

theorem lookup_isSome_iff : (l.lookup key).isSome ↔ key ∈ l.map (·.1) := by
  induction l with
  | nil => exact ⟨nofun, nofun⟩
  | cons e l ih =>
    rw [lookup_cons_eq_ite, List.map_cons, List.mem_cons]
    by_cases hkey : key = e.1
    · rw [if_pos hkey]
      exact ⟨fun _ => .inl hkey, fun _ => rfl⟩
    · rw [if_neg hkey, or_iff_right hkey, ih]

theorem lookup_eq_none_of_not_mem (h : key ∉ l.map (·.1)) : l.lookup key = none :=
  Option.not_isSome_iff_eq_none.1 (mt lookup_isSome_iff.1 h)

/-- What is listed under different names is found by its name. -/
theorem lookup_eq_some_of_mem (hnodup : (l.map (·.1)).Nodup) (h : (key, a) ∈ l) : l.lookup key = some a := by
  induction l with
  | nil => cases h
  | cons e l ih =>
    rw [List.map_cons, List.nodup_cons] at hnodup
    rw [lookup_cons_eq_ite]
    rcases List.mem_cons.1 h with rfl | h
    · exact if_pos rfl
    · have hkey : key ≠ e.1 := fun hkey => hnodup.1 (hkey ▸ List.mem_map_of_mem h)
      rw [if_neg hkey, ih hnodup.2 h]

/-- Entries that are taken out by their keys leave what is found under the others. -/
theorem lookup_filter (p : Text → Bool) (l : List (Text × α)) :
    (l.filter fun e => p e.1).lookup key = if p key then l.lookup key else none := by
  induction l with
  | nil => split <;> rfl
  | cons e l ih =>
    rw [List.filter_cons, lookup_cons_eq_ite]
    by_cases hkey : key = e.1
    · rw [if_pos hkey, hkey]
      split
      · exact List.lookup_cons_self
      · rename_i hp
        rw [← hkey, ih, hkey, if_neg hp]
    · rw [if_neg hkey, ← ih]
      split
      · rw [lookup_cons_eq_ite, if_neg hkey]
      · rfl

/-- A key that is there once at most is found from both ends. -/
theorem lookup_reverse (h : (l.map (·.1)).count key ≤ 1) : l.reverse.lookup key = l.lookup key := by
  induction l with
  | nil => rfl
  | cons e l ih =>
    rw [List.reverse_cons, List.lookup_append, lookup_cons_eq_ite, lookup_cons_eq_ite]
    rw [List.map_cons] at h
    split
    · rename_i hkey
      have hrest : key ∉ l.reverse.map (·.1) := by
        rw [hkey, List.count_cons_self] at h
        rw [List.map_reverse, List.mem_reverse, hkey]
        exact List.count_eq_zero.1 (by omega)
      rw [lookup_eq_none_of_not_mem hrest, Option.none_or]
    · rename_i hkey
      rw [List.count_cons_of_ne (Ne.symm hkey)] at h
      rw [ih h, List.lookup_nil, Option.or_none]

end PathRouter
