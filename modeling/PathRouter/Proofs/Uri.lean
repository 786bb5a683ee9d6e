/-
URIs with a place for a path. An authority alone has none, and it has no path either: this is what
reading keeps (`Uri.wellFormed_of_parse`), and so does replacing the path of a URI that has one.
-/
import PathRouter.Uri
import PathRouter.Proofs.Regex.Escapes

namespace PathRouter.Uri

open Regex

/-- An authority alone has no path. -/
def WellFormed (u : Uri) : Prop :=
  u.scheme = none → u.authority.isSome = true → u.path = []

/-- A URI that has a path can have any other one. -/
theorem WellFormed.withPath?_eq {u : Uri} (h : u.WellFormed) (hpath : u.path ≠ []) (path : Text) :
    u.withPath? path = some { u with path } := by
  unfold withPath?
  rw [if_neg]
  intro hplace
  obtain ⟨hscheme, hauthority⟩ := Bool.and_eq_true_iff.1 hplace
  exact hpath (h (Option.isNone_iff_eq_none.1 hscheme) hauthority)

/-- A URI with a scheme or without an authority is well-formed. -/
theorem wellFormed_of_place {u : Uri} (h : u.scheme ≠ none ∨ u.authority = none) : u.WellFormed := by
  intro hscheme hauthority
  rcases h with h | h
  · exact absurd hscheme h
  · rw [h] at hauthority
    cases hauthority

theorem WellFormed.withPath? {u u' : Uri} {path : Text} (h : u.withPath? path = some u') : u'.WellFormed := by
  unfold Uri.withPath? at h
  split at h
  · cases h
  · rename_i hplace
    cases h
    apply wellFormed_of_place
    cases hscheme : u.scheme with
    | some s => exact .inl (Option.some_ne_none s)
    | none =>
      cases hauthority : u.authority with
      | none => exact .inr rfl
      | some a => exact absurd (by rw [hscheme, hauthority]; rfl) hplace

theorem wellFormed_of_parseFull {t : Text} {u : Uri} (h : parseFull t = .ok u) : u.WellFormed := by
  unfold parseFull at h
  obtain ⟨⟨scheme, t⟩, -, h⟩ := bind_eq_ok.1 h
  dsimp only at h
  split at h
  · cases h
  obtain ⟨⟨authority, rest⟩, -, h⟩ := bind_eq_ok.1 h
  dsimp only at h
  cases scheme with
  | none =>
    dsimp only at h
    split at h
    · cases h
      exact fun _ _ => rfl
    · cases h
  | some scheme =>
    dsimp only at h
    split at h
    · cases h
    obtain ⟨⟨path, query⟩, -, h⟩ := bind_eq_ok.1 h
    cases h
    exact wellFormed_of_place (.inl (Option.some_ne_none _))

/-- URIs that are read are well-formed. -/
theorem wellFormed_of_parse {t : Text} {u : Uri} (h : parse t = .ok u) : u.WellFormed := by
  unfold parse at h
  split at h
  · cases h
  split at h
  · cases h
  · cases h
    exact wellFormed_of_place (.inr rfl)
  · obtain ⟨⟨path, query⟩, -, h⟩ := bind_eq_ok.1 h
    cases h
    exact wellFormed_of_place (.inr rfl)
  · obtain ⟨⟨authority, rest⟩, -, h⟩ := bind_eq_ok.1 h
    dsimp only at h
    split at h
    · cases h
      exact fun _ _ => rfl
    · cases h
  · exact wellFormed_of_parseFull h

theorem ne_nil_of_parse {t : Text} {u : Uri} (h : parse t = .ok u) : t ≠ [] := by
  rintro rfl
  cases h

/-- A path alone that is read as a URI is all of it, unless a query or a fragment begins in it. -/
theorem parse_path {t : Text} {u : Uri} (h : parse t = .ok u) (hslash : t.head? = some '/') (hquery : '?' ∉ t)
    (hfragment : '#' ∉ t) : Text.byteLength t ≤ maxLength ∧ u = ⟨none, none, t, none⟩ := by
  obtain ⟨rest, rfl⟩ : ∃ rest, t = '/' :: rest := by
    cases t with
    | nil => cases hslash
    | cons c rest => exact ⟨rest, by rw [Option.some.inj hslash]⟩
  unfold parse at h
  split at h
  · cases h
  rename_i hlength
  obtain ⟨⟨path, query⟩, hpath, h⟩ := bind_eq_ok.1 h
  cases h
  refine ⟨Nat.not_lt.1 hlength, ?_⟩
  have hrest : ∀ c ∈ ('/' :: rest).dropWhile inPath, c ≠ '?' ∧ c ≠ '#' := fun c hc =>
    have hmem : c ∈ '/' :: rest := (List.dropWhile_suffix inPath).subset hc
    ⟨fun heq => hquery (heq ▸ hmem), fun heq => hfragment (heq ▸ hmem)⟩
  have hsplit := List.takeWhile_append_dropWhile (p := inPath) (l := '/' :: rest)
  unfold pathAndQuery at hpath
  dsimp only at hpath
  split at hpath
  · rename_i hnil
    cases hpath
    rw [hnil, List.append_nil] at hsplit
    rw [hsplit]
  · rename_i htail
    exact absurd rfl (hrest '#' (by rw [htail]; exact List.mem_cons_self)).2
  · rename_i htail
    exact absurd rfl (hrest '?' (by rw [htail]; exact List.mem_cons_self)).1
  · cases hpath

end PathRouter.Uri
