/-
Names in pattern text that stand for sets of characters (`\p{…}`, `[:…:]`) are inert: they hold no
backslash, bracket or parenthesis. So a reader that knows nothing of names can pass over them.
-/
import PathRouter.Regex.Class
import Mathlib.Data.List.Basic

namespace PathRouter.Regex

/-- What holds of the characters of a text is checked along the text, although there are finitely many
characters. -/
instance (priority := high) {P : Char → Prop} [DecidablePred P] (t : Text) : Decidable (∀ c ∈ t, P c) :=
  List.decidableBAll P t

/-- A character that neither escapes, nor opens or closes a class or a group. -/
def Inert (c : Char) : Prop :=
  c ≠ '\\' ∧ c ≠ '[' ∧ c ≠ ']' ∧ c ≠ '(' ∧ c ≠ ')'

instance : DecidablePred Inert := fun _ => inferInstanceAs (Decidable (_ ∧ _ ∧ _ ∧ _ ∧ _))

/-- A text of inert characters. -/
abbrev InertText (t : Text) : Prop := ∀ c ∈ t, Inert c

theorem not_inert_iff {c : Char} : ¬ Inert c ↔ c = '\\' ∨ c = '[' ∨ c = ']' ∨ c = '(' ∨ c = ')' := by
  simp only [Inert, not_and_or, not_not, ne_eq]

theorem inert_of_isAlpha {c : Char} (h : c.isAlpha = true) : Inert c := by
  refine ⟨?_, ?_, ?_, ?_, ?_⟩ <;> rintro rfl <;> cases h

theorem eq_of_ofList_eq {t : Text} {s : String} (h : String.ofList t = s) : t = s.toList := by
  rw [← h, String.toList_ofList]

/-! ## The tables -/

/-- The bytes of the characters that are not inert; in UTF-8 they stand for nothing else. -/
def controlBytes : List UInt8 := [92, 91, 93, 40, 41]

/-- Whether the text is inert, byte by byte. -/
def inertBytes (s : String) : Bool :=
  s.toByteArray.data.toList.all fun b => !controlBytes.contains b

theorem inert_of_bytes {s : String} (h : inertBytes s = true) : InertText s.toList := by
  intro c hc
  by_contra hi
  obtain ⟨b, hb, hbyte⟩ : ∃ b ∈ controlBytes, String.utf8EncodeChar c = [b] := by
    rcases not_inert_iff.1 hi with rfl | rfl | rfl | rfl | rfl
    all_goals exact ⟨_, by decide, rfl⟩
  have hmem : b ∈ s.toByteArray.data.toList := by
    rw [← String.utf8Encode_toList, List.utf8Encode, List.data_toByteArray]
    exact List.mem_flatMap.2 ⟨c, hc, hbyte ▸ List.mem_singleton_self b⟩
  have hinert := List.all_eq_true.1 h b hmem
  rw [List.contains_iff_mem.2 hb] at hinert
  cases hinert

/-- A table of names is inert if its names are, byte by byte. -/
theorem inert_table {α : Type} {table : List α} {names : α → List String}
    (h : (table.all fun p => (names p).all inertBytes) = true) : ∀ p ∈ table, ∀ s ∈ names p, InertText s.toList :=
  fun p hp s hs => inert_of_bytes (List.all_eq_true.1 (List.all_eq_true.1 h p hp) s hs)

theorem inert_properties : ∀ p ∈ Unicode.properties, ∀ s ∈ p.1, InertText s.toList :=
  inert_table (by decide +kernel)

theorem inert_scripts : ∀ p ∈ Unicode.Script.all, ∀ s ∈ p.names, InertText s.toList :=
  inert_table (by decide +kernel)

theorem inert_ages : ∀ a ∈ Unicode.Age.all, ∀ t ∈ a.names, InertText t := by decide +kernel

theorem inert_graphemes : ∀ p ∈ Unicode.Breaks.graphemes, ∀ s ∈ p.1, InertText s.toList :=
  inert_table (by decide +kernel)

theorem inert_words : ∀ p ∈ Unicode.Breaks.words, ∀ s ∈ p.1, InertText s.toList :=
  inert_table (by decide +kernel)

theorem inert_sentences : ∀ p ∈ Unicode.Breaks.sentences, ∀ s ∈ p.1, InertText s.toList :=
  inert_table (by decide +kernel)

/-- A look-up by name in a table of inert names succeeds for inert names only. -/
theorem inert_of_find? {α : Type} {table : List α} {names : α → List String} {name : Text} {a : α}
    (ht : ∀ p ∈ table, ∀ s ∈ names p, InertText s.toList)
    (h : table.find? (fun p => (names p).contains (String.ofList name)) = some a) : InertText name := by
  have hs : String.ofList name ∈ names a := by simpa using List.find?_some h
  have := ht a (List.mem_of_find?_eq_some h) _ hs
  rwa [String.toList_ofList] at this

theorem inert_category {name : Text} {ks : List Unicode.Category} (h : Unicode.Category.named? name = some ks) :
    InertText name := by
  unfold Unicode.Category.named? at h
  split at h
  case h_79 => cases h
  all_goals
    rename_i he
    rw [eq_of_ofList_eq he]
    decide

namespace Property

theorem inert_of_category? {name : Text} {s : CharSet} (h : category? name = some s) : InertText name := by
  unfold category? at h
  split at h
  case h_4 =>
    obtain ⟨ks, hk, -⟩ := Option.map_eq_some_iff.1 h
    exact inert_category hk
  all_goals
    rename_i he
    rw [eq_of_ofList_eq he]
    decide

theorem inert_of_script? {name : Text} {s : CharSet} (h : script? name = some s) : InertText name := by
  obtain ⟨p, hp, -⟩ := Option.map_eq_some_iff.1 h
  exact inert_of_find?  inert_scripts hp

/-- Normalising a name takes away nothing but inert characters. -/
theorem inert_of_normalise {name : Text} (h : InertText (normalise name)) : InertText name := by
  intro c hc
  by_contra hi
  -- A character that is not inert is kept as it is by the squeezing, and is no part of "is".
  have kept : ∀ t : Text, c ∈ t →
      c ∈ ((t.filter fun c => c.val < 128 && c != ' ' && c != '_' && c != '-')).map Char.toLower := by
    intro t ht
    refine List.mem_map.2 ⟨c, List.mem_filter.2 ⟨ht, ?_⟩, ?_⟩ <;>
      rcases not_inert_iff.1 hi with rfl | rfl | rfl | rfl | rfl <;> decide
  refine hi (h c ?_)
  unfold normalise
  split
  · rename_i i s rest
    split
    · rename_i his
      have hrest : c ∈ rest := by
        rcases List.mem_cons.1 hc with rfl | hc
        · rcases not_inert_iff.1 hi with rfl | rfl | rfl | rfl | rfl <;> simp at his
        · rcases List.mem_cons.1 hc with rfl | hc
          · rcases not_inert_iff.1 hi with rfl | rfl | rfl | rfl | rfl <;> simp at his
          · exact hc
      have hk := kept rest hrest
      dsimp only
      split
      · rename_i he
        rw [beq_iff_eq.1 he] at hk
        rw [List.mem_singleton.1 hk] at hi
        exact absurd (by decide) hi
      · exact hk
    · exact kept _ hc
  · exact kept _ hc

theorem eq_some_of_orElse {α : Type} {o : Option α} {f : Unit → Option α} {a : α} (h : o.orElse f = some a) :
    o = some a ∨ f () = some a := by
  cases o with
  | none => exact .inr h
  | some b => exact .inl h

theorem inert_of_named? {name : Text} {s : CharSet} (h : named? name = some s) : InertText name := by
  refine inert_of_normalise ?_
  rcases eq_some_of_orElse h with h | h
  · obtain ⟨p, hp, -⟩ := Option.map_eq_some_iff.1 h
    exact inert_of_find?  inert_properties hp
  · rcases eq_some_of_orElse h with h | h
    · exact inert_of_category? h
    · exact inert_of_script? h

theorem inert_of_known? {name : Text} {s : CharSet} (h : Unicode.Age.known? name = some s) : InertText name := by
  obtain ⟨ages, h, -⟩ := Option.map_eq_some_iff.1 h
  obtain ⟨i, h, -⟩ := Option.map_eq_some_iff.1 h
  obtain ⟨hi, h, -⟩ := List.findIdx?_eq_some_iff_getElem.1 h
  exact inert_ages _ (List.getElem_mem hi) _ (by simpa using h)

theorem inert_of_break? {classes : List Unicode.Breaks.Named} {name : Text} {s : CharSet}
    (hc : ∀ p ∈ classes, ∀ s ∈ p.1, InertText s.toList)
    (h : Unicode.Breaks.named? classes name = some s) : InertText name := by
  obtain ⟨p, hp, -⟩ := Option.map_eq_some_iff.1 h
  exact inert_of_find?  hc hp

theorem inert_of_valued? {property value : Text} {s : CharSet} (h : valued? property value = some s) :
    InertText property ∧ InertText value := by
  have key : InertText (normalise property) ∧ InertText (normalise value) := by
    unfold valued? at h
    dsimp only at h
    split at h
    case h_14 => cases h
    all_goals
      rename_i he
      refine ⟨by rw [eq_of_ofList_eq he]; decide, ?_⟩
    case h_1 | h_2 => exact inert_of_category? h
    case h_3 | h_4 => exact inert_of_script? h
    case h_5 | h_6 =>
      obtain ⟨p, hp, -⟩ := Option.map_eq_some_iff.1 h
      exact inert_of_find?  inert_scripts hp
    case h_7 => exact inert_of_known? h
    case h_8 | h_9 => exact inert_of_break? inert_graphemes h
    case h_10 | h_11 => exact inert_of_break? inert_words h
    case h_12 | h_13 => exact inert_of_break? inert_sentences h
  exact ⟨inert_of_normalise key.1, inert_of_normalise key.2⟩

theorem eq_of_cut? {separator : Text} : ∀ {t left right : Text}, cut? separator t = some (left, right) →
    t = left ++ separator ++ right
  | [], _, _, h => by cases h
  | c :: t, left, right, h => by
    rw [cut?] at h
    split at h
    · rename_i hp
      cases h
      obtain ⟨r, hr⟩ := List.isPrefixOf_iff_prefix.1 hp
      rw [← hr]; simp
    · obtain ⟨⟨l, r⟩, hlr, he⟩ := Option.map_eq_some_iff.1 h
      cases he
      rw [eq_of_cut? hlr]; rfl

theorem inert_of_cut? {separator t left right : Text} {s : CharSet} (hs : InertText separator)
    (hc : cut? separator t = some (left, right)) (h : valued? left right = some s) : InertText t := by
  rw [eq_of_cut? hc]
  intro c hm
  rcases List.mem_append.1 hm with hm | hm
  · rcases List.mem_append.1 hm with hm | hm
    · exact (inert_of_valued? h).1 c hm
    · exact hs c hm
  · exact (inert_of_valued? h).2 c hm

/-- A text in the braces of `\p` that stands for a set is inert. -/
theorem inert_of_set? {t : Text} {s : CharSet} (h : set? t = some s) : InertText t := by
  unfold set? at h
  split at h
  · rename_i hc
    obtain ⟨s, hs, -⟩ := Option.map_eq_some_iff.1 h
    exact inert_of_cut? (by decide) hc hs
  · split at h
    · rename_i hc
      rcases eq_some_of_orElse hc with hc | hc
      · exact inert_of_cut? (by decide) hc h
      · exact inert_of_cut? (by decide) hc h
    · exact inert_of_named? h

end Property

/-! ## Named classes of ASCII -/

theorem ClassPart.inert_of_ascii? {name : Text} {s : CharSet} (h : ClassPart.ascii? name = some s) :
    ∀ c ∈ name, c.isAlpha = true := by
  unfold ClassPart.ascii? at h
  split at h
  case h_15 => cases h
  all_goals
    rename_i he
    rw [eq_of_ofList_eq he]
    decide

end PathRouter.Regex
