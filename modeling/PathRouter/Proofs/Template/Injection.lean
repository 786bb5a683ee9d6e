/-
What injection reads and where it writes it. It looks up the keys of the template and no other names
(`Template.inject_congr`). The text of a key stands in the path between parts that do not depend on it
(`Template.inject_eq_fill`), so that different texts make different paths. What injection makes of a template is a
template again, with the placeholders that got no value, and these can be given values in a second stage
(`Template.inject_inject`).
-/
import PathRouter.Proofs.Template.Links
import PathRouter.Proofs.Text.Keyed

namespace PathRouter

/-- Parts without separators, with one in front of each, are the pieces of the text that they make. -/
theorem Text.split_flatMap_cons {sep : Char} {ps : List Text} (h : ∀ p ∈ ps, sep ∉ p) :
    split sep (ps.flatMap (sep :: ·)) = [] :: ps := by
  suffices hfront : ∀ {p : Text}, sep ∉ p → split sep (p ++ ps.flatMap (sep :: ·)) = p :: ps from
    hfront (p := []) List.not_mem_nil
  induction ps with
  | nil =>
    intro p hp
    rw [List.flatMap_nil, List.append_nil, split_of_not_mem hp]
  | cons q ps ih =>
    intro p hp
    rw [List.forall_mem_cons] at h
    rw [List.flatMap_cons, List.cons_append, split_append_cons, split_of_not_mem hp, ih h.2 h.1]
    rfl

/-! ## Values by name -/

namespace Values

variable {values : Values} {name key : Text}

/-- The values with another value under a name. -/
def set (values : Values) (name : Text) (value : Json) : Values :=
  (name, value) :: values.filter (·.1 != name)

/-- The values that are present, and under all other names those of others. -/
def orElse (values others : Values) : Values :=
  values.filter (fun e => (values.text? e.1).isSome) ++ others

theorem text?_set (values : Values) (value : Json) :
    (values.set name value).text? key = if key = name then value.presentText? else values.text? key := by
  rw [text?, set, lookup_cons_eq_ite]
  split
  · rfl
  · rename_i hkey
    have hrest := @lookup_filter _ key (· != name) values
    rw [if_pos (bne_iff_ne.2 hkey)] at hrest
    rw [hrest, text?]

theorem text?_orElse (values others : Values) :
    (values.orElse others).text? key = (values.text? key).or (others.text? key) := by
  have hlookup : (values.orElse others).lookup key =
      (if (values.text? key).isSome then values.lookup key else none).or (others.lookup key) := by
    rw [orElse, List.lookup_append, lookup_filter fun name => (values.text? name).isSome]
  rw [text?, hlookup]
  cases h : values.text? key with
  | none => rfl
  | some v =>
    obtain ⟨value, hvalue, hv⟩ := Option.bind_eq_some_iff.1 h
    rw [hvalue]
    exact hv

theorem presentText?_string {s : Text} (hs : s ≠ []) : (Json.string s).presentText? = some s := by
  obtain ⟨c, s, rfl⟩ := List.exists_cons_of_ne_nil hs
  rfl

end Values

namespace Template

variable {values others : Values} {key slash piece t : Text}

/-! ## What injection reads -/

theorem keys_eq_split (t : Text) : keys t = (Text.split '/' t).flatMap fun p => (Segment.parse p).keys := by
  rw [keys, segments, List.flatMap_map, pieces]
  split
  · rename_i h
    rw [h]
    rfl
  · rfl

theorem inject_of_split {p : Text} {ps : List Text} (h : Text.split '/' t = p :: ps) (values : Values) :
    inject t values = injectPiece values [] p ++ ps.flatMap (injectPiece values ['/']) := by
  rw [inject, h]

/-- A piece looks up the keys of its segment. -/
theorem injectPiece_congr (h : ∀ key ∈ (Segment.parse piece).keys, values.text? key = others.text? key) :
    injectPiece values slash piece = injectPiece others slash piece := by
  unfold injectPiece
  cases hp : Segment.parse piece with
  | empty | literal => rfl
  | param p =>
    have hname := h p.name (hp ▸ List.mem_singleton_self _)
    simp only [hname]
  | wildcard o =>
    have hname := h wildcardKey (hp ▸ List.mem_singleton_self _)
    simp only [hname]

/-- Values that agree on the keys of a template make the same path. -/
theorem inject_congr (h : ∀ key ∈ keys t, values.text? key = others.text? key) : inject t values = inject t others := by
  obtain ⟨p, ps, hs⟩ := List.exists_cons_of_ne_nil (Text.split_ne_nil '/' t)
  rw [keys_eq_split, hs, List.flatMap_cons, List.forall_mem_append] at h
  have hps : ∀ q ∈ ps, injectPiece values ['/'] q = injectPiece others ['/'] q := fun q hq =>
    injectPiece_congr fun key hkey => h.2 key (List.mem_flatMap.2 ⟨q, hq, hkey⟩)
  rw [inject_of_split hs, inject_of_split hs, injectPiece_congr h.1, List.flatMap_congr hps]

/-! ## Where values stand -/

/-- The text of parts with gaps between them, with the same text in each gap. -/
def fill (parts : List (Option Text)) (s : Text) : Text :=
  parts.flatMap (·.getD s)

theorem length_fill (s : Text) : ∀ parts, (fill parts s).length = (fill parts []).length + parts.count none * s.length
  | [] => by simp [fill]
  | none :: parts => by
    have ih := length_fill s parts
    simp only [fill, List.flatMap_cons, Option.getD_none, List.length_append, List.length_nil,
      List.count_cons_self] at ih ⊢
    rw [ih, Nat.succ_mul]
    omega
  | some w :: parts => by
    have ih := length_fill s parts
    rw [List.count_cons_of_ne (by simp)]
    simp only [fill, List.flatMap_cons, Option.getD_some, List.length_append] at ih ⊢
    omega

/-- The text in the gaps can be told from the whole. -/
theorem fill_injective {parts : List (Option Text)} (h : none ∈ parts) : Function.Injective (fill parts) := by
  intro s s' heq
  -- The text has the same length in both, so that the two can be compared from the left.
  have hlength : s.length = s'.length := by
    have htotal := congrArg List.length heq
    rw [length_fill s, length_fill s'] at htotal
    exact Nat.eq_of_mul_eq_mul_left (List.count_pos_iff.2 h) (Nat.add_left_cancel htotal)
  induction parts with
  | nil => cases h
  | cons part parts ih =>
    rw [fill, fill, List.flatMap_cons, List.flatMap_cons] at heq
    cases part with
    | none => exact (List.append_inj heq hlength).1
    | some w => exact ih ((List.mem_cons.1 h).resolve_left (by simp)) (List.append_cancel_left heq)

end Template

/-- The text that injection puts behind the value of a segment. -/
def Segment.behindValue : Segment → Text
  | .param p => p.suffix.getD []
  | _ => []

namespace Template

variable {values others : Values} {key slash piece t : Text}

/-- A piece with the key makes a slash, the text of the key and the suffix. -/
theorem injectPiece_of_mem {s : Text} (hkey : key ∈ (Segment.parse piece).keys) (hs : values.text? key = some s) :
    injectPiece values slash piece = '/' :: (s ++ (Segment.parse piece).behindValue) := by
  unfold injectPiece
  cases hp : Segment.parse piece with
  | empty | literal =>
    rw [hp] at hkey
    cases hkey
  | param p =>
    rw [hp] at hkey
    obtain rfl := List.mem_singleton.1 hkey
    simp only [hs]
    rfl
  | wildcard o =>
    rw [hp] at hkey
    obtain rfl := List.mem_singleton.1 hkey
    simp only [hs, Option.map_some, Option.getD_some, Segment.behindValue, List.append_nil]

/-- What a piece contributes to the path, with a gap for the text of a key. -/
def gaps (values : Values) (key slash piece : Text) : List (Option Text) :=
  if key ∈ (Segment.parse piece).keys then [some ['/'], none, some (Segment.parse piece).behindValue]
  else [some (injectPiece values slash piece)]

theorem none_mem_gaps : none ∈ gaps values key slash piece ↔ key ∈ (Segment.parse piece).keys := by
  unfold gaps
  split <;> simp_all

/-- Values that differ in one key contribute the same but for its text. -/
theorem injectPiece_eq_fill {s : Text} (hs : others.text? key = some s)
    (hagree : ∀ name, name ≠ key → others.text? name = values.text? name) :
    injectPiece others slash piece = fill (gaps values key slash piece) s := by
  unfold gaps
  split
  · rename_i hkey
    rw [injectPiece_of_mem hkey hs]
    simp [fill]
  · rename_i hkey
    rw [injectPiece_congr fun name hname => hagree name fun h => hkey (h ▸ hname)]
    exact (List.append_nil _).symm

/-- The paths that a template makes of values that differ in one of its keys are the same but for the text of that key,
which stands at one place at least. -/
theorem inject_eq_fill (hkey : key ∈ keys t) (values : Values) : ∃ parts, none ∈ parts ∧ ∀ (others : Values) (s : Text),
    others.text? key = some s → (∀ name, name ≠ key → others.text? name = values.text? name) →
      inject t others = fill parts s := by
  obtain ⟨p, ps, hsplit⟩ := List.exists_cons_of_ne_nil (Text.split_ne_nil '/' t)
  refine ⟨gaps values key [] p ++ ps.flatMap (gaps values key ['/']), ?_, fun others s hs hagree => ?_⟩
  · rw [keys_eq_split, hsplit, List.flatMap_cons] at hkey
    simpa only [List.mem_append, List.mem_flatMap, none_mem_gaps] using hkey
  · have hpieces : ps.flatMap (injectPiece others ['/']) = fill (ps.flatMap (gaps values key ['/'])) s := by
      rw [fill, List.flatMap_assoc]
      exact List.flatMap_congr fun q _ => injectPiece_eq_fill hs hagree
    rw [inject_of_split hsplit, injectPiece_eq_fill hs hagree, hpieces, fill, fill, fill, List.flatMap_append]

/-- Injection reads the keys that the compiler records and nothing else: values that agree on them make the same path,
and different texts for any of them make different paths, whatever the other values are. -/
theorem inject_reads_keys (t : Text) :
    (∀ values others : Values, (∀ key ∈ keys t, values.text? key = others.text? key) →
      inject t values = inject t others) ∧
    ∀ key ∈ keys t, ∀ (values : Values) (s s' : Text), s ≠ [] → s' ≠ [] → s ≠ s' →
      inject t (values.set key (.string s)) ≠ inject t (values.set key (.string s')) := by
  refine ⟨fun values others => inject_congr, fun key hkey values s s' hs hs' hne heq => ?_⟩
  obtain ⟨parts, hgap, hfill⟩ := inject_eq_fill hkey values
  have given : ∀ {u : Text}, u ≠ [] → inject t (values.set key (.string u)) = fill parts u := by
    intro u hu
    refine hfill _ u ?_ fun name hname => ?_
    · rw [Values.text?_set, if_pos rfl, Values.presentText?_string hu]
    · rw [Values.text?_set, if_neg hname]
  rw [given hs, given hs'] at heq
  exact hne (fill_injective hgap heq)

/-- A key that stands three times, with suffixes and without a closing parenthesis, and names that are no keys. -/
theorem inject_reads_keys_repeated :
    inject "a/:x.b/*y/:x(.c/:x?.b".toList [("x".toList, .string "b".toList), ("y".toList, .number (.int 1))] =
      inject "a/:x.b/*y/:x(.c/:x?.b".toList [("*".toList, .null), ("x".toList, .string "b".toList)] ∧
    inject "a/:x.b/*y/:x(.c/:x?.b".toList (Values.set [] "x".toList (.string "b".toList)) ≠
      inject "a/:x.b/*y/:x(.c/:x?.b".toList (Values.set [] "x".toList (.string "b.b".toList)) := by
  have hkeys : keys "a/:x.b/*y/:x(.c/:x?.b".toList = ["x".toList, "wild".toList, "x".toList, "x".toList] := by decide
  obtain ⟨hcongr, hne⟩ := inject_reads_keys "a/:x.b/*y/:x(.c/:x?.b".toList
  refine ⟨hcongr _ _ ?_, hne "x".toList (by rw [hkeys]; decide) [] _ _ (by decide) (by decide) (by decide)⟩
  rw [hkeys]
  simp only [List.forall_mem_cons, List.not_mem_nil, false_imp_iff, implies_true, and_true]
  exact ⟨rfl, rfl, rfl, rfl⟩

end Template

/-! ## Stages -/

/-- Segments without optional parts: injection leaves none of them out. -/
def Segment.Required : Segment → Prop
  | empty | literal _ => True
  | param p => p.optional = false
  | wildcard _ => False

instance : DecidablePred Segment.Required
  | .empty | .literal _ => .isTrue trivial
  | .param p => inferInstanceAs (Decidable (p.optional = false))
  | .wildcard _ => .isFalse id

/-- The text is a literal segment where it stands at the front of a piece. -/
structure Text.Inert (t : Text) : Prop where
  slash : '/' ∉ t
  head : ∀ c ∈ t.head?, c ≠ ':' ∧ c ≠ '*'

theorem Segment.parse_inert {v : Text} (hv : v.Inert) (hne : v ≠ []) (u : Text) :
    parse (v ++ u) = literal (v ++ u) := by
  obtain ⟨c, v, rfl⟩ := List.exists_cons_of_ne_nil hne
  obtain ⟨hcolon, hstar⟩ := hv.head c rfl
  unfold parse
  split
  · rename_i h
    cases h
  · rename_i h
    exact absurd (List.cons.inj h).1 hstar
  · rename_i h
    exact absurd (List.cons.inj h).1 hcolon
  · rfl

theorem Segment.slash_not_mem_behindValue {piece : Text} (h : '/' ∉ piece) : '/' ∉ (parse piece).behindValue := by
  cases hp : parse piece with
  | empty | literal | wildcard => exact List.not_mem_nil
  | param p => exact slash_not_mem_suffix hp h

namespace Template

variable {values : Values} {piece : Text}

/-- A required piece stays as it is if its value is missing. -/
theorem injectPiece_of_missing (hrequired : (Segment.parse piece).Required)
    (hmissing : ∀ key ∈ (Segment.parse piece).keys, values.text? key = none) :
    injectPiece values ['/'] piece = '/' :: piece := by
  unfold injectPiece
  cases hp : Segment.parse piece with
  | empty | literal => rfl
  | param p =>
    rw [hp] at hrequired hmissing
    have hvalue := hmissing p.name (List.mem_singleton_self _)
    have hoptional : p.optional = false := hrequired
    simp only [hvalue, hoptional, Bool.false_eq_true, if_false]
  | wildcard =>
    rw [hp] at hrequired
    exact hrequired.elim

/-- A required piece makes a piece again, and the second stage makes of this one what both stages make at once. -/
theorem exists_stage (hslash : '/' ∉ piece) (hrequired : (Segment.parse piece).Required) (first second : Values)
    (hfirst : ∀ key ∈ (Segment.parse piece).keys, ∀ v, first.text? key = some v → v.Inert) :
    ∃ q, '/' ∉ q ∧ injectPiece first ['/'] piece = '/' :: q ∧
      injectPiece second ['/'] q = injectPiece (first.orElse second) ['/'] piece := by
  by_cases hgiven : ∃ key ∈ (Segment.parse piece).keys, ∃ v, first.text? key = some v
  · obtain ⟨key, hkey, v, hv⟩ := hgiven
    have hinert := hfirst key hkey v hv
    have hboth : (first.orElse second).text? key = some v := by rw [Values.text?_orElse, hv, Option.some_or]
    -- The value with the suffix behind it is a literal segment, which the second stage leaves as it is.
    have hliteral := Segment.parse_inert hinert (Values.text?_ne_nil hv) (Segment.parse piece).behindValue
    refine ⟨v ++ (Segment.parse piece).behindValue, fun h => ?_, injectPiece_of_mem hkey hv, ?_⟩
    · exact (List.mem_append.1 h).elim hinert.slash (Segment.slash_not_mem_behindValue hslash)
    · rw [injectPiece_of_mem hkey hboth, injectPiece, hliteral]
      rfl
  · have hmissing : ∀ key ∈ (Segment.parse piece).keys, first.text? key = none := fun key hkey =>
      Option.eq_none_iff_forall_ne_some.2 fun v hv => hgiven ⟨key, hkey, v, hv⟩
    refine ⟨piece, hslash, injectPiece_of_missing hrequired hmissing, injectPiece_congr fun key hkey => ?_⟩
    rw [Values.text?_orElse, hmissing key hkey, Option.none_or]

theorem exists_stages (first second : Values) : ∀ {ps : List Text}, (∀ p ∈ ps, '/' ∉ p) →
    (∀ p ∈ ps, (Segment.parse p).Required) →
    (∀ p ∈ ps, ∀ key ∈ (Segment.parse p).keys, ∀ v, first.text? key = some v → v.Inert) →
    ∃ qs : List Text, (∀ q ∈ qs, '/' ∉ q) ∧ ps.flatMap (injectPiece first ['/']) = qs.flatMap ('/' :: ·) ∧
      qs.flatMap (injectPiece second ['/']) = ps.flatMap (injectPiece (first.orElse second) ['/'])
  | [], _, _, _ => ⟨[], nofun, rfl, rfl⟩
  | p :: ps, hslash, hrequired, hfirst => by
    rw [List.forall_mem_cons] at hslash hrequired hfirst
    obtain ⟨q, hq, hone, htwo⟩ := exists_stage hslash.1 hrequired.1 first second hfirst.1
    obtain ⟨qs, hqs, hones, htwos⟩ := exists_stages first second hslash.2 hrequired.2 hfirst.2
    refine ⟨q :: qs, List.forall_mem_cons.2 ⟨hq, hqs⟩, ?_, ?_⟩
    · rw [List.flatMap_cons, List.flatMap_cons, hone, hones]
    · rw [List.flatMap_cons, List.flatMap_cons, htwo, htwos]

/-- Parts behind slashes are made a path one by one. -/
theorem inject_flatMap_cons {qs : List Text} (h : ∀ q ∈ qs, '/' ∉ q) (values : Values) :
    inject (qs.flatMap ('/' :: ·)) values = qs.flatMap (injectPiece values ['/']) := by
  rw [inject_of_split (Text.split_flatMap_cons h)]
  rfl

/-- A template without optional parts and wildcards can be given its values in two stages: what the first stage makes
is a template again, in which the second stage finds the placeholders that got no value. Without values, the template
stays as it is. -/
theorem inject_inject {T : Text} (hT : T.head? = some '/') (hrequired : ∀ s ∈ segments T, s.Required)
    (first second : Values) (hfirst : ∀ key ∈ keys T, ∀ v, first.text? key = some v → v.Inert) :
    inject (inject T first) second = inject T (first.orElse second) ∧ inject T [] = T := by
  obtain ⟨t, rfl⟩ : ∃ t, T = '/' :: t := ⟨T.tail, (List.cons_head?_tail hT).symm⟩
  have hpieces : ∀ p ∈ pieces ('/' :: t), (Segment.parse p).Required := fun p hp => hrequired _ (List.mem_map_of_mem hp)
  have hkeys : ∀ p ∈ pieces ('/' :: t), ∀ key ∈ (Segment.parse p).keys, key ∈ keys ('/' :: t) := fun p hp key hkey =>
    List.mem_flatMap.2 ⟨_, List.mem_map_of_mem hp, hkey⟩
  constructor
  · obtain ⟨qs, hqs, hone, htwo⟩ := exists_stages first second (fun p hp => slash_not_mem_piece hp) hpieces
      fun p hp key hkey => hfirst key (hkeys p hp key hkey)
    rw [inject_cons_slash, inject_cons_slash, hone, inject_flatMap_cons hqs, htwo]
  · rw [inject_cons_slash, List.flatMap_congr fun p hp => injectPiece_of_missing (hpieces p hp) fun _ _ =>
      rfl, flatMap_pieces]

/-- A value with a suffix behind it, beside an empty segment, and a value that counts as missing in the first stage. -/
theorem inject_inject_missing :
    inject (inject "/a//:x(\\d+).json/:y/:z".toList [("x".toList, .number (.int 7)), ("y".toList, .bool false)])
        [("x".toList, .string "no".toList), ("y".toList, .string ":z".toList)] = "/a//7.json/:z/:z".toList ∧
      inject "/a//:x(\\d+).json/:y/:z".toList [] = "/a//:x(\\d+).json/:y/:z".toList := by
  have hkeys : keys "/a//:x(\\d+).json/:y/:z".toList = ["x".toList, "y".toList, "z".toList] := by decide
  obtain ⟨htwo, hnone⟩ := inject_inject (T := "/a//:x(\\d+).json/:y/:z".toList) rfl (by decide)
    [("x".toList, .number (.int 7)), ("y".toList, .bool false)]
    [("x".toList, .string "no".toList), ("y".toList, .string ":z".toList)] (by
      rw [hkeys]
      simp only [List.forall_mem_cons, List.not_mem_nil, false_imp_iff, implies_true, and_true]
      refine ⟨fun v hv => ?_, fun v hv => ?_, fun v hv => ?_⟩
      · obtain rfl : v = "7".toList := (Option.some.inj hv).symm
        exact ⟨by decide, fun c hc => by cases hc; decide⟩
      · cases hv
      · cases hv)
  exact ⟨htwo.trans rfl, hnone⟩

end Template

end PathRouter
