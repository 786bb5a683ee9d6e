/-
Parameters that captured nothing. They are not recorded, so a single value and a tuple find too few parameters, and
reject them as the handler's fault. A record takes what there is (`Shape.readRecord_cases`): a field without a
parameter has its default or is absent, and the first field that must have one is reported as missing.
-/
import PathRouter.Proofs.Extraction.Agreement
import PathRouter.Proofs.Extraction.Recorded
import PathRouter.Proofs.Template.Fits

namespace PathRouter

/-! ## Fields without a parameter -/

namespace Field

/-- Whether the field must have a parameter: it has no default and may not be absent. -/
def required (f : Field) : Bool :=
  match f.default, f.shape with
  | some _, _ | none, .optional _ => false
  | none, _ => true

/-- Whether the field must have a parameter and has none. -/
def missing (params : Decoded) (f : Field) : Bool :=
  f.required && (params.lookup f.name).isNone

/-- The field takes a value from the parameters: that of the parameter with its name, its default, or none. -/
inductive Takes (params : Decoded) (f : Field) : Reading → Prop
  | read {t : Text} {r : Reading} : params.lookup f.name = some t → f.Reads t r → Takes params f r
  | default {r : Reading} : params.lookup f.name = none → f.default = some r → Takes params f r
  | absent {s : Shape} : params.lookup f.name = none → f.default = none → f.shape = .optional s → Takes params f .absent

end Field

namespace Shape

/-- Behind the filled fields, the field is completed with a value that it takes from the parameters, unless it is
missing. -/
def Completes (params : Decoded) (filled : List (Text × Reading)) (f : Field) : Prop :=
  (f.missing params = false ∧ ∃ r, f.Takes params r ∧ finishField filled f = .ok (f.name, r)) ∨
    f.missing params = true ∧ finishField filled f = .error (.mismatch (.missingField f.name))

variable {fields : List Field} {params : Decoded} {filled : List (Text × Reading)}

/-- A field is completed where it was filled with what it reads, or has no parameter. -/
theorem Completes.of_lookup {f : Field}
    (h : (params.lookup f.name = none ∧ filled.lookup f.name = none) ∨
      ∃ t r, params.lookup f.name = some t ∧ filled.lookup f.name = some r ∧ f.Reads t r) :
    Completes params filled f := by
  rcases h with ⟨hparams, hfilled⟩ | ⟨t, r, hparams, hfilled, hr⟩
  · have hmissing : f.missing params = f.required := by rw [Field.missing, hparams, Option.isNone_none, Bool.and_true]
    rw [Completes, hmissing]
    obtain ⟨name, shape, default⟩ := f
    cases default with
    | some r => exact .inl ⟨rfl, r, .default hparams rfl, by rw [finishField, hfilled]⟩
    | none =>
      cases shape with
      | optional s => exact .inl ⟨rfl, .absent, .absent hparams rfl rfl, by rw [finishField, hfilled]⟩
      | _ => exact .inr ⟨rfl, by rw [finishField, hfilled]⟩
  · refine .inl ⟨?_, r, .read hparams hr, ?_⟩
    · rw [Field.missing, hparams]
      exact Bool.and_false _
    · rw [finishField, hfilled]

/-- The fields of a record are completed one after another, up to the first that is missing. -/
theorem mapM_finishField_cases : ∀ {fields : List Field}, (∀ f ∈ fields, Completes params filled f) →
    (∀ f, fields.find? (Field.missing params) = some f →
      fields.mapM (finishField filled) = .error (.mismatch (.missingField f.name))) ∧
    (fields.find? (Field.missing params) = none → ∃ values, List.Forall₂ (Field.Takes params) fields values ∧
      fields.mapM (finishField filled) = .ok ((fields.map (·.name)).zip values))
  | [], _ => ⟨fun _ h => (by cases h), fun _ => ⟨[], .nil, rfl⟩⟩
  | f :: fields, h => by
    obtain ⟨herror, hok⟩ := mapM_finishField_cases fun g hg => h g (List.mem_cons_of_mem f hg)
    rw [List.mapM_cons]
    rcases h f List.mem_cons_self with ⟨hmissing, r, hr, hfinish⟩ | ⟨hmissing, hfinish⟩
    · rw [List.find?_cons_of_neg (by rw [hmissing]; exact Bool.false_ne_true), hfinish]
      refine ⟨fun g hg => ?_, fun hnone => ?_⟩
      · rw [herror g hg]
        rfl
      · obtain ⟨values, hvalues, hmapM⟩ := hok hnone
        rw [hmapM]
        exact ⟨r :: values, .cons hr hvalues, rfl⟩
    · rw [List.find?_cons_of_pos hmissing, hfinish]
      refine ⟨fun g hg => ?_, fun hnone => (by cases hnone)⟩
      cases hg
      rfl

/-- Parameters whose names are fields, with these fields. -/
theorem exists_items : ∀ {params : Decoded}, (∀ d ∈ params, ∃ f ∈ fields, f.name = d.1) →
    ∃ items : List (Field × Text), Field.params items = params ∧ ∀ x ∈ items, x.1 ∈ fields
  | [], _ => ⟨[], rfl, List.forall_mem_nil _⟩
  | (key, t) :: params, h => by
    obtain ⟨f, hf, hname⟩ := h _ List.mem_cons_self
    obtain ⟨items, rfl, hitems⟩ := exists_items fun d hd => h d (List.mem_cons_of_mem _ hd)
    exact ⟨(f, t) :: items, List.cons_eq_cons.2 ⟨Prod.ext hname rfl, rfl⟩, List.forall_mem_cons.2 ⟨hf, hitems⟩⟩

/-- A record reads parameters that are fields, each in its shape, unless a field is missing. -/
theorem readRecord_cases {others : Others} (hfields : (fields.map (·.name)).Nodup)
    (hparams : ∀ d ∈ params, ∃ f ∈ fields, f.name = d.1) (hnodup : (params.map (·.1)).Nodup)
    (hothers : ∀ field, others ≠ .gather field)
    (hreads : ∀ f ∈ fields, ∀ t, params.lookup f.name = some t → ∃ r, f.Reads t r) :
    (∀ f, fields.find? (Field.missing params) = some f →
      readRecord fields others params = .error (.mismatch (.missingField f.name))) ∧
    (fields.find? (Field.missing params) = none → ∃ values, List.Forall₂ (Field.Takes params) fields values ∧
      readRecord fields others params = .ok ((fields.map (·.name)).zip values)) := by
  obtain ⟨items, rfl, hitems⟩ := exists_items hparams
  have hnames := hnodup
  rw [Field.names_params] at hnames
  have hlookup : ∀ x ∈ items, (Field.params items).lookup x.1.name = some x.2 := fun x hx =>
    lookup_eq_some_of_mem hnodup (List.mem_map_of_mem hx)
  obtain ⟨rs, hrs⟩ : ∃ rs, List.Forall₂ (fun x r => Field.Reads x.1 x.2 r) items rs := by
    rcases Field.reads_or_fails items with h | ⟨before, f, t, after, e, hsplit, -, hf⟩
    · exact h
    · have hx : (f, t) ∈ items := hsplit ▸ List.mem_append_right before List.mem_cons_self
      obtain ⟨r, hr⟩ := hreads f (hitems _ hx) t (hlookup _ hx)
      cases hr.symm.trans hf
  rw [readRecord_eq hothers hfields hitems hnames, Field.readEach_of_reads hrs]
  refine mapM_finishField_cases fun f hf => .of_lookup ?_
  by_cases hname : f.name ∈ items.map (·.1.name)
  · -- The field has a parameter, and there is no other field of that name.
    obtain ⟨x, hx, hxf⟩ := List.mem_map.1 hname
    obtain rfl : x.1 = f := List.inj_on_of_nodup_map hfields (hitems x hx) hf hxf
    obtain ⟨r, -, hr, hfilled⟩ := exists_mem_zip (forall₂_lookup hrs hnames) hx
    exact .inr ⟨x.2, r, hlookup x hx, hfilled, hr⟩
  · refine .inl ⟨lookup_eq_none_of_not_mem ?_, lookup_eq_none_of_not_mem ?_⟩
    · rwa [Field.names_params]
    · rwa [List.map_fst_zip (by rw [List.length_map]; exact Nat.le_of_eq hrs.length_eq)]

/-- A field without a parameter and without a default is absent, if it is not missing. -/
theorem absent_mem {values : List Reading} (h : List.Forall₂ (Field.Takes params) fields values) {f : Field}
    (hf : f ∈ fields)
    (habsent : params.lookup f.name = none) (hdefault : f.default = none) :
    (f.name, .absent) ∈ (fields.map (·.name)).zip values := by
  obtain ⟨r, hmem, hr⟩ := exists_mem_zip h hf
  rw [List.zip_map_left]
  cases hr with
  | read hsome => rw [habsent] at hsome; cases hsome
  | default _ hsome => rw [hdefault] at hsome; cases hsome
  | absent => exact List.mem_map.2 ⟨_, hmem, rfl⟩

end Shape

/-! ## What a route did not capture -/

/-- A key that captured nothing is no name of a decoded parameter. -/
theorem Params.not_mem_decoded {p : Params} {decoded : Decoded} (hnames : decoded.map (·.1) = p.entries.map (·.1))
    {key : Text}
    (habsent : p.get? key = none) : key ∉ decoded.map (·.1) := by
  rw [hnames, ← lookup_isSome_iff]
  exact Option.not_isSome_iff_eq_none.2 habsent

/-- Where a key is no name of a parameter, there are fewer parameters than keys. -/
theorem Decoded.length_lt {decoded : Decoded} {keys : List Text} (hsub : (decoded.map (·.1)).Sublist keys) {key : Text}
    (hkey : key ∈ keys) (habsent : key ∉ decoded.map (·.1)) : decoded.length < keys.length := by
  have hle := hsub.length_le
  rw [List.length_map] at hle
  refine Nat.lt_of_le_of_ne hle fun hlength => ?_
  have hall : decoded.map (·.1) = keys := hsub.eq_of_length (by rw [List.length_map, hlength])
  exact habsent (hall ▸ hkey)

namespace Shape

/-- A single value needs exactly one parameter. -/
theorem Spelled.readAll_nil {s : Shape} (hs : s.Spelled) (hsome : ∀ s', s ≠ .optional s') :
    s.readAll [] = .error (.count 0 1) := by
  cases hs with
  | scalar | text | variants => rfl
  | optional => exact absurd rfl (hsome _)

theorem readTuple_of_length_ne {items : List Shape} (h : params.length ≠ items.length) :
    readTuple items params = .error (.count params.length items.length) := by
  rw [readTuple, if_neg h]

/-- Extraction where a key captured nothing. A single value and a tuple of as many items as keys are rejected: the
count of the parameters is wrong, which is the handler's fault. A record with a field for each key whose parameters can
be read is rejected for the first field that must have a parameter and has none, which counts as the client's fault;
without such a field it is read, and a field without a parameter and without a default is absent. -/
theorem extract_absent {T : Text} {mode : Template.Mode} {r : Route} (hr : Route.compile T mode = .ok r)
    (hkeys : (Template.keys T).Nodup) {path : Text} {p : Params} (hp : r.exec path = some p) {decoded : Decoded}
    (hdecoded : p.decode = .ok decoded) {key : Text} (hkey : key ∈ Template.keys T) (habsent : p.get? key = none) :
    (∀ s : Shape, s.Spelled → (∀ s', s ≠ .optional s') → Template.keys T = [key] →
      s.extract (some p.decode) = .error (.parameters (.count 0 1)) ∧
      (Rejection.parameters (.count 0 1)).status = 500) ∧
    (∀ typeName items, items.length = (Template.keys T).length →
      (tuple typeName items).extract (some p.decode) = .error (.parameters (.count decoded.length items.length)) ∧
      (numbered typeName items).extract (some p.decode) = .error (.parameters (.count decoded.length items.length)) ∧
      (Rejection.parameters (.count decoded.length items.length)).status = 500) ∧
    ∀ typeName (fields : List Field) others, (fields.map (·.name)).Perm (Template.keys T) →
    (∀ field, others ≠ .gather field) →
      (∀ f ∈ fields, ∀ t, decoded.lookup f.name = some t → ∃ v, f.Reads t v) →
      ((∃ f ∈ fields, f.name = key ∧ f.required = true) → ∃ g, fields.find? (Field.missing decoded) = some g ∧
        (record typeName fields others).extract (some p.decode) =
          .error (.parameters (.mismatch (.missingField g.name))) ∧
        (Rejection.parameters (.mismatch (.missingField g.name))).status = 400) ∧
      (fields.find? (Field.missing decoded) = none → ∃ values, List.Forall₂ (Field.Takes decoded) fields values ∧
        (record typeName fields others).extract (some p.decode) = .ok (.record ((fields.map (·.name)).zip values)) ∧
        ∀ f ∈ fields, f.name = key → f.default = none → (key, .absent) ∈ (fields.map (·.name)).zip values) := by
  obtain ⟨hsub, hvalues⟩ := Route.exec_named (Template.keys_of_compile hr) hp
  obtain ⟨hnames, -⟩ := Params.decode_ok hvalues hdecoded
  rw [← hnames] at hsub
  have hnot := Params.not_mem_decoded hnames habsent
  have hlength := Decoded.length_lt hsub hkey hnot
  have hlookup := lookup_eq_none_of_not_mem hnot
  rw [hdecoded]
  refine ⟨fun s hs hsome hone => ?_, fun typeName items hitems => ?_,
    fun typeName fields others hperm hothers hreads => ?_⟩
  · rw [hone, List.length_singleton, Nat.lt_one_iff, List.length_eq_zero_iff] at hlength
    rw [hlength, extract, hs.readAll_nil hsome]
    exact ⟨rfl, rfl⟩
  · have htuple : readTuple items decoded = .error (.count decoded.length items.length) :=
      readTuple_of_length_ne (by omega)
    refine ⟨?_, ?_, rfl⟩
    · rw [extract, readAll, htuple]
      rfl
    · rw [extract, readAll, htuple]
      rfl
  · have hfields : (fields.map (·.name)).Nodup := hperm.nodup_iff.2 hkeys
    have hparams : ∀ d ∈ decoded, ∃ f ∈ fields, f.name = d.1 := fun d hd =>
      List.mem_map.1 (hperm.mem_iff.2 (hsub.subset (List.mem_map_of_mem hd)))
    obtain ⟨herror, hok⟩ := readRecord_cases hfields hparams (hkeys.sublist hsub) hothers hreads
    constructor
    · rintro ⟨f, hf, rfl, hrequired⟩
      have hmissing : f.missing decoded = true := by
        rw [Field.missing, hrequired, hlookup]
        rfl
      obtain ⟨g, hg⟩ := Option.isSome_iff_exists.1 (List.find?_isSome.2 ⟨f, hf, hmissing⟩)
      refine ⟨g, hg, ?_, rfl⟩
      rw [extract, readAll, herror g hg]
      rfl
    · intro hnone
      obtain ⟨values, htakes, hread⟩ := hok hnone
      refine ⟨values, htakes, ?_, ?_⟩
      · rw [extract, readAll, hread]
        rfl
      · rintro f hf rfl hdefault
        exact absent_mem htakes hf hlookup hdefault

/-- The second parameter captured nothing: a pair is rejected, and a record with an optional field is not. -/
theorem extract_absent_optional :
    ∃ r p fields, Route.compile "/:x/:y?".toList .strict = .ok r ∧ r.exec "/1".toList = some p ∧
    (tuple "T".toList [.scalar (.int true 32), .optional (.scalar (.int true 32))]).extract (some p.decode) =
      .error (.parameters (.count 1 2)) ∧
    (record "R".toList [⟨"y".toList, .optional (.scalar (.int true 32)), none⟩,
      ⟨"x".toList, .scalar (.int true 32), none⟩]
      .skip).extract (some p.decode) = .ok (.record fields) ∧ ("y".toList, .absent) ∈ fields := by
  obtain ⟨r, p, hr, hp, hdecoded, habsent⟩ : ∃ r p, Route.compile "/:x/:y?".toList .strict = .ok r ∧
      r.exec "/1".toList = some p ∧ p.decode = .ok [("x".toList, "1".toList)] ∧ p.get? "y".toList = none :=
    ⟨_, _, rfl, rfl, rfl, rfl⟩
  have hkeys : Template.keys "/:x/:y?".toList = ["x".toList, "y".toList] := by decide
  obtain ⟨-, htuple, hrecord⟩ := extract_absent hr (by rw [hkeys]; decide) hp hdecoded (by rw [hkeys]; decide) habsent
  obtain ⟨hpair, -⟩ := htuple "T".toList [.scalar (.int true 32), .optional (.scalar (.int true 32))]
    (by rw [hkeys]; rfl)
  have hreads : ∀ f ∈ ([⟨"y".toList, .optional (.scalar (.int true 32)), none⟩,
      ⟨"x".toList, .scalar (.int true 32), none⟩] :
      List Field), ∀ t, List.lookup f.name [("x".toList, "1".toList)] = some t → ∃ v, f.Reads t v := by
    simp only [List.forall_mem_cons, List.not_mem_nil, false_imp_iff, implies_true, and_true]
    refine ⟨fun t ht => (by cases ht), fun t ht => ?_⟩
    cases ht
    exact ⟨.int 1, rfl⟩
  obtain ⟨-, hok⟩ := hrecord "R".toList _ .skip (by rw [hkeys]; decide) (fun _ h => by cases h) hreads
  obtain ⟨values, -, hread, hmem⟩ := hok rfl
  exact ⟨r, p, _, hr, hp, hpair, hread, hmem _ List.mem_cons_self rfl rfl⟩

/-- The second parameter captured nothing: a record of two numbers is rejected as the client's fault, and the count of
the parameters is not what is reported. -/
theorem extract_absent_point : ∃ r p, Route.compile "/:x/:y?".toList .strict = .ok r ∧
    (Template.keys "/:x/:y?".toList).Nodup ∧ r.exec "/1".toList = some p ∧ p.get? "y".toList = none ∧
    p.decode = .ok [("x".toList, "1".toList)] ∧
    Field.Reads ⟨"x".toList, .scalar (.int true 32), none⟩ "1".toList (.int 1) ∧
    ∃ e, (record "Point".toList [⟨"x".toList, .scalar (.int true 32), none⟩, ⟨"y".toList, .scalar (.int true 32), none⟩]
      .skip).extract (some p.decode) = .error e ∧ e = .parameters (.mismatch (.missingField "y".toList)) ∧
        e.status = 400 :=
  ⟨_, _, rfl, by decide, rfl, rfl, rfl, rfl, _, rfl, rfl, rfl⟩

end Shape

end PathRouter
