/-
Extraction by place and by name. A tuple takes the parameters in their order, and a record finds the field of each by
its name. Both read one text after another (`extract_tuple`, `extract_record`). So they read the same values, or fail
at the same parameter for the same reason; the tuple says which one it is by its place, the record by its name.
-/
import PathRouter.Proofs.Extraction.Fields

namespace PathRouter.Shape

/-- A shape that a text spells, or that may be absent. -/
inductive Spelled : Shape → Prop
  | scalar (s : Scalar) : Spelled (.scalar s)
  | text : Spelled .text
  | variants (all : List Variant) : Spelled (.variants all)
  | optional {s : Shape} : Spelled s → Spelled (.optional s)

/-- A text that does not spell the shape is either named with its origin and the type expected, or is no choice. -/
theorem Spelled.error {s : Shape} (hs : s.Spelled) {o : Origin} {t : Text} {e : ExtractionError}
    (h : s.readValue ⟨o, t⟩ = .error e) : (∃ expected, e = .value o t expected) ∨ ∃ cause, e = .mismatch cause := by
  induction hs with
  | scalar s =>
    rw [readValue] at h
    split at h
    · cases h
    · cases h
      exact .inl ⟨_, rfl⟩
  | text => cases h
  | variants all =>
    rw [readValue, Variant.choose] at h
    split at h
    · cases h
      exact .inr ⟨_, rfl⟩
    · split at h
      · cases h
      · cases h
        exact .inr ⟨_, rfl⟩
  | @optional s _ ih =>
    rw [readValue] at h
    cases hs : s.readValue ⟨o, t⟩ with
    | ok r =>
      rw [hs] at h
      cases h
    | error e' =>
      rw [hs] at h
      cases h
      exact ih hs

/-- Parameters are those of their fields and their texts. -/
theorem params_zip : ∀ {fields : List Field} {params : Decoded}, fields.map (·.name) = params.map (·.1) →
    Field.params (fields.zip (params.map (·.2))) = params
  | [], [], _ => rfl
  | f :: fields, (key, t) :: params, h => by
    obtain ⟨hname, h⟩ := List.cons.inj h
    exact List.cons_eq_cons.2 ⟨Prod.ext hname rfl, params_zip h⟩

variable {items : List (Field × Text)} {others : Others}

theorem extract_tuple (typeName : Text) :
    (tuple typeName (items.map (·.1.shape))).extract (some (.ok (Field.params items))) =
    ((Field.readEach (fun i _ => .index i) 0 items).map Reading.list).mapError Rejection.parameters := by
  rw [extract, readAll, readTuple_eq]
  cases Field.readEach (fun i _ => .index i) 0 items <;> rfl

/-- A record reads the parameters one after another if they are its fields, in the same order. -/
theorem readRecord_items (hnodup : (items.map (·.1.name)).Nodup) (hothers : ∀ field, others ≠ .gather field) :
    readRecord (items.map (·.1)) others (Field.params items) =
      (Field.readEach (fun _ key => .key key) 0 items).map ((items.map (·.1.name)).zip ·) := by
  have hfields : ((items.map (·.1)).map (·.name)).Nodup := by rwa [List.map_map]
  rw [readRecord_eq hothers hfields (fun x hx => List.mem_map_of_mem hx) hnodup]
  rcases Field.reads_or_fails items with ⟨rs, hrs⟩ | ⟨before, f, t, after, e, hitems, hbefore, hf⟩
  · rw [Field.readEach_of_reads hrs]
    exact mapM_finishField ((forall₂_lookup hrs hnodup).imp fun _ _ => And.right)
  · rw [hitems, Field.readEach_of_fails hbefore hf]
    rfl

theorem extract_record (hnodup : (items.map (·.1.name)).Nodup) (hothers : ∀ field, others ≠ .gather field)
    (typeName : Text) :
    (record typeName (items.map (·.1)) others).extract (some (.ok (Field.params items))) =
      ((Field.readEach (fun _ key => .key key) 0 items).map fun rs =>
        Reading.record ((items.map (·.1.name)).zip rs)).mapError Rejection.parameters := by
  rw [extract, readAll, readRecord_items hnodup hothers]
  cases Field.readEach (fun _ key => .key key) 0 items <;> rfl

/-- A tuple and a record with the same shapes agree on parameters with different names, the fields of the record.
Either both read each parameter in its shape, or both fail at the first that cannot be read: they name the same text
and expected type, the tuple with the place and the record with the name, or the same other cause. -/
theorem extract_place_name {fields : List Field} {params : Decoded} (hnames : fields.map (·.name) = params.map (·.1))
    (hnodup : (params.map (·.1)).Nodup) (hspelled : ∀ f ∈ fields, f.shape.Spelled)
    (hothers : ∀ field, others ≠ .gather field)
    (tupleName recordName : Text) :
    (∃ values, List.Forall₂ (fun x r => Field.Reads x.1 x.2 r) (fields.zip (params.map (·.2))) values ∧
      (tuple tupleName (fields.map (·.shape))).extract (some (.ok params)) = .ok (.list values) ∧
      (record recordName fields others).extract (some (.ok params)) = .ok (.record ((params.map (·.1)).zip values))) ∨
    ∃ before f text after, fields.zip (params.map (·.2)) = before ++ (f, text) :: after ∧
      (∀ x ∈ before, ∃ r, Field.Reads x.1 x.2 r) ∧
      ((∃ expected, f.shape.readValue ⟨.key f.name, text⟩ = .error (.value (.key f.name) text expected) ∧
        (tuple tupleName (fields.map (·.shape))).extract (some (.ok params)) =
          .error (.parameters (.value (.index before.length) text expected)) ∧
        (record recordName fields others).extract (some (.ok params)) =
          .error (.parameters (.value (.key f.name) text expected))) ∨
      ∃ cause, f.shape.readValue ⟨.key f.name, text⟩ = .error (.mismatch cause) ∧
        (tuple tupleName (fields.map (·.shape))).extract (some (.ok params)) = .error (.parameters (.mismatch cause)) ∧
        (record recordName fields others).extract (some (.ok params)) = .error (.parameters (.mismatch cause))) := by
  have hlength : fields.length ≤ (params.map (·.2)).length := by
    have := congrArg List.length hnames
    simp only [List.length_map] at this ⊢
    omega
  have hparams := params_zip hnames
  have hfields := List.map_fst_zip hlength
  generalize fields.zip (params.map (·.2)) = items at hparams hfields ⊢
  subst hfields hparams
  rw [Field.names_params] at hnodup
  rw [List.map_map, extract_record hnodup hothers, Field.names_params]
  have htuple : (tuple tupleName (items.map (·.1.shape))).extract (some (.ok (Field.params items))) = _ :=
    extract_tuple tupleName
  rcases Field.reads_or_fails items with ⟨rs, hrs⟩ | ⟨before, f, t, after, e, hitems, hbefore, hf⟩
  · refine .inl ⟨rs, hrs, ?_, ?_⟩
    · refine htuple.trans ?_
      rw [Field.readEach_of_reads hrs]
      rfl
    · rw [Field.readEach_of_reads hrs]
      rfl
  · refine .inr ⟨before, f, t, after, hitems, hbefore, ?_⟩
    have hspelled : f.shape.Spelled :=
      hspelled f (List.mem_map_of_mem (hitems ▸ List.mem_append_right before List.mem_cons_self))
    have hplace : Field.readEach (fun i _ => .index i) 0 items = .error (e.at (.index (0 + before.length))) :=
      hitems ▸ Field.readEach_of_fails hbefore hf 0
    have hname : Field.readEach (fun _ key => .key key) 0 items = .error (e.at (.key f.name)) :=
      hitems ▸ Field.readEach_of_fails hbefore hf 0
    rw [Nat.zero_add] at hplace
    rw [hplace] at htuple
    rw [hname]
    rcases hspelled.error hf with ⟨expected, rfl⟩ | ⟨cause, rfl⟩
    · exact .inl ⟨expected, hf, htuple, rfl⟩
    · exact .inr ⟨cause, hf, htuple, rfl⟩

/-- The second of three values is no truth value. -/
theorem extract_place_name_flag :
    (tuple "T".toList [.scalar (.int true 8), .optional (.scalar .bool), .text]).extract
      (some (.ok [("x".toList, "-7".toList), ("flag".toList, "maybe".toList), ("rest".toList, "a b".toList)])) =
      .error (.parameters (.value (.index 1) "maybe".toList "bool".toList)) ∧
    (record "R".toList [⟨"x".toList, .scalar (.int true 8), none⟩, ⟨"flag".toList, .optional (.scalar .bool), none⟩,
        ⟨"rest".toList, .text, some (.text [])⟩] .refuse).extract
      (some (.ok [("x".toList, "-7".toList), ("flag".toList, "maybe".toList), ("rest".toList, "a b".toList)])) =
      .error (.parameters (.value (.key "flag".toList) "maybe".toList "bool".toList)) := by
  have htuple : (tuple "T".toList [.scalar (.int true 8), .optional (.scalar .bool), .text]).extract
      (some (.ok [("x".toList, "-7".toList), ("flag".toList, "maybe".toList), ("rest".toList, "a b".toList)])) =
      .error (.parameters (.value (.index 1) "maybe".toList "bool".toList)) := rfl
  refine ⟨htuple, ?_⟩
  have hspelled : ∀ f ∈ ([⟨"x".toList, .scalar (.int true 8), none⟩, ⟨"flag".toList, .optional (.scalar .bool), none⟩,
      ⟨"rest".toList, .text, some (.text [])⟩] : List Field), f.shape.Spelled := by
    simp only [List.forall_mem_cons, List.not_mem_nil, false_imp_iff, implies_true, and_true]
    exact ⟨.scalar _, .optional (.scalar _), .text⟩
  have hnames : ([⟨"x".toList, .scalar (.int true 8), none⟩, ⟨"flag".toList, .optional (.scalar .bool), none⟩,
      ⟨"rest".toList, .text, some (.text [])⟩] : List Field).map (·.name) =
      [("x".toList, "-7".toList), ("flag".toList, "maybe".toList), ("rest".toList, "a b".toList)].map (·.1) := rfl
  have hothers : ∀ field, Others.refuse ≠ .gather field := fun _ h => by cases h
  rcases extract_place_name hnames (by decide) hspelled hothers "T".toList "R".toList with
    ⟨values, -, h, -⟩ | ⟨before, f, text, after, hitems, -, ⟨expected, -, h, hrecord⟩ | ⟨cause, -, h, -⟩⟩
  · cases htuple.symm.trans h
  · -- The place that the tuple names is that of the field that the record names.
    have hf := congrArg (·[before.length]?) hitems
    simp only [List.getElem?_append_right (Nat.le_refl _), Nat.sub_self] at hf
    have herror := htuple.symm.trans h
    simp only [Except.error.injEq, Rejection.parameters.injEq, ExtractionError.value.injEq,
      Origin.index.injEq] at herror
    obtain ⟨hplace, rfl, rfl⟩ := herror
    rw [← hplace] at hf
    cases hf
    exact hrecord
  · cases htuple.symm.trans h

end PathRouter.Shape
