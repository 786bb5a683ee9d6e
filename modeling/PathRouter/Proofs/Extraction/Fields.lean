/-
How parameters fill the items of a tuple and the fields of a record. Each value is read in the shape of its field, one
after another up to the first that cannot be read (`Field.readEach`). It does not matter how the origin of a value is
given, by name or by place, but for the error that names it (`Shape.readValue_origin`).
-/
import PathRouter.Extraction.Read
import PathRouter.Proofs.Text.Keyed
import Mathlib.Data.List.Forall2

namespace PathRouter

/-! ## Where an error says that a value came from -/

/-- The error with another origin of the value, if it is about a value. -/
def ExtractionError.at (origin : Origin) : ExtractionError → ExtractionError
  | value _ text expected => value origin text expected
  | e => e

namespace Shape

/-- What a value is read as does not depend on its origin, and an error depends on it only in that it names it. -/
theorem readValue_origin (o o' : Origin) (t : Text) : ∀ s : Shape,
    s.readValue ⟨o', t⟩ = (s.readValue ⟨o, t⟩).mapError (·.at o')
  | scalar s => by
    rw [readValue, readValue]
    cases s.read? t <;> rfl
  | optional s => by
    rw [readValue, readValue, readValue_origin o o' t s]
    cases s.readValue ⟨o, t⟩ <;> rfl
  | wrapped s => by
    rw [readValue, readValue, readValue_origin o o' t s]
    cases s.readValue ⟨o, t⟩ <;> rfl
  | variants all => by
    rw [readValue, readValue, Variant.choose]
    split
    · rfl
    · split <;> rfl
  | raw ask => by cases ask <;> rfl
  | text | unsupportedNumber _ | unit | mark _ | list _ _ | tuple _ _ | numbered _ _ | map _ _ _ | pairs _
  | record _ _ _
  | either _ _ | json | sizedList _ | sizedMap _ | valueFirst _ => rfl

end Shape

/-! ## Reading one value after another -/

namespace Field

/-- The field reads a text as a value. -/
def Reads (f : Field) (text : Text) (r : Reading) : Prop :=
  f.shape.readValue ⟨.key f.name, text⟩ = .ok r

theorem Reads.readValue {f : Field} {text : Text} {r : Reading} (h : f.Reads text r) (origin : Origin) :
    f.shape.readValue ⟨origin, text⟩ = .ok r := by
  rw [Shape.readValue_origin (.key f.name), h]
  rfl

/-- Reads a text for each field, one after another. -/
def readEach (origin : Nat → Text → Origin) : Nat → List (Field × Text) → Except ExtractionError (List Reading)
  | _, [] => .ok []
  | i, (f, text) :: items => do
    let r ← f.shape.readValue ⟨origin i f.name, text⟩
    return r :: (← readEach origin (i + 1) items)

variable {origin : Nat → Text → Origin} {items : List (Field × Text)}

theorem readEach_of_reads {rs : List Reading} (h : List.Forall₂ (fun x r => Reads x.1 x.2 r) items rs) :
    ∀ i, readEach origin i items = .ok rs := by
  induction h with
  | nil => exact fun _ => rfl
  | cons hx _ ih =>
    intro i
    rw [readEach, hx.readValue, ih (i + 1)]
    rfl

/-- The first text that cannot be read ends the reading. -/
theorem readEach_of_fails {before after : List (Field × Text)} {f : Field} {text : Text} {e : ExtractionError}
    (hbefore : ∀ x ∈ before, ∃ r, Reads x.1 x.2 r) (hf : f.shape.readValue ⟨.key f.name, text⟩ = .error e) :
    ∀ i, readEach origin i (before ++ (f, text) :: after) = .error (e.at (origin (i + before.length) f.name)) := by
  induction before with
  | nil =>
    intro i
    rw [List.nil_append, readEach, Shape.readValue_origin (.key f.name), hf]
    rfl
  | cons x before ih =>
    intro i
    obtain ⟨r, hx⟩ := hbefore x List.mem_cons_self
    have hplace : i + 1 + before.length = i + (x :: before).length := by
      rw [List.length_cons]
      omega
    rw [List.cons_append, readEach, hx.readValue, ih fun y hy => hbefore y (List.mem_cons_of_mem x hy), hplace]
    rfl

/-- Either all texts can be read, or there is a first one that cannot. -/
theorem reads_or_fails : ∀ items : List (Field × Text), (∃ rs, List.Forall₂ (fun x r => Reads x.1 x.2 r) items rs) ∨
    ∃ before f text after e, items = before ++ (f, text) :: after ∧ (∀ x ∈ before, ∃ r, Reads x.1 x.2 r) ∧
      f.shape.readValue ⟨.key f.name, text⟩ = .error e
  | [] => .inl ⟨[], .nil⟩
  | x :: items => by
    cases hx : x.1.shape.readValue ⟨.key x.1.name, x.2⟩ with
    | error e => exact .inr ⟨[], x.1, x.2, items, e, rfl, List.forall_mem_nil _, hx⟩
    | ok r =>
      rcases reads_or_fails items with ⟨rs, hrs⟩ | ⟨before, f, text, after, e, rfl, hbefore, hf⟩
      · exact .inl ⟨r :: rs, .cons hx hrs⟩
      · exact .inr ⟨x :: before, f, text, after, e, rfl, List.forall_mem_cons.2 ⟨⟨r, hx⟩, hbefore⟩, hf⟩

/-- The parameters that the texts are the values of. -/
def params (items : List (Field × Text)) : Decoded :=
  items.map fun x => (x.1.name, x.2)

theorem names_params (items : List (Field × Text)) : (params items).map (·.1) = items.map (·.1.name) :=
  List.map_map ..

end Field

/-! ## Tuples -/

namespace Shape

theorem readItems_eq {params : Decoded} {count : Nat} : ∀ (items : List (Field × Text)) (i : Nat),
    params.drop i = Field.params items →
    readItems count (items.map (·.1.shape)) ⟨params, i⟩ = Field.readEach (fun i _ => .index i) i items
  | [], _, _ => rfl
  | (f, t) :: items, i, h => by
    have hi : params[i]? = some (f.name, t) := by
      rw [← List.head?_drop, h]
      rfl
    have hdrop : params.drop (i + 1) = Field.params items := by
      rw [← List.tail_drop, h]
      rfl
    have hnext : Elements.next ⟨params, i⟩ = (some ⟨.index i, t⟩, ⟨params, i + 1⟩) := by
      rw [Elements.next, hi]
    rw [List.map_cons, readItems, hnext, Field.readEach]
    simp only
    rw [readItems_eq items (i + 1) hdrop]

/-- A tuple with an item for each parameter reads one after another. -/
theorem readTuple_eq (items : List (Field × Text)) :
    readTuple (items.map (·.1.shape)) (Field.params items) = Field.readEach (fun i _ => .index i) 0 items := by
  rw [readTuple, if_pos (by rw [Field.params, List.length_map, List.length_map])]
  exact readItems_eq items 0 rfl

end Shape

/-! ## Records -/

/-- A member of a list has a partner in a related one. -/
theorem exists_mem_zip {α β : Type} {R : α → β → Prop} {l : List α} {l' : List β} (h : List.Forall₂ R l l') {a : α}
    (ha : a ∈ l) :
    ∃ b, (a, b) ∈ l.zip l' ∧ R a b := by
  obtain ⟨hlength, hzip⟩ := List.forall₂_iff_zip.1 h
  have hmem : a ∈ (l.zip l').map Prod.fst := by rwa [List.map_fst_zip (Nat.le_of_eq hlength)]
  obtain ⟨⟨a, b⟩, hab, rfl⟩ := List.mem_map.1 hmem
  exact ⟨b, hab, hzip hab⟩

/-- Taking all entries hands each key over with its value. -/
theorem Entries.foldAll_start {σ : Type} {read : σ → Text → Except ExtractionError Value → Except ExtractionError σ} :
    ∀ (params : Decoded) (s : σ), foldAll read params.length s (.start params) =
      params.foldlM (fun s p => read s p.1 (.ok ⟨.key p.1, p.2⟩)) s
  | [], _ => rfl
  | (key, text) :: params, s => by
    rw [List.length_cons, foldAll, List.foldlM_cons]
    exact congrArg (read s key (.ok ⟨.key key, text⟩) >>= ·) (funext fun s' => foldAll_start params s')

namespace Shape

variable {fields : List Field} {others : Others}

/-- Fields with different names are found by their names. -/
theorem find?_field (hnodup : (fields.map (·.name)).Nodup) {f : Field} (hf : f ∈ fields) :
    fields.find? (·.name == f.name) = some f := by
  cases hfind : fields.find? (·.name == f.name) with
  | none => exact absurd (List.find?_eq_none.1 hfind f hf) (by simp)
  | some g =>
    have hname : g.name = f.name := by simpa using List.find?_some hfind
    rw [List.inj_on_of_nodup_map hnodup (List.mem_of_find?_eq_some hfind) hf hname]

/-- A parameter with the name of a field that is not filled yet fills it. -/
theorem fill_eq (hfields : (fields.map (·.name)).Nodup) {f : Field} (hf : f ∈ fields)
    {filled gathered : List (Text × Reading)}
    (hnew : f.name ∉ filled.map (·.1)) (t : Text) :
    fill fields others ⟨filled, gathered⟩ f.name (.ok ⟨.key f.name, t⟩) =
      (f.shape.readValue ⟨.key f.name, t⟩).map fun r => ⟨filled ++ [(f.name, r)], gathered⟩ := by
  simp only [fill, find?_field hfields hf, lookup_eq_none_of_not_mem hnew]
  show (f.shape.readValue ⟨.key f.name, t⟩ >>= fun r => pure (Filled.mk (filled ++ [(f.name, r)]) gathered)) = _
  cases f.shape.readValue ⟨.key f.name, t⟩ <;> rfl

/-- Parameters with different names fill the fields of these names one after another. -/
theorem foldlM_fill (hfields : (fields.map (·.name)).Nodup) (gathered : List (Text × Reading)) :
    ∀ (items : List (Field × Text)) (i : Nat) (filled : List (Text × Reading)), (∀ x ∈ items, x.1 ∈ fields) →
      (filled.map (·.1) ++ items.map (·.1.name)).Nodup →
      (Field.params items).foldlM (fun f p => fill fields others f p.1 (.ok ⟨.key p.1, p.2⟩)) ⟨filled, gathered⟩ =
        (Field.readEach (fun _ key => .key key) i items).map fun rs =>
          ⟨filled ++ (items.map (·.1.name)).zip rs, gathered⟩
  | [], i, filled, _, _ => by
    exact congrArg (fun l => Except.ok (Filled.mk l gathered)) (List.append_nil filled).symm
  | (f, t) :: items, i, filled, hsub, hnodup => by
    -- The names of the fields filled so far and of the parameters left stay apart: this one moves over.
    rw [List.map_cons] at hnodup
    have hnew : f.name ∉ filled.map (·.1) := fun h =>
      (List.nodup_append.1 hnodup).2.2 _ h _ List.mem_cons_self rfl
    rw [Field.params, List.map_cons, List.foldlM_cons, fill_eq hfields (hsub _ List.mem_cons_self) hnew, Field.readEach]
    cases hr : f.shape.readValue ⟨.key f.name, t⟩ with
    | error e => rfl
    | ok r =>
      have hlater : ((filled ++ [(f.name, r)]).map (·.1) ++ items.map (·.1.name)).Nodup := by
        rwa [List.map_append, List.append_assoc]
      have ih := foldlM_fill hfields gathered items (i + 1) (filled ++ [(f.name, r)])
        (fun x hx => hsub x (List.mem_cons_of_mem _ hx)) hlater
      refine ih.trans ?_
      cases Field.readEach (fun _ key => .key key) (i + 1) items with
      | error e => rfl
      | ok rs => exact congrArg (fun l => Except.ok (Filled.mk l gathered)) (List.append_assoc filled [(f.name, r)] _)

/-- A record reads parameters with different names that are all fields one after another, and then completes its
fields. -/
theorem readRecord_eq (hothers : ∀ field, others ≠ .gather field) (hfields : (fields.map (·.name)).Nodup)
    {items : List (Field × Text)} (hsub : ∀ x ∈ items, x.1 ∈ fields) (hitems : (items.map (·.1.name)).Nodup) :
    readRecord fields others (Field.params items) = Field.readEach (fun _ key => .key key) 0 items >>= fun rs =>
      fields.mapM (finishField ((items.map (·.1.name)).zip rs)) := by
  have hgathered : gatheredField others [] = [] := by
    cases others with
    | skip | refuse => rfl
    | gather field => exact absurd rfl (hothers field)
  rw [readRecord, Entries.foldAll_start, foldlM_fill hfields [] items 0 [] hsub hitems]
  cases Field.readEach (fun _ key => .key key) 0 items with
  | error e => rfl
  | ok rs =>
    show (fields.mapM (finishField ((items.map (·.1.name)).zip rs)) >>= fun l => pure (l ++ gatheredField others [])) =
      fields.mapM (finishField ((items.map (·.1.name)).zip rs))
    simp only [hgathered, List.append_nil, bind_pure]

/-- What fills fields with different names is found by their names. -/
theorem forall₂_lookup {R : Field × Text → Reading → Prop} {items : List (Field × Text)} {rs : List Reading}
    (h : List.Forall₂ R items rs) (hnodup : (items.map (·.1.name)).Nodup) :
    List.Forall₂ (fun x r => R x r ∧ ((items.map (·.1.name)).zip rs).lookup x.1.name = some r) items rs := by
  obtain ⟨hlength, hzip⟩ := List.forall₂_iff_zip.1 h
  refine List.forall₂_iff_zip.2 ⟨hlength, fun {x r} hx => ⟨hzip hx, lookup_eq_some_of_mem ?_ ?_⟩⟩
  · rwa [List.map_fst_zip (by rw [List.length_map]; exact Nat.le_of_eq hlength)]
  · rw [List.zip_map_left]
    exact List.mem_map_of_mem hx

/-- Where all fields are filled, there is nothing to complete. -/
theorem mapM_finishField {filled : List (Text × Reading)} {items : List (Field × Text)} {rs : List Reading}
    (h : List.Forall₂ (fun x r => filled.lookup x.1.name = some r) items rs) :
    (items.map (·.1)).mapM (finishField filled) = .ok ((items.map (·.1.name)).zip rs) := by
  induction h with
  | nil => rfl
  | @cons x r items rs hx _ ih =>
    have hfinish : finishField filled x.1 = .ok (x.1.name, r) := by
      rw [finishField, hx]
    rw [List.map_cons, List.mapM_cons, hfinish, ih]
    rfl

end Shape

end PathRouter
