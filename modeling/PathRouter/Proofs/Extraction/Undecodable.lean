/-
Values that are no text after percent-decoding. They are found when a request is dispatched: decoding takes the
parameters in the order of the template and stops at the first such value (`Params.decode_eq_error_iff`). Whatever type
is asked for, the request is then rejected with the key of this value, and nothing is handed to the type. No type
reports an undecodable value by itself (`Shape.decided_readAll`), so the rejection tells that there is one.
-/
import PathRouter.Extraction.Target
import PathRouter.Proofs.Extraction.Recorded
import PathRouter.Proofs.Router.Dispatch
import PathRouter.Proofs.Template.Fits

namespace PathRouter

/-! ## The first value that is no text -/

/-- The bytes that a percent-encoded value stands for are those of a text. -/
def Percent.IsText (v : Text) : Prop :=
  ∃ t, decodeBytes (Utf8.encode v) = Utf8.encode t

theorem Percent.isText_iff {v : Text} : IsText v ↔ ∃ t, decode v = .ok t :=
  exists_congr fun _ => Utf8.decode_eq_ok_iff.symm

theorem Decoded.entry_eq_error_iff {key key' value : Text} :
    entry key value = .error key' ↔ key' = key ∧ ¬ Percent.IsText value := by
  rw [Percent.isText_iff, entry]
  cases Percent.decode value with
  | ok t => exact ⟨nofun, fun h => absurd ⟨t, rfl⟩ h.2⟩
  | error e => exact ⟨fun h => (by cases h; exact ⟨rfl, nofun⟩), fun h => by rw [h.1]⟩

theorem Decoded.exists_entry_iff {key value : Text} : (∃ d, entry key value = .ok d) ↔ Percent.IsText value := by
  rw [Percent.isText_iff]
  constructor
  · rintro ⟨d, hd⟩
    exact ⟨d.2, (Params.entry_eq_ok hd).2⟩
  · rintro ⟨t, ht⟩
    exact ⟨(key, t), by rw [entry, ht]⟩

namespace Params

/-- The key is that of the first value, in the order of the template, that is no text after decoding. -/
def FirstUndecodable (p : Params) (key : Text) : Prop :=
  ∃ before value behind, p.entries = before ++ (key, value) :: behind ∧ (∀ e ∈ before, Percent.IsText e.2) ∧
    ¬ Percent.IsText value

/-- Decoding fails with the key of the first value that is no text. -/
theorem decode_eq_error_iff {p : Params} {key : Text} : p.decode = .error key ↔ p.FirstUndecodable key := by
  rw [decode, mapM_eq_error_iff]
  constructor
  · rintro ⟨before, e, behind, hentries, hbefore, he⟩
    obtain ⟨rfl, hvalue⟩ := Decoded.entry_eq_error_iff.1 he
    exact ⟨before, e.2, behind, hentries, fun e' he' => Decoded.exists_entry_iff.1 (hbefore e' he'), hvalue⟩
  · rintro ⟨before, value, behind, hentries, hbefore, hvalue⟩
    exact ⟨before, (key, value), behind, hentries, fun e' he' => Decoded.exists_entry_iff.2 (hbefore e' he'),
      Decoded.entry_eq_error_iff.2 ⟨rfl, hvalue⟩⟩

/-- Values that are decoded are texts, and their decodings have the bytes that they stand for. -/
theorem texts_of_decode {p : Params} {decoded : Decoded} (h : p.decode = .ok decoded) :
    (∀ e ∈ p.entries, Percent.IsText e.2) ∧
    List.Forall₂ (fun e d => d.1 = e.1 ∧ Percent.decodeBytes (Utf8.encode e.2) = Utf8.encode d.2)
      p.entries decoded := by
  refine (List.forall₂_and_left _ _).1 ((forall₂_decode h).imp fun e d hd => ?_)
  have hbytes := Utf8.decode_eq_ok_iff.1 hd.2
  exact ⟨⟨d.2, hbytes⟩, hd.1, hbytes⟩

/-- Some value is no text if and only if some value is the first such. -/
theorem exists_firstUndecodable_iff {p : Params} :
    (∃ key, p.FirstUndecodable key) ↔ ∃ e ∈ p.entries, ¬ Percent.IsText e.2 := by
  constructor
  · rintro ⟨key, before, value, behind, hentries, -, hvalue⟩
    exact ⟨(key, value), hentries ▸ List.mem_append_right before List.mem_cons_self, hvalue⟩
  · rintro ⟨e, he, hvalue⟩
    cases hdecode : p.decode with
    | error key => exact ⟨key, decode_eq_error_iff.1 hdecode⟩
    | ok decoded => exact absurd ((texts_of_decode hdecode).1 e he) hvalue

end Params

/-! ## Reading decoded values -/

namespace ExtractionError.Decided

variable {α β : Type} {x : Except ExtractionError α}

theorem ok (a : α) : Decided (.ok a) := nofun

theorem bind {f : α → Except ExtractionError β} (hx : Decided x) (hf : ∀ a, Decided (f a)) : Decided (x >>= f) := by
  cases x with
  | ok a => exact hf a
  | error e =>
    rintro key ⟨⟩
    exact hx key rfl

theorem map (hx : Decided x) (f : α → β) : Decided (x.map f) :=
  hx.bind fun a => ok (f a)

theorem mapM {f : α → Except ExtractionError β} (hf : ∀ a, Decided (f a)) (l : List α) : Decided (l.mapM f) := by
  induction l with
  | nil => exact ok []
  | cons a l ih =>
    rw [List.mapM_cons]
    exact (hf a).bind fun b => ih.bind fun bs => ok (b :: bs)

end ExtractionError.Decided

open ExtractionError (Decided)

theorem Variant.decided_choose (all : List Variant) (name : Text) : Decided (choose all name) := by
  unfold choose
  split
  · nofun
  · split <;> nofun

theorem KeyShape.decided_read (key : Text) (k : KeyShape) : Decided (k.read key) := by
  unfold read
  split
  · nofun
  · split <;> nofun
  · nofun
  · nofun
  · exact (Variant.decided_choose _ _).bind fun _ => .ok _

theorem Elements.decided_readAll {α : Type} {read : Value → Except ExtractionError α} (hread : ∀ v, Decided (read v)) :
    ∀ (n : Nat) (e : Elements), Decided (readAll read n e)
  | 0, _ => .ok []
  | n + 1, e => by
    rw [readAll]
    split
    · exact .ok []
    · exact (hread _).bind fun a => (decided_readAll hread n _).bind fun as => .ok (a :: as)

namespace Entries

theorem decided_nextValue (e : Entries) : Decided e.nextValue.1 := by
  unfold nextValue
  split <;> nofun

theorem decided_foldAll {σ : Type} {read : σ → Text → Except ExtractionError Value → Except ExtractionError σ}
    (hread : ∀ s key value, Decided value → Decided (read s key value)) :
    ∀ (n : Nat) (s : σ) (e : Entries), Decided (foldAll read n s e)
  | 0, s, _ => .ok s
  | n + 1, s, e => by
    rw [foldAll]
    split
    · exact .ok s
    · exact (hread _ _ _ (decided_nextValue _)).bind fun s' => decided_foldAll hread n s' _

end Entries

namespace Shape

theorem decided_readValue : ∀ (s : Shape) (v : Value), Decided (s.readValue v)
  | scalar s, v => by
    rw [readValue]
    split <;> nofun
  | optional s, v | wrapped s, v => (decided_readValue s v).map _
  | variants all, v => (Variant.decided_choose all v.text).bind fun _ => .ok _
  | raw ask, v => by cases ask <;> nofun
  | text, _ | unsupportedNumber _, _ | unit, _ | mark _, _ | either _ _, _ | json, _ | list _ _, _ | tuple _ _, _
  | numbered _ _, _ | map _ _ _, _ | pairs _, _ | record _ _ _, _ | sizedList _, _ | sizedMap _, _ | valueFirst _, _ =>
    nofun

theorem decided_readSingle (s : Shape) (params : Decoded) : Decided (s.readSingle params) := by
  unfold readSingle
  split
  · exact s.decided_readValue _
  · nofun

theorem decided_readItems (count : Nat) : ∀ (shapes : List Shape) (e : Elements), Decided (readItems count shapes e)
  | [], _ => .ok []
  | s :: shapes, e => by
    rw [readItems]
    split
    · nofun
    · exact (s.decided_readValue _).bind fun r => (decided_readItems count shapes _).bind fun rs => .ok (r :: rs)

theorem decided_readTuple (shapes : List Shape) (params : Decoded) : Decided (readTuple shapes params) := by
  unfold readTuple
  split
  · exact decided_readItems _ _ _
  · nofun

theorem decided_readMap (key : KeyShape) (value : Shape) (params : Decoded) : Decided (readMap key value params) := by
  refine (Entries.decided_foldAll (fun entries k v hv => ?_) _ _ _).bind fun entries => .ok _
  exact (key.decided_read k).bind fun _ => hv.bind fun v => (value.decided_readValue v).bind fun _ => .ok _

theorem decided_fill (fields : List Field) (others : Others) (f : Filled) (key : Text)
    {value : Except ExtractionError Value}
    (hvalue : Decided value) : Decided (fill fields others f key value) := by
  unfold fill
  split
  · split
    · nofun
    · exact hvalue.bind fun v => (decided_readValue _ v).bind fun _ => .ok _
  · split
    · nofun
    · exact hvalue.map _
    · exact hvalue.map _

theorem decided_finishField (filled : List (Text × Reading)) (field : Field) : Decided (finishField filled field) := by
  unfold finishField
  split <;> nofun

theorem decided_readRecord (fields : List Field) (others : Others) (params : Decoded) :
    Decided (readRecord fields others params) :=
  (Entries.decided_foldAll (fun f key _ hv => decided_fill fields others f key hv) _ _ _).bind fun f =>
    (Decided.mapM (decided_finishField f.fields) fields).bind fun _ => .ok _

theorem decided_readEither (name : Text) (params : Decoded) :
    ∀ alternatives, Decided (readEither name params alternatives)
  | [] => nofun
  | fields :: alternatives => by
    rw [readEither]
    split
    · exact .ok _
    · exact decided_readEither name params alternatives

theorem decided_sizesOfEntries : ∀ (n : Nat) (e : Entries), Decided (sizesOfEntries n e)
  | 0, _ => .ok []
  | n + 1, e => by
    rw [sizesOfEntries]
    split
    · exact .ok []
    · exact (Entries.decided_nextValue _).bind fun v => (decided_sizesOfEntries n _).bind fun _ => .ok _

/-- No shape reports that a value cannot be decoded, whatever else it reports. -/
theorem decided_readAll (params : Decoded) : ∀ s : Shape, Decided (s.readAll params)
  | optional s => by
    rw [readAll]
    split
    · exact .ok _
    · exact (decided_readAll params s).map _
  | wrapped s => (decided_readAll params s).map _
  | list _ item => (Elements.decided_readAll item.decided_readValue _ _).map _
  | tuple _ items | numbered _ items => (decided_readTuple items params).map _
  | map _ key value => (decided_readMap key value params).map _
  | record _ fields others => (decided_readRecord fields others params).map _
  | either name alternatives => (decided_readEither name params alternatives).map _
  | sizedMap _ => (decided_sizesOfEntries _ _).map _
  | valueFirst _ => (Entries.decided_nextValue _).map _
  | raw ask => by
    cases ask with
    | any => nofun
    | _ => exact decided_readSingle _ params
  | unit | mark _ | unsupportedNumber _ | pairs _ | json | sizedList _ => nofun
  | scalar _ | text | variants _ => decided_readSingle _ params

/-- A shape is a type that reads itself. -/
def target (s : Shape) : Target Reading where
  read params := s.readAll params
  decided params := decided_readAll params s

theorem extract_eq (s : Shape) (recorded : Option Recorded) : s.extract recorded = s.target.extract recorded := by
  rcases recorded with _ | key | params
  · rfl
  · rfl
  · rw [extract]
    change _ = (s.readAll params).mapError Rejection.parameters
    cases s.readAll params <;> rfl

end Shape

/-! ## Extraction of what was recorded -/

/-- A type is rejected for an undecodable value if and only if decoding failed with the key of it. -/
theorem Target.extract_eq_undecodable_iff {α : Type} (T : Target α) {recorded : Recorded} {key : Text} :
    T.extract (some recorded) = .error (.parameters (.undecodable key)) ↔ recorded = .error key := by
  cases recorded with
  | error key' => exact ⟨fun h => (by cases h; rfl), fun h => (by cases h; rfl)⟩
  | ok params =>
    refine ⟨fun h => ?_, nofun⟩
    change (T.read params).mapError Rejection.parameters = _ at h
    cases hread : T.read params with
    | ok a =>
      rw [hread] at h
      cases h
    | error e =>
      rw [hread] at h
      cases h
      exact absurd hread (T.decided params key)

/-- Extraction where a request was dispatched to an endpoint, whose table gets it with what was recorded. Any type is
rejected for an undecodable value if and only if a captured value is no text, with the key of the first such value in
the order of the template. This is a fault of the client, and the type is not asked to read anything. If all values are
texts, the type reads the decoded values, under the keys and in the order of those that were captured. -/
theorem Router.Reachable.extract_dispatched {σ : Type} {r : Router σ} (hr : r.Reachable) {request : Request}
    {e : Endpoint σ}
    {p : Params} (h : r.dispatch? request.uri.path = some (e, p)) (s : σ) :
    (r.withState s).serve request =
      (e.table.serve s (request.dispatchedBy e p)).after [.matched request.uri.path e.template] ∧
    (p.entries.map (·.1)).Sublist (Template.keys e.template) ∧
    ((∃ key, p.FirstUndecodable key) ↔ ∃ entry ∈ p.entries, ¬ Percent.IsText entry.2) ∧
    (∀ key, (∀ (α : Type) (T : Target α),
        T.extract (request.dispatchedBy e p).recorded = .error (.parameters (.undecodable key)) ↔
        p.FirstUndecodable key) ∧
      ∀ shape : Shape,
        shape.extract (request.dispatchedBy e p).recorded = .error (.parameters (.undecodable key)) ↔
        p.FirstUndecodable key) ∧
    (∀ key, p.FirstUndecodable key → (Rejection.parameters (.undecodable key)).status = 400 ∧
      (∀ (m : Type → Type) [Monad m] (α : Type) (read : Decoded → m (Except ExtractionError α)),
        Recorded.extractBy read (request.dispatchedBy e p).recorded = pure (.error (.parameters (.undecodable key)))) ∧
      ∀ (shape : Shape) (respond : Reading → Service), Service.withData shape respond (request.dispatchedBy e p) =
        ⟨(Rejection.parameters (.undecodable key)).response,
          [.rejected (Rejection.parameters (.undecodable key)).message]⟩) ∧
    ((∀ entry ∈ p.entries, Percent.IsText entry.2) → ∃ decoded : Decoded,
      List.Forall₂ (fun entry d => d.1 = entry.1 ∧ Percent.decodeBytes (Utf8.encode entry.2) = Utf8.encode d.2)
        p.entries decoded ∧
      (∀ (m : Type → Type) [Monad m] (α : Type) (read : Decoded → m (Except ExtractionError α)),
        Recorded.extractBy read (request.dispatchedBy e p).recorded =
          do return (← read decoded).mapError Rejection.parameters) ∧
      ∀ shape : Shape,
        shape.extract (request.dispatchedBy e p).recorded = (shape.readAll decoded).mapError Rejection.parameters) := by
  have hrecorded : (request.dispatchedBy e p).recorded = some p.decode := rfl
  have hundecodable : ∀ {α : Type} (T : Target α) key,
      T.extract (some p.decode) = .error (.parameters (.undecodable key)) ↔ p.FirstUndecodable key := fun T key =>
    T.extract_eq_undecodable_iff.trans Params.decode_eq_error_iff
  -- The route of the endpoint is the one of its template, so it captures under the keys of the template.
  have hroute := hr.wellFormed.compiled _ (List.mem_map_of_mem (Router.mem_of_dispatch? h))
  obtain ⟨-, -, -, hexec, -⟩ := Router.dispatch?_eq_some_iff.1 h
  rw [hrecorded]
  refine ⟨Router.serve_withState h s, (Route.exec_named (Template.keys_of_compile hroute) hexec).1,
    Params.exists_firstUndecodable_iff, fun key => ⟨fun α T => hundecodable T key, fun shape => ?_⟩, fun key hkey => ?_,
    fun htexts => ?_⟩
  · rw [shape.extract_eq]
    exact hundecodable shape.target key
  · have hdecode := Params.decode_eq_error_iff.2 hkey
    refine ⟨rfl, fun m _ α read => by rw [hdecode]; rfl, fun shape respond => ?_⟩
    unfold Service.withData
    rw [hrecorded, hdecode]
    rfl
  · cases hdecode : p.decode with
    | error key =>
      obtain ⟨entry, hentry, hvalue⟩ := Params.exists_firstUndecodable_iff.1 ⟨key, Params.decode_eq_error_iff.1 hdecode⟩
      exact absurd (htexts entry hentry) hvalue
    | ok decoded =>
      refine ⟨decoded, (Params.texts_of_decode hdecode).2, fun m _ α read => rfl, fun shape => ?_⟩
      rw [shape.extract_eq]
      rfl

/-- The second of two values is a byte that no text has: a pair of numbers is rejected with its key before the first
value is found to be no number, and so is the shape that needs no value at all. -/
theorem Router.Reachable.extract_dispatched_page :
    ∃ (r : Router Unit) (request : Request) (e : Endpoint Unit) (p : Params),
    r.Reachable ∧ request.uri.path = "/en/%FF".toList ∧ r.dispatch? request.uri.path = some (e, p) ∧
    (Shape.tuple "T".toList [.scalar (.int true 32), .scalar (.int true 32)]).extract
      (request.dispatchedBy e p).recorded =
      .error (.parameters (.undecodable "page".toList)) ∧
    Shape.unit.extract (request.dispatchedBy e p).recorded = .error (.parameters (.undecodable "page".toList)) ∧
    (Rejection.parameters (.undecodable "page".toList)).status = 400 := by
  obtain ⟨r, e, p, hr, h, hentries⟩ : ∃ (r : Router Unit) (e : Endpoint Unit) (p : Params), r.Reachable ∧
      r.dispatch? "/en/%FF".toList = some (e, p) ∧
      p.entries = [("lang".toList, "en".toList)] ++ ("page".toList, "%FF".toList) :: [] := by
    exact ⟨_, _, _, @BuiltBy.step _ _ _ _
      (.route "/:lang/:page".toList (.any fun _ => .constant notFound)) .empty trivial
      (List.forall_mem_nil _) rfl, rfl, rfl⟩
  have hfirst : p.FirstUndecodable "page".toList := by
    refine ⟨_, _, _, hentries, List.forall_mem_singleton.2 ⟨"en".toList, rfl⟩, fun hpage => ?_⟩
    obtain ⟨t, ht⟩ := Percent.isText_iff.1 hpage
    cases ht
  obtain ⟨request, hpath⟩ : ∃ request : Request, request.uri.path = "/en/%FF".toList :=
    ⟨.new (.verb .get) ⟨none, none, _, none⟩, rfl⟩
  rw [← hpath] at h
  obtain ⟨-, -, -, hreject, hstatus, -⟩ := extract_dispatched hr h ()
  obtain ⟨-, hshape⟩ := hreject "page".toList
  exact ⟨r, request, e, p, hr, hpath, h, (hshape _).2 hfirst, (hshape _).2 hfirst, (hstatus _ hfirst).1⟩

end PathRouter
