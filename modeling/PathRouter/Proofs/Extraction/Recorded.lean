/-
What is recorded of the parameters that a route captures. Their names are keys of the route, in the same order, and no
value is empty (`Route.exec_named`). Decoding keeps the names, and it makes no value empty: every character has bytes,
and bytes that are decoded leave bytes (`Percent.decode_ne_nil`).
-/
import PathRouter.Route
import PathRouter.Extraction.Decoded
import PathRouter.Proofs.Regex.Escapes
import PathRouter.Proofs.Utf8

namespace PathRouter

/-! ## Decoded texts -/

theorem Utf8.encode_ne_nil {t : Text} (ht : t ≠ []) : encode t ≠ [] := by
  have hle := length_le_encode t
  have hpos := List.length_pos_of_ne_nil ht
  exact List.ne_nil_of_length_pos (by omega)

/-- Bytes are read as at least one character, if they are read at all. -/
theorem Utf8.decode_ne_nil {bytes : List Nat} (hbytes : bytes ≠ []) {t : Text} (h : decode bytes = .ok t) : t ≠ [] := by
  rintro rfl
  exact hbytes (decode_eq_ok_iff.1 h)

namespace Percent

theorem decodeBytes_ne_nil {bs : List Nat} (h : bs ≠ []) : decodeBytes bs ≠ [] := by
  fun_cases decodeBytes bs
  · exact absurd rfl h
  · exact List.cons_ne_nil _ _
  · exact List.cons_ne_nil _ _
  · exact List.cons_ne_nil _ _

/-- A text that is not empty is not empty after decoding. -/
theorem decode_ne_nil {v t : Text} (hv : v ≠ []) (h : decode v = .ok t) : t ≠ [] :=
  Utf8.decode_ne_nil (decodeBytes_ne_nil (Utf8.encode_ne_nil hv)) h

end Percent

/-! ## Captured parameters -/

/-- A traversal fails where all elements before succeed and one fails. -/
theorem mapM_eq_error_iff {ε α β : Type} {f : α → Except ε β} {l : List α} {e : ε} : l.mapM f = .error e ↔
    ∃ before x behind, l = before ++ x :: behind ∧ (∀ y ∈ before, ∃ b, f y = .ok b) ∧ f x = .error e := by
  induction l with
  | nil =>
    exact ⟨nofun, fun ⟨_, _, _, h, _⟩ => absurd h.symm (List.append_ne_nil_of_right_ne_nil _ (List.cons_ne_nil _ _))⟩
  | cons a l ih =>
    rw [List.mapM_cons]
    constructor
    · intro h
      cases ha : f a with
      | error e' =>
        rw [ha] at h
        cases h
        exact ⟨[], a, l, rfl, List.forall_mem_nil _, ha⟩
      | ok b =>
        rw [ha] at h
        cases hl : l.mapM f with
        | error e' =>
          rw [hl] at h
          cases h
          obtain ⟨before, x, behind, rfl, hbefore, hx⟩ := ih.1 hl
          exact ⟨a :: before, x, behind, rfl, List.forall_mem_cons.2 ⟨⟨b, ha⟩, hbefore⟩, hx⟩
        | ok bs =>
          rw [hl] at h
          cases h
    · rintro ⟨_ | ⟨a', before⟩, x, behind, h, hbefore, hx⟩
      · cases h
        rw [hx]
        rfl
      · cases h
        obtain ⟨⟨b, hb⟩, hbefore⟩ := List.forall_mem_cons.1 hbefore
        rw [hb, Regex.bind_ok, ih.2 ⟨before, x, behind, rfl, hbefore, hx⟩]
        rfl

namespace Params

theorem entry?_eq_some {key : Text} {value : Option Text} {e : Text × Text} (h : entry? key value = some e) :
    e.1 = key ∧ e.2 ≠ [] := by
  unfold entry? at h
  split at h
  · cases h
    exact ⟨rfl, List.cons_ne_nil _ _⟩
  · cases h

/-- The names of captured parameters are keys, in the same order. -/
theorem keys_ofKeys (keys : List Text) (c : Captures) : ((ofKeys keys c).entries.map (·.1)).Sublist keys := by
  have hzip : ∀ groups : List (Option Text),
      (((keys.zip groups).filterMap fun x => entry? x.1 x.2).map (·.1)).Sublist keys := by
    induction keys with
    | nil => exact fun groups => List.nil_sublist _
    | cons key keys ih =>
      rintro (_ | ⟨value, groups⟩)
      · exact List.nil_sublist _
      · rw [List.zip_cons_cons, List.filterMap_cons]
        split
        · exact (ih groups).cons key
        · rename_i e he
          rw [List.map_cons, (entry?_eq_some he).1]
          exact (ih groups).cons_cons key
  exact hzip c.groups

theorem ne_nil_of_mem_ofKeys {keys : List Text} {c : Captures} : ∀ e ∈ (ofKeys keys c).entries, e.2 ≠ [] := by
  intro e he
  obtain ⟨x, -, hx⟩ := List.mem_filterMap.1 he
  exact (entry?_eq_some hx).2

theorem entry_eq_ok {key value : Text} {d : Text × Text} (h : Decoded.entry key value = .ok d) :
    d.1 = key ∧ Percent.decode value = .ok d.2 := by
  unfold Decoded.entry at h
  split at h
  · rename_i t ht
    cases h
    exact ⟨rfl, ht⟩
  · cases h

/-- Parameters are decoded one by one, and keep their names. -/
theorem forall₂_decode {p : Params} {decoded : Decoded} (h : p.decode = .ok decoded) :
    List.Forall₂ (fun e d => d.1 = e.1 ∧ Percent.decode e.2 = .ok d.2) p.entries decoded := by
  obtain ⟨entries⟩ := p
  unfold decode at h
  dsimp only at h ⊢
  induction entries generalizing decoded with
  | nil =>
    cases h
    exact .nil
  | cons e entries ih =>
    rw [List.mapM_cons] at h
    obtain ⟨d, hd, h⟩ := Regex.bind_eq_ok.1 h
    obtain ⟨ds, hds, h⟩ := Regex.bind_eq_ok.1 h
    cases h
    exact .cons (entry_eq_ok hd) (ih hds)

/-- Parameters that are decoded have values that are not empty if they were not before. -/
theorem decode_ok {p : Params} (hp : ∀ e ∈ p.entries, e.2 ≠ []) {decoded : Decoded} (h : p.decode = .ok decoded) :
    decoded.map (·.1) = p.entries.map (·.1) ∧ ∀ e ∈ decoded, e.2 ≠ [] := by
  replace h := forall₂_decode h
  generalize p.entries = entries at hp h
  induction h with
  | nil => exact ⟨rfl, List.forall_mem_nil _⟩
  | cons hd _ ih =>
    rw [List.forall_mem_cons] at hp
    obtain ⟨hnames, hvalues⟩ := ih hp.2
    exact ⟨by rw [List.map_cons, List.map_cons, hd.1, hnames],
      List.forall_mem_cons.2 ⟨Percent.decode_ne_nil hp.1 hd.2, hvalues⟩⟩

end Params

/-- What a route with known keys captures. -/
theorem Route.exec_named {r : Route} {keys : List Text} (hkeys : r.keys = .named keys) {path : Text} {p : Params}
    (h : r.exec path = some p) : (p.entries.map (·.1)).Sublist keys ∧ ∀ e ∈ p.entries, e.2 ≠ [] := by
  obtain ⟨c, -, hc⟩ := Option.map_eq_some_iff.1 h
  rw [hkeys] at hc
  subst hc
  exact ⟨Params.keys_ofKeys keys c, Params.ne_nil_of_mem_ofKeys⟩

end PathRouter
