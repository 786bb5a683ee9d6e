/-
Parameters under their keys. A key can be captured several times, as it can stand in a template several times. Looking
it up finds the first value (`Params.get?`), while a map of the parameters holds the last one (`Params.last?`). So the
two know the same keys, and have the same value under a key that was captured once (`Shape.extract_map`).
-/
import PathRouter.Proofs.Extraction.Fields
import PathRouter.Proofs.Extraction.Recorded
import PathRouter.Proofs.Template.Fits
import PathRouter.Proofs.Text.Sorted

namespace PathRouter

/-! ## The last value for a key -/

namespace Params

/-- The last value for a key. -/
def last? (p : Params) (key : Text) : Option Text :=
  p.entries.reverse.lookup key

variable {p : Params} {key : Text}

/-- Of a key that was captured once at most, the first value is the last one. -/
theorem last?_eq_get? (h : (p.entries.map (·.1)).count key ≤ 1) : p.last? key = p.get? key :=
  lookup_reverse h

/-- What is found among decoded values is what is found before, decoded. -/
theorem lookup_decoded {entries : List (Text × Text)} {decoded : Decoded}
    (h : List.Forall₂ (fun e d => d.1 = e.1 ∧ Percent.decode e.2 = .ok d.2) entries decoded) (key t : Text) :
    decoded.lookup key = some t ↔ ∃ v, entries.lookup key = some v ∧ Percent.decode v = .ok t := by
  induction h with
  | nil => exact ⟨nofun, nofun⟩
  | @cons e d _ _ hd _ ih =>
    obtain ⟨hname, hvalue⟩ := hd
    rw [lookup_cons_eq_ite, lookup_cons_eq_ite, hname]
    split
    · constructor
      · rintro ⟨⟩
        exact ⟨e.2, rfl, hvalue⟩
      · rintro ⟨v, ⟨⟩, hv⟩
        rw [hvalue] at hv
        exact congrArg some (Except.ok.inj hv)
    · exact ih

end Params

/-! ## Maps of texts -/

namespace Shape

/-- A map of texts has the parameters in the order of their keys. -/
theorem readMap_text (params : Decoded) :
    readMap .text .text params = .ok ((Text.sorted Text.less params).map fun e => (.text e.1, .text e.2)) := by
  have hfold : ∀ (params : Decoded) (entries : List (Text × Reading × Reading)),
      params.foldlM (fun entries p => do
        let keyReading ← KeyShape.text.read p.1
        let r ← text.readValue (← Except.ok ⟨.key p.1, p.2⟩)
        return entries ++ [(p.1, keyReading, r)]) entries =
      Except.ok (entries ++ params.map fun e => (e.1, .text e.1, .text e.2)) := by
    intro params
    induction params with
    | nil => exact fun entries => congrArg Except.ok (List.append_nil entries).symm
    | cons p params ih =>
      intro entries
      rw [List.foldlM_cons]
      refine (ih (entries ++ [(p.1, .text p.1, .text p.2)])).trans ?_
      rw [List.append_assoc]
      rfl
  have hsorted := Text.sorted_map Text.less (fun key value => (Reading.text key, Reading.text value)) params
  rw [readMap, Entries.foldAll_start, hfold params []]
  exact congrArg Except.ok ((congrArg (List.map (·.2)) hsorted).trans (List.map_map ..))

/-- A map of the parameters that a template captured has the keys that are found by looking them up, each once, with the
decoded value that was captured last. This is the value that is found by looking the key up, unless the key was captured
several times, which it is no more often than it stands in the template. -/
theorem extract_map {T : Text} {mode : Template.Mode} {r : Route} (hr : Route.compile T mode = .ok r) {path : Text}
    {p : Params}
    (hp : r.exec path = some p) {decoded : Decoded} (hdecoded : p.decode = .ok decoded) (typeName : Text) :
    ∃ entries : List (Text × Text),
      (map typeName .text .text).extract (some p.decode) = .ok (.map (entries.map fun e => (.text e.1, .text e.2))) ∧
      (entries.map (·.1)).Nodup ∧
      ∀ key, ((p.get? key).isSome ↔ (entries.lookup key).isSome) ∧
        (∀ t, entries.lookup key = some t ↔ ∃ v, p.last? key = some v ∧ Percent.decode v = .ok t) ∧
        ((p.entries.map (·.1)).count key ≤ 1 → p.last? key = p.get? key) ∧
        (p.entries.map (·.1)).count key ≤ (Template.keys T).count key := by
  obtain ⟨hsub, hvalues⟩ := Route.exec_named (Template.keys_of_compile hr) hp
  obtain ⟨hnames, -⟩ := Params.decode_ok hvalues hdecoded
  refine ⟨Text.sorted Text.less decoded, ?_, Text.nodup_sorted decoded, fun key =>
    ⟨?_, fun t => ?_, Params.last?_eq_get?, ?_⟩⟩
  · rw [hdecoded, extract, readAll, readMap_text]
    rfl
  · rw [Text.lookup_sorted, lookup_isSome_iff, List.map_reverse, List.mem_reverse, hnames, Params.get?,
      lookup_isSome_iff]
  · rw [Text.lookup_sorted]
    exact Params.lookup_decoded (List.rel_reverse (Params.forall₂_decode hdecoded)) key t
  · exact hsub.count_le key

/-- A key that was captured twice has its last value in the map, and a key that was captured once the only one. -/
theorem extract_map_both : ∃ (r : Route) (p : Params) (entries : List (Text × Text)),
    Route.compile "/:x/:y/:x".toList .strict = .ok r ∧ r.exec "/a/b%20c/d".toList = some p ∧
    (map "M".toList .text .text).extract (some p.decode) = .ok (.map (entries.map fun e => (.text e.1, .text e.2))) ∧
    (entries.map (·.1)).Nodup ∧ entries.lookup "x".toList = some "d".toList ∧
    entries.lookup "y".toList = some "b c".toList ∧
    p.last? "y".toList = p.get? "y".toList := by
  obtain ⟨r, p, hr, hp, hdecoded, hentries⟩ : ∃ r p, Route.compile "/:x/:y/:x".toList .strict = .ok r ∧
      r.exec "/a/b%20c/d".toList = some p ∧
      p.decode = .ok [("x".toList, "a".toList), ("y".toList, "b c".toList), ("x".toList, "d".toList)] ∧
      p.entries = [("x".toList, "a".toList), ("y".toList, "b%20c".toList), ("x".toList, "d".toList)] :=
    ⟨_, _, rfl, rfl, rfl, rfl⟩
  obtain ⟨entries, hextract, hnodup, hkey⟩ := extract_map hr hp hdecoded "M".toList
  obtain ⟨-, hx, -⟩ := hkey "x".toList
  obtain ⟨-, hy, honce, -⟩ := hkey "y".toList
  have hlast : p.last? "x".toList = some "d".toList := by
    rw [Params.last?, hentries]
    rfl
  have hlast' : p.last? "y".toList = some "b%20c".toList := by
    rw [Params.last?, hentries]
    rfl
  exact ⟨r, p, entries, hr, hp, hextract, hnodup, (hx _).2 ⟨_, hlast, rfl⟩, (hy _).2 ⟨_, hlast', rfl⟩,
    honce (by rw [hentries]; decide)⟩

/-- A key that was captured twice is looked up as its first value, of which the entry in the map is not the decoding. -/
theorem extract_map_last : ∃ r p, Route.compile "/:x/:x".toList .strict = .ok r ∧ r.exec "/a/b".toList = some p ∧
    p.decode = .ok [("x".toList, "a".toList), ("x".toList, "b".toList)] ∧ p.get? "x".toList = some "a".toList ∧
    (map "M".toList .text .text).extract (some p.decode) = .ok (.map [(.text "x".toList, .text "b".toList)]) ∧
    Percent.decode "a".toList ≠ .ok "b".toList := by
  have hdecode : Percent.decode "a".toList = .ok "a".toList := rfl
  refine ⟨_, _, rfl, rfl, rfl, rfl, rfl, fun h => ?_⟩
  exact absurd (Except.ok.inj (hdecode.symm.trans h)) (by decide)

end Shape

end PathRouter
