/-
What calls find of the parameters, after any calls before. The calls of a kind are counted (`Elements.asked`,
`Entries.keysAsked`): after `i` calls for an element, or for a key, the next such call gets the one of parameter `i`,
or nothing if there are no more. A value can be taken if its key was the last one taken and no value was asked for
since (`Entries.Unconsumed`). What the readers are given in all follows from it: elements and keys in order, each once,
as many as were asked for (`Elements.given_start`, `Entries.keysGiven_start`), and values in order, each at most once
(`Entries.valuesGiven_sublist`).
-/
import Mathlib.Data.List.Induction
import PathRouter.Extraction.Call

namespace PathRouter

variable {ε α σ : Type} {params : Decoded}

/-! ## What readers are given -/

section Given

variable {β : Type} {γ : Type 1} (call : σ → γ → σ) (give : σ → γ → Option β)

/-- What calls give to their readers, one after another, each in the state that the calls before it leave. -/
def given : σ → List γ → List β
  | _, [] => []
  | s, c :: calls => (give s c).toList ++ given (call s c) calls

theorem given_append_singleton (c : γ) : ∀ (calls : List γ) (s : σ),
    given call give s (calls ++ [c]) = given call give s calls ++ (give (calls.foldl call s) c).toList
  | [], s => List.append_nil _
  | d :: calls, s => by
    rw [List.cons_append, given, given_append_singleton c calls, ← List.append_assoc]
    rfl

end Given

/-- What was taken stays taken, whether it could be read or not. -/
@[simp] theorem readTaken_snd {β : Type} (read : β → Except ε α) (taken : Option β × σ) :
    (readTaken read taken).2 = taken.2 := by
  rcases taken with ⟨_ | b, s⟩ <;> rfl

/-! ## Elements -/

namespace Elements

/-- Whether a call is for an element. -/
def Call.isNext : Call ε → Bool
  | size => false
  | next _ => true

/-- How often an element was asked for. -/
def asked (calls : List (Call ε)) : Nat :=
  calls.countP Call.isNext

/-- The element that a call gives to its reader. -/
def give (e : Elements) : Call ε → Option Value
  | .size => none
  | .next _ => e.next.1

theorem asked_append_singleton (calls : List (Call ε)) (c : Call ε) :
    asked (calls ++ [c]) = asked calls + if c.isNext then 1 else 0 := by
  rw [asked, List.countP_append, List.countP_singleton]
  rfl

theorem after_append_singleton (e : Elements) (calls : List (Call ε)) (c : Call ε) :
    e.after (calls ++ [c]) = (e.after calls).call c :=
  List.foldl_append

/-- A list of elements is read by calls for the next one, until there are no more or one cannot be read. -/
theorem readAll_succ (read : Value → Except ExtractionError α) (n : Nat) (e : Elements) :
    readAll read (n + 1) e = match e.readNext read with
      | (.ok (some a), e) => (readAll read n e).map (a :: ·)
      | (.ok none, _) => .ok []
      | (.error cause, _) => .error cause := by
  rw [readAll, readNext]
  rcases e.next with ⟨_ | v, e⟩
  · rfl
  · simp only [readTaken]
    cases read v <;> rfl

/-- After `i` calls for an element the next one is that of parameter `i`. At the end no more are taken. -/
theorem next_asked (i : Nat) : next ⟨params, min i params.length⟩ =
    (params[i]?.map fun entry => ⟨.index i, entry.2⟩, ⟨params, min (i + 1) params.length⟩) := by
  rcases Nat.lt_or_ge i params.length with h | h
  · rw [Nat.min_eq_left (Nat.le_of_lt h), Nat.min_eq_left h, next, List.getElem?_eq_getElem h]
    rfl
  · rw [Nat.min_eq_right h, Nat.min_eq_right (Nat.le_succ_of_le h), next, List.getElem?_eq_none (Nat.le_refl _),
      List.getElem?_eq_none h]
    rfl

/-- Elements are counted as they are asked for, up to the number of parameters. -/
theorem after_start (calls : List (Call ε)) :
    (start params).after calls = ⟨params, min (asked calls) params.length⟩ := by
  induction calls using List.reverseRecOn with
  | nil => exact congrArg (Elements.mk params) (Nat.zero_min _).symm
  | append_singleton calls c ih =>
    rw [after_append_singleton, ih, asked_append_singleton]
    cases c with
    | size => rfl
    | next read => rw [call, readNext, readTaken_snd, next_asked]; rfl

/-- The readers are given the elements in order, each once, as many as were asked for. -/
theorem given_start (calls : List (Call ε)) : given call give (start params) calls =
    (params.mapIdx fun i entry => ⟨.index i, entry.2⟩).take (asked calls) := by
  induction calls using List.reverseRecOn with
  | nil => rfl
  | append_singleton calls c ih =>
    rw [given_append_singleton, ih, ← after, after_start, asked_append_singleton]
    cases c with
    | size => exact List.append_nil _
    | next read =>
      change _ = List.take (asked calls + 1) _
      rw [give, next_asked, List.take_add_one, List.getElem?_mapIdx]

end Elements

/-! ## Entries -/

namespace Entries

/-- Whether a call is for a key. -/
def Call.isKey : Call ε → Bool
  | key _ => true
  | _ => false

/-- Whether a call is for a value. -/
def Call.isValue : Call ε → Bool
  | value _ => true
  | _ => false

/-- How often a key was asked for. -/
def keysAsked (calls : List (Call ε)) : Nat :=
  calls.countP Call.isKey

/-- After some calls, the key of parameter `j` is the last one that was taken, and no value was asked for since. -/
def Unconsumed (params : Decoded) (calls : List (Call ε)) (j : Nat) : Prop :=
  ∃ before c later, calls = before ++ c :: later ∧ c.isKey ∧ keysAsked before = j ∧
    min (keysAsked calls) params.length = j + 1 ∧ ∀ d ∈ later, d.isValue = false

/-- The key that a call gives to its reader. -/
def giveKey (e : Entries) : Call ε → Option Text
  | .key _ => e.nextKey.1
  | _ => none

/-- The value that a call gives to its reader. -/
def giveValue (e : Entries) : Call ε → Option Value
  | .value _ => e.nextValue.1.toOption
  | _ => none

theorem keysAsked_append_singleton (calls : List (Call ε)) (c : Call ε) :
    keysAsked (calls ++ [c]) = keysAsked calls + if c.isKey then 1 else 0 := by
  rw [keysAsked, List.countP_append, List.countP_singleton]
  rfl

theorem after_append_singleton (raise : ExtractionError → ε) (e : Entries) (calls : List (Call ε)) (c : Call ε) :
    e.after raise (calls ++ [c]) = (e.after raise calls).call raise c :=
  List.foldl_append

theorem readValue_eq (raise : ExtractionError → ε) (read : Value → Except ε α) (e : Entries) :
    e.readValue raise read = (match e.pending with
      | some (key, text) => read ⟨.key key, text⟩
      | none => .error (raise (.mismatch .valueBeforeKey)), ⟨e.left, none⟩) := by
  obtain ⟨left, pending⟩ := e
  cases pending <;> rfl

/-- Entries are read by calls for a key and then for its value, which are read together. -/
theorem foldAll_succ (read : σ → Text → Except ExtractionError Value → Except ExtractionError σ) (n : Nat) (s : σ)
    (e : Entries) :
    foldAll read (n + 1) s e = match (e.readKey .ok : Except ExtractionError (Option Text) × Entries) with
      | (.ok (some key), e) => (read s key (e.readValue id .ok).1).bind fun s => foldAll read n s (e.readValue id .ok).2
      | (.ok none, _) => .ok s
      | (.error cause, _) => .error cause := by
  rw [foldAll, readKey]
  rcases e.nextKey with ⟨_ | key, ⟨left, _ | entry⟩⟩ <;> rfl

/-- With the keys behind `i` parameters left, the next key is that of parameter `i`, and its value is pending then. At
the end nothing changes. -/
theorem nextKey_drop (i : Nat) (pending : Option (Text × Text)) : nextKey ⟨params.drop i, pending⟩ =
    (params[i]?.map (·.1), ⟨params.drop (i + 1), params[i]?.or pending⟩) := by
  rcases Nat.lt_or_ge i params.length with h | h
  · rw [List.drop_eq_getElem_cons h, List.getElem?_eq_getElem h]
    rfl
  · rw [List.drop_eq_nil_of_le h, List.drop_eq_nil_of_le (Nat.le_succ_of_le h), List.getElem?_eq_none h]
    rfl

/-- After one more call, a value can be taken if the call took its key, or if it could be taken before and the call
neither asked for a value nor took a key. -/
theorem unconsumed_append_singleton {calls : List (Call ε)} {c : Call ε} {j : Nat} :
    Unconsumed params (calls ++ [c]) j ↔
    (c.isKey ∧ keysAsked calls = j ∧ j < params.length) ∨
    (c.isValue = false ∧ (c.isKey → params.length ≤ keysAsked calls) ∧ Unconsumed params calls j) := by
  constructor
  · rintro ⟨before, d, later, hcalls, hd, hbefore, htaken, hlater⟩
    -- The call that took the key is the last one, or there is one behind it.
    cases later using List.reverseRecOn with
    | nil =>
      obtain ⟨rfl, hc⟩ := List.append_inj' hcalls rfl
      cases hc
      exact .inl ⟨hd, hbefore, by omega⟩
    | append_singleton later c' =>
      rw [← List.cons_append, ← List.append_assoc] at hcalls
      obtain ⟨rfl, hc⟩ := List.append_inj' hcalls rfl
      cases hc
      obtain ⟨hlater, hc⟩ := List.forall_mem_append.1 hlater
      have hmore : j + 1 ≤ keysAsked (before ++ d :: later) := by
        rw [keysAsked, List.countP_append, List.countP_cons_of_pos hd, ← hbefore, keysAsked]
        omega
      rw [keysAsked_append_singleton] at htaken
      refine .inr ⟨hc c (List.mem_singleton_self c), fun hkey => ?_, before, d, later, rfl, hd, hbefore, ?_, hlater⟩
      · rw [if_pos hkey] at htaken
        omega
      · omega
  · rintro (⟨hc, rfl, hj⟩ | ⟨hvalue, hkey, before, d, later, rfl, hd, hbefore, htaken, hlater⟩)
    · refine ⟨calls, c, [], rfl, hc, rfl, ?_, List.forall_mem_nil _⟩
      rw [keysAsked_append_singleton, if_pos hc]
      exact Nat.min_eq_left hj
    · refine ⟨before, d, later ++ [c], by simp, hd, hbefore, ?_,
        List.forall_mem_append.2 ⟨hlater, List.forall_mem_singleton.2 hvalue⟩⟩
      rw [keysAsked_append_singleton]
      split
      next h => have := hkey h; omega
      next => exact htaken

section

variable {calls : List (Call ε)} {j : Nat}

@[simp] theorem unconsumed_size : Unconsumed params (calls ++ [.size]) j ↔ Unconsumed params calls j := by
  simp [unconsumed_append_singleton, Call.isKey, Call.isValue]

theorem unconsumed_key_of_lt {read : Text → Except ε α} (h : keysAsked calls < params.length) :
    Unconsumed params (calls ++ [.key read]) j ↔ keysAsked calls = j := by
  rw [unconsumed_append_singleton]
  constructor
  · rintro (⟨-, hj, -⟩ | ⟨-, hle, -⟩)
    · exact hj
    · exact absurd (hle rfl) (Nat.not_le_of_lt h)
  · exact fun hj => .inl ⟨rfl, hj, hj ▸ h⟩

theorem unconsumed_key_of_le {read : Text → Except ε α} (h : params.length ≤ keysAsked calls) :
    Unconsumed params (calls ++ [.key read]) j ↔ Unconsumed params calls j := by
  rw [unconsumed_append_singleton]
  constructor
  · rintro (⟨-, hj, hlt⟩ | ⟨-, -, hj⟩)
    · exact absurd (hj ▸ hlt) (Nat.not_lt_of_le h)
    · exact hj
  · exact fun hj => .inr ⟨rfl, fun _ => h, hj⟩

@[simp] theorem not_unconsumed_value {read : Value → Except ε α} : ¬ Unconsumed params (calls ++ [.value read]) j := by
  simp [unconsumed_append_singleton, Call.isKey, Call.isValue]

end

/-- The keys behind those asked for are left, and that value is pending which can be taken. -/
theorem after_start (raise : ExtractionError → ε) (params : Decoded) (calls : List (Call ε)) :
    ((start params).after raise calls).left = params.drop (keysAsked calls) ∧
    ∀ entry, ((start params).after raise calls).pending = some entry ↔ ∃ j, Unconsumed params calls j ∧
    params[j]? = some entry := by
  -- By the last call: what can be taken is said of the calls before it.
  induction calls using List.reverseRecOn with
  | nil =>
    refine ⟨rfl, fun entry => ⟨nofun, ?_⟩⟩
    rintro ⟨j, ⟨before, c, later, hcalls, -⟩, -⟩
    cases before <;> cases hcalls
  | append_singleton calls c ih =>
    rw [after_append_singleton, keysAsked_append_singleton]
    generalize (start params).after raise calls = e at ih
    obtain ⟨left, pending⟩ := e
    obtain ⟨rfl, hpending⟩ := ih
    cases c with
    | size => exact ⟨rfl, fun entry => (hpending entry).trans (by simp)⟩
    | key read =>
      rw [call, readKey, readTaken_snd, nextKey_drop]
      refine ⟨rfl, fun entry => ?_⟩
      -- The call takes a key, or there is none left and the value of the last key stays pending.
      rcases Nat.lt_or_ge (keysAsked calls) params.length with h | h
      · simp only [unconsumed_key_of_lt h, exists_eq_left', List.getElem?_eq_getElem h, Option.some_or]
      · simpa only [unconsumed_key_of_le h, List.getElem?_eq_none h, Option.none_or] using hpending entry
    | value read =>
      rw [call, readValue_eq]
      exact ⟨rfl, fun entry => by simp⟩

theorem nextKey_after (raise : ExtractionError → ε) (calls : List (Call ε)) :
    ((start params).after raise calls).nextKey = (params[keysAsked calls]?.map (·.1),
      ⟨params.drop (keysAsked calls + 1), params[keysAsked calls]?.or ((start params).after raise calls).pending⟩) := by
  rw [← nextKey_drop, ← (after_start raise params calls).1]

/-- The readers are given the keys in order, each once, as many as were asked for. -/
theorem keysGiven_start (raise : ExtractionError → ε) (calls : List (Call ε)) :
    given (call raise) giveKey (start params) calls = (params.map (·.1)).take (keysAsked calls) := by
  induction calls using List.reverseRecOn with
  | nil => rfl
  | append_singleton calls c ih =>
    rw [given_append_singleton, ih, ← after, keysAsked_append_singleton]
    cases c with
    | size | value read => exact List.append_nil _
    | key read =>
      change _ = List.take (keysAsked calls + 1) _
      rw [giveKey, nextKey_after, List.take_add_one, List.getElem?_map]

/-- The readers are given values of the pending entry and of those left, in order, each at most once. -/
theorem valuesGiven_sublist (raise : ExtractionError → ε) : ∀ (calls : List (Call ε)) (e : Entries),
    (given (call raise) giveValue e calls).Sublist ((e.pending.toList ++ e.left).map fun entry =>
      ⟨.key entry.1, entry.2⟩)
  | [], _ => List.nil_sublist _
  | .size :: calls, e => valuesGiven_sublist raise calls e
  | .key _ :: calls, ⟨[], pending⟩ => valuesGiven_sublist raise calls ⟨[], pending⟩
  | .key _ :: calls, ⟨entry :: left, pending⟩ =>
    (valuesGiven_sublist raise calls ⟨left, some entry⟩).trans ((List.sublist_append_right pending.toList _).map _)
  | .value _ :: calls, ⟨left, none⟩ => valuesGiven_sublist raise calls ⟨left, none⟩
  | .value _ :: calls, ⟨left, some _⟩ => (valuesGiven_sublist raise calls ⟨left, none⟩).cons_cons _

/-- The value that can be taken is that of the latest key. Then it is no longer there. -/
theorem readValue_of_unconsumed (raise : ExtractionError → ε) {calls : List (Call ε)} {j : Nat}
    (h : Unconsumed params calls j)
    (read : Value → Except ε α) : ∃ key text, params[j]? = some (key, text) ∧
      ((start params).after raise calls).readValue raise read =
        (read ⟨.key key, text⟩, ⟨((start params).after raise calls).left, none⟩) := by
  have hj : j < params.length := by
    obtain ⟨-, -, -, -, -, -, htaken, -⟩ := h
    omega
  have hpending := ((after_start raise params calls).2 params[j]).2 ⟨j, h, List.getElem?_eq_getElem hj⟩
  exact ⟨params[j].1, params[j].2, List.getElem?_eq_getElem hj, by rw [readValue_eq, hpending]⟩

/-- Without a value that can be taken nothing changes. -/
theorem readValue_of_not_unconsumed (raise : ExtractionError → ε) {calls : List (Call ε)}
    (h : ∀ j, ¬ Unconsumed params calls j)
    (read : Value → Except ε α) : ((start params).after raise calls).readValue raise read =
      (.error (raise (.mismatch .valueBeforeKey)), (start params).after raise calls) := by
  have hpending := (after_start raise params calls).2
  generalize (start params).after raise calls = e at hpending
  obtain ⟨left, _ | entry⟩ := e
  · rfl
  · obtain ⟨j, hj, -⟩ := (hpending entry).1 rfl
    exact absurd hj (h j)

end Entries

/-! ## Both ways of taking parameters -/

/-- Whatever calls are made, and whether their readers fail or not, parameters are neither lost nor repeated. Taken as
elements, they are counted up to their number, so that the number left is that of the elements not asked for, and call
`i` for an element has parameter `i` read under this place, or finds no more. Taken as entries, the keys are taken in
order, and the number left is that of the keys not taken. The value of the latest key is read if it was not asked for
since; any other call for a value fails and changes nothing. In all, the readers are given the elements in order and
each once, the keys likewise, and values in order and each at most once. -/
theorem Decoded.access_inOrder (raise : ExtractionError → ε) (params : Decoded) :
    (∀ calls : List (Elements.Call ε),
      let e := (Elements.start params).after calls
      let i := Elements.asked calls
      e.params = params ∧ e.index ≤ params.length ∧ e.index = min i params.length ∧ e.index + e.size = params.length ∧
      (∀ {α : Type} (read : Value → Except ε α), (e.readNext read).1 = match params[i]? with
        | some (_, text) => (read ⟨.index i, text⟩).map some
        | none => .ok none) ∧
      given Elements.call Elements.give (Elements.start params) calls =
        (params.mapIdx fun i entry => ⟨.index i, entry.2⟩).take i) ∧
    (∀ calls : List (Entries.Call ε),
      let e := (Entries.start params).after raise calls
      let i := Entries.keysAsked calls
      e.left = params.drop i ∧ min i params.length + e.size = params.length ∧
      (∀ {α : Type} (read : Text → Except ε α), (e.readKey read).1 = match params[i]? with
        | some (key, _) => (read key).map some
        | none => .ok none) ∧
      (∀ {α : Type} (read : Value → Except ε α),
        (∀ j, Entries.Unconsumed params calls j → ∃ key text, params[j]? = some (key, text) ∧
          e.readValue raise read = (read ⟨.key key, text⟩, ⟨e.left, none⟩)) ∧
        ((∀ j, ¬ Entries.Unconsumed params calls j) →
          e.readValue raise read = (.error (raise (.mismatch .valueBeforeKey)), e))) ∧
      given (Entries.call raise) Entries.giveKey (Entries.start params) calls = (params.map (·.1)).take i ∧
      (given (Entries.call raise) Entries.giveValue (Entries.start params) calls).Sublist
        (params.map fun entry => ⟨.key entry.1, entry.2⟩)) ∧
    (ExtractionError.mismatch .valueBeforeKey).message = "value requested before key".toList := by
  refine ⟨fun calls => ?_, fun calls => ?_, rfl⟩
  · intro e i
    have he : e = ⟨params, min i params.length⟩ := Elements.after_start calls
    refine ⟨?_, ?_, ?_, ?_, fun read => ?_, Elements.given_start calls⟩
    · rw [he]
    · rw [he]
      exact Nat.min_le_right i params.length
    · rw [he]
    · rw [he, Elements.size]
      exact Nat.add_sub_cancel' (Nat.min_le_right i params.length)
    · rw [he, Elements.readNext, Elements.next_asked]
      cases params[i]? <;> rfl
  · intro e i
    have hleft : e.left = params.drop i := (Entries.after_start raise params calls).1
    refine ⟨hleft, ?_, fun read => ?_, fun read => ⟨fun j hj => Entries.readValue_of_unconsumed raise hj read,
      fun h => Entries.readValue_of_not_unconsumed raise h read⟩, Entries.keysGiven_start raise calls,
      Entries.valuesGiven_sublist raise calls (.start params)⟩
    · rw [Entries.size, hleft, List.length_drop]
      omega
    · rw [Entries.readKey, Entries.nextKey_after]
      cases params[i]? <;> rfl

/-- The first of two elements cannot be read: one is left, and the second is read under its own place. Of two entries a
value is asked for too early, then both keys are taken: the value of the second can be read, but not twice. -/
theorem Decoded.access_inOrder_repeated :
    let params : Decoded := [("a".toList, "x".toList), ("b".toList, "y".toList)]
    let read : Value → Except ExtractionError Value := fun v =>
      if v.text = "x".toList then .error (v.invalid "u8".toList) else .ok v
    let e := (Elements.start params).after [.next read, .size]
    let keys : List (Entries.Call ExtractionError) := [.value read, .key .ok, .key .ok]
    let f := (Entries.start params).after id keys
    let g := (Entries.start params).after id (keys ++ [.value read])
    e.index + e.size = 2 ∧ (e.readNext read).1 = .ok (some ⟨.index 1, "y".toList⟩) ∧
    Entries.Unconsumed params keys 1 ∧ f.readValue id read = (.ok ⟨.key "b".toList, "y".toList⟩, ⟨f.left, none⟩) ∧
    (∀ j, ¬ Entries.Unconsumed params (keys ++ [.value read]) j) ∧
    g.readValue id read = (.error (.mismatch .valueBeforeKey), g) := by
  intro params read e keys f g
  obtain ⟨helements, hentries, -⟩ := Decoded.access_inOrder id params
  obtain ⟨-, -, -, hsize, hnext, -⟩ := helements [.next read, .size]
  have hkeys : Entries.Unconsumed params keys 1 :=
    ⟨[.value read, .key .ok], .key .ok, [], rfl, rfl, rfl, rfl, List.forall_mem_nil _⟩
  have hvalue : ∀ j, ¬ Entries.Unconsumed params (keys ++ [.value read]) j := fun _ => Entries.not_unconsumed_value
  obtain ⟨-, -, -, hread, -⟩ := hentries keys
  obtain ⟨-, -, -, hagain, -⟩ := hentries (keys ++ [.value read])
  obtain ⟨key, text, hentry, hf⟩ := (hread read).1 1 hkeys
  cases hentry
  exact ⟨hsize, hnext read, hkeys, hf, hvalue, (hagain read).2 hvalue⟩

end PathRouter
