/-
Reading an escape is local: outside verbose text it takes a character and inert ones behind it, and
does not depend on what follows them, but for a brace behind `\b`. Each reader of a part of an
escape has one lemma, which gives the part and its result in front of any text.
-/
import PathRouter.Proofs.Regex.Names

namespace PathRouter.Regex

theorem bind_eq_ok {ε α β : Type} {x : Except ε α} {g : α → Except ε β} {b : β} :
    (x >>= g) = .ok b ↔ ∃ a, x = .ok a ∧ g a = .ok b := by
  cases x with
  | error e => exact ⟨fun h => (by cases h), fun ⟨a, h, _⟩ => (by cases h)⟩
  | ok a => exact ⟨fun h => ⟨a, rfl, h⟩, fun ⟨a, h, hg⟩ => (by cases h; exact hg)⟩

theorem bind_ok {ε α β : Type} {a : α} {g : α → Except ε β} : ((.ok a : Except ε α) >>= g) = g a := rfl

theorem Flags.skip_eq {f : Flags} (hf : f.verbose = false) (t : Text) : f.skip t = t := by
  simp [Flags.skip, hf]

/-- Whether a text behind `\b` would be read as the name of a special boundary. -/
def namesBoundary : Text → Bool
  | ['{'] => true
  | '{' :: c :: _ => c.isAlpha || c == '-'
  | _ => false

/-! ## Escapes -/

namespace Escape

theorem inert_of_hexValue? {c : Char} {d : Nat} (h : hexValue? c = some d) : Inert c := by
  refine ⟨?_, ?_, ?_, ?_, ?_⟩ <;> rintro rfl <;> cases h

section

variable {f : Flags} (hf : f.verbose = false)
include hf

theorem fixedHex_local : ∀ {k v : Nat} {t u : Text} {e : Escape}, fixedHex f v k t = .ok (e, u) →
    ∃ m, t = m ++ u ∧ InertText m ∧ ∀ w, fixedHex f v k (m ++ w) = .ok (e, w)
  | 0, v, t, u, e, h => by
    obtain ⟨e', he, h⟩ := bind_eq_ok.1 h
    cases h
    exact ⟨[], rfl, List.forall_mem_nil _, fun w => by rw [List.nil_append, fixedHex, he]; rfl⟩
  | k + 1, v, [], u, e, h => by cases h
  | k + 1, v, c :: t, u, e, h => by
    rw [fixedHex] at h
    cases hc : hexValue? c with
    | none => rw [hc] at h; cases h
    | some d =>
      simp only [hc, Flags.skip_eq hf] at h
      obtain ⟨m, rfl, hm, hw⟩ := fixedHex_local h
      refine ⟨c :: m, rfl, List.forall_mem_cons.2 ⟨inert_of_hexValue? hc, hm⟩, fun w => ?_⟩
      simp only [List.cons_append, fixedHex, hc, Flags.skip_eq hf]
      exact hw w

theorem bracedHex_local : ∀ {k : Nat} {ds : List Nat} {t u : Text} {e : Escape}, bracedHex f k ds t = .ok (e, u) →
    ∃ m, t = m ++ u ∧ InertText m ∧ ∀ w j, m.length ≤ j → bracedHex f j ds (m ++ w) = .ok (e, w)
  | 0, _, _, _, _, h => by cases h
  | k + 1, ds, [], u, e, h => by cases h
  | k + 1, ds, c :: t, u, e, h => by
    rw [bracedHex] at h
    by_cases hc : (c == '}') = true
    · rw [if_pos hc] at h
      by_cases hd : ds.isEmpty = true
      · rw [if_pos hd] at h; cases h
      · rw [if_neg hd] at h
        obtain ⟨e', he, h⟩ := bind_eq_ok.1 h
        rw [Flags.skip_eq hf] at h
        cases h
        refine ⟨[c], rfl, by simp only [beq_iff_eq] at hc; subst hc; decide, fun w j hj => ?_⟩
        obtain ⟨j, rfl⟩ := Nat.exists_eq_add_of_le' hj
        simp only [List.singleton_append, List.length_singleton, bracedHex, if_pos hc, if_neg hd, he,
          Flags.skip_eq hf]
        rfl
    · rw [if_neg hc] at h
      cases hx : hexValue? c with
      | none => rw [hx] at h; cases h
      | some d =>
        simp only [hx, Flags.skip_eq hf] at h
        obtain ⟨m, rfl, hm, hw⟩ := bracedHex_local h
        refine ⟨c :: m, rfl, List.forall_mem_cons.2 ⟨inert_of_hexValue? hx, hm⟩, fun w j hj => ?_⟩
        obtain ⟨j, rfl⟩ := Nat.exists_eq_add_of_le' (Nat.le_trans (Nat.succ_le_succ (Nat.zero_le _)) hj)
        simp only [List.cons_append, bracedHex, if_neg hc, hx, Flags.skip_eq hf]
        exact hw w j (by simpa using hj)

theorem bracedName_local : ∀ {k : Nat} {name t u name' : Text}, bracedName f k name t = .ok (name', u) →
    ∃ m, t = m ++ '}' :: u ∧ name' = m.reverse ++ name ∧
      ∀ w j, m.length < j → bracedName f j name (m ++ '}' :: w) = .ok (name', w)
  | 0, _, _, _, _, h => by cases h
  | k + 1, name, [], u, name', h => by cases h
  | k + 1, name, c :: t, u, name', h => by
    rw [bracedName] at h
    by_cases hc : (c == '}') = true
    · rw [if_pos hc] at h
      cases h
      obtain rfl := beq_iff_eq.1 hc
      refine ⟨[], rfl, rfl, fun w j hj => ?_⟩
      obtain ⟨j, rfl⟩ := Nat.exists_eq_add_of_lt hj
      rfl
    · rw [if_neg hc, Flags.skip_eq hf] at h
      obtain ⟨m, rfl, rfl, hw⟩ := bracedName_local h
      refine ⟨c :: m, rfl, by simp, fun w j hj => ?_⟩
      obtain ⟨j, rfl⟩ := Nat.exists_eq_add_of_lt hj
      simp only [List.cons_append, bracedName, if_neg hc, Flags.skip_eq hf]
      exact hw w _ (by simp; omega)

theorem boundaryName_local : ∀ {k : Nat} {name t u name' : Text}, boundaryName f k name t = (name', '}' :: u) →
    ∃ m, t = m ++ '}' :: u ∧ InertText m ∧
      ∀ w j, m.length ≤ j → boundaryName f j name (m ++ '}' :: w) = (name', '}' :: w)
  | 0, name, t, u, name', h => by
    cases h
    refine ⟨[], rfl, List.forall_mem_nil _, fun w j _ => ?_⟩
    cases j <;> rfl
  | k + 1, name, [], u, name', h => by cases h
  | k + 1, name, c :: t, u, name', h => by
    rw [boundaryName] at h
    by_cases hc : (c.isAlpha || c == '-') = true
    · rw [if_pos hc, Flags.skip_eq hf] at h
      obtain ⟨m, rfl, hm, hw⟩ := boundaryName_local h
      have hi : Inert c := by
        rcases Bool.or_eq_true .. ▸ hc with hc | hc
        · exact inert_of_isAlpha hc
        · rw [beq_iff_eq.1 hc]; decide
      refine ⟨c :: m, rfl, List.forall_mem_cons.2 ⟨hi, hm⟩, fun w j hj => ?_⟩
      obtain ⟨j, rfl⟩ := Nat.exists_eq_add_of_le' (Nat.le_trans (Nat.succ_le_succ (Nat.zero_le _)) hj)
      simp only [List.cons_append, boundaryName, if_pos hc, Flags.skip_eq hf]
      exact hw w j (by simpa using hj)
    · rw [if_neg hc] at h
      cases h
      refine ⟨[], rfl, List.forall_mem_nil _, fun w j _ => ?_⟩
      cases j <;> rfl

/-- The check that two digits are no byte beyond ASCII. -/
def checkByte (f : Flags) (width : Nat) (r : Escape × Text) : Except PatternError (Escape × Text) :=
  match r.1 with
  | .literal c => if !f.unicode && width == 2 && 128 ≤ c.val then .error .notCharacters else .ok r
  | _ => .ok r

omit hf in
theorem checkByte_local {width : Nat} {e e' : Escape} {t u : Text} (h : checkByte f width (e', t) = .ok (e, u)) :
    e' = e ∧ t = u ∧ ∀ w, checkByte f width (e, w) = .ok (e, w) := by
  cases e' with
  | literal c =>
    dsimp only [checkByte] at h
    split at h
    · cases h
    · rename_i hc
      cases h
      exact ⟨rfl, rfl, fun w => if_neg hc⟩
  | set s => cases h; exact ⟨rfl, rfl, fun w => rfl⟩
  | assertion a => cases h; exact ⟨rfl, rfl, fun w => rfl⟩

theorem hex_brace (width : Nat) (t : Text) : hex f width ('{' :: t) = bracedHex f (t.length + 1) [] t := by
  simp [hex, Flags.skip_eq hf]

theorem hex_digits {c : Char} {t : Text} (width : Nat) (hc : c ≠ '{') :
    hex f width (c :: t) = (fixedHex f 0 width (c :: t)).bind (checkByte f width) := by
  rw [hex, Flags.skip_eq hf]
  split
  · rename_i h; cases h
  · rename_i h; cases h; exact absurd rfl hc
  · rfl

theorem hex_local {width : Nat} {t u : Text} {e : Escape} (h : hex f (width + 1) t = .ok (e, u)) :
    ∃ m, t = m ++ u ∧ InertText m ∧ ∀ w, hex f (width + 1) (m ++ w) = .ok (e, w) := by
  match t with
  | [] => simp [hex, Flags.skip_eq hf] at h
  | c :: t =>
    by_cases hc : c = '{'
    · subst hc
      rw [hex_brace hf] at h
      obtain ⟨m, rfl, hm, hw⟩ := bracedHex_local hf h
      refine ⟨'{' :: m, rfl, List.forall_mem_cons.2 ⟨by decide, hm⟩, fun w => ?_⟩
      rw [List.cons_append, hex_brace hf]
      exact hw w _ (by simp; omega)
    · rw [hex_digits hf _ hc] at h
      obtain ⟨⟨e', u'⟩, he, h⟩ := bind_eq_ok.1 h
      obtain ⟨rfl, rfl, hk⟩ := checkByte_local h
      obtain ⟨m, hm, hi, hw⟩ := fixedHex_local hf he
      match m with
      | [] => cases hw []
      | d :: m =>
        cases hm
        refine ⟨c :: m, rfl, hi, fun w => ?_⟩
        rw [List.cons_append, hex_digits hf _ hc, ← List.cons_append, hw w]
        exact hk w

/-- The set with a name, with the text behind the name. -/
def setNamed (f : Flags) (negated : Bool) (r : Text × Text) : Except PatternError (Escape × Text) :=
  if !f.unicode then .error .notCharacters
  else match Property.set? r.1 with
    | some s => .ok (.set (if negated then (f.foldCase s).compl else f.foldCase s), r.2)
    | none => .error .propertyUnknown

omit hf in
theorem setNamed_local {negated : Bool} {name t u : Text} {e : Escape} (h : setNamed f negated (name, t) = .ok (e, u)) :
    t = u ∧ InertText name ∧ ∀ w, setNamed f negated (name, w) = .ok (e, w) := by
  unfold setNamed at h
  split at h
  · cases h
  · rename_i hu
    split at h
    · rename_i s hs
      cases h
      refine ⟨rfl, Property.inert_of_set? hs, fun w => ?_⟩
      simp only [setNamed, if_neg hu, hs]
    · cases h

theorem property_brace (negated : Bool) (t : Text) : property f negated ('{' :: t) =
    (bracedName f (t.length + 1) [] t).bind fun r => setNamed f negated (r.1.reverse, r.2) := by
  simp only [property, Flags.skip_eq hf]
  cases bracedName f (t.length + 1) [] t <;> rfl

theorem property_letter {c : Char} (negated : Bool) (t : Text) (hc : c ≠ '{') (hb : c ≠ '\\') :
    property f negated (c :: t) = setNamed f negated ([c], t) := by
  simp only [property, Flags.skip_eq hf, pure_bind]
  rfl

theorem property_local {negated : Bool} {t u : Text} {e : Escape} (h : property f negated t = .ok (e, u)) :
    ∃ m, t = m ++ u ∧ InertText m ∧ ∀ w, property f negated (m ++ w) = .ok (e, w) := by
  match t with
  | [] => simp [property, Flags.skip_eq hf, bind_eq_ok] at h
  | c :: t =>
    by_cases hc : c = '{'
    · subst hc
      rw [property_brace hf] at h
      obtain ⟨⟨rev, t'⟩, hb, h⟩ := bind_eq_ok.1 h
      obtain ⟨m, rfl, rfl, hw⟩ := bracedName_local hf hb
      rw [List.append_nil, List.reverse_reverse] at h
      obtain ⟨rfl, hi, hk⟩ := setNamed_local h
      refine ⟨'{' :: (m ++ ['}']), by simp, ?_, fun w => ?_⟩
      · rw [InertText, List.forall_mem_cons, List.forall_mem_append]
        exact ⟨by decide, hi, by decide⟩
      · have hlen : m.length < (m ++ '}' :: w).length + 1 := by
          rw [List.length_append]
          omega
        rw [List.cons_append, property_brace hf, List.append_assoc, List.singleton_append, hw w _ hlen, List.append_nil]
        show setNamed f negated (m.reverse.reverse, w) = _
        rw [List.reverse_reverse]
        exact hk w
    · by_cases hb : c = '\\'
      · subst hb; simp [property, Flags.skip_eq hf] at h; cases h
      · rw [property_letter hf _ _ hc hb] at h
        obtain ⟨rfl, hi, hk⟩ := setNamed_local h
        refine ⟨[c], rfl, hi, fun w => ?_⟩
        rw [List.singleton_append, property_letter hf _ _ hc hb]
        exact hk w

/-- What a boundary with a name asserts. -/
def boundaryNamed (f : Flags) (name : Text) : Except PatternError Escape :=
  match String.ofList name with
  | "start" => .ok (.assertion (.wordStart f.word))
  | "end" => .ok (.assertion (.wordEnd f.word))
  | "start-half" => .ok (.assertion (.wordStartHalf f.word))
  | "end-half" => .ok (.assertion (.wordEndHalf f.word))
  | _ => .error .wordBoundaryUnknown

theorem boundary_plain {t : Text} (h : namesBoundary t = false) :
    boundary f t = .ok (.assertion (.wordBoundary f.word), t) := by
  unfold boundary
  split
  · rename_i inner
    rw [Flags.skip_eq hf]
    cases inner with
    | nil => cases h
    | cons c u => exact if_neg (Bool.eq_false_iff.1 h)
  · rfl

theorem boundary_named {c : Char} {u : Text} (h : (c.isAlpha || c == '-') = true) :
    boundary f ('{' :: c :: u) = match (boundaryName f (u.length + 1) [] (c :: u)).2 with
      | '}' :: rest =>
        boundaryNamed f (boundaryName f (u.length + 1) [] (c :: u)).1.reverse >>= fun e => .ok (e, rest)
      | _ => .error .wordBoundaryUnknown := by
  unfold boundary
  simp only [Flags.skip_eq hf, h, if_true]
  generalize boundaryName f (u.length + 1) [] (c :: u) = r
  obtain ⟨name, rest⟩ := r
  cases rest with
  | nil => rfl
  | cons d rest =>
    by_cases hd : d = '}'
    · subst hd
      unfold boundaryNamed
      generalize String.ofList name.reverse = s
      by_cases hs : s ∈ ["start", "end", "start-half", "end-half"]
      · simp only [List.mem_cons, List.not_mem_nil, or_false] at hs
        rcases hs with rfl | rfl | rfl | rfl <;> rfl
      · simp only [List.mem_cons, List.not_mem_nil, or_false, not_or] at hs
        simp [hs]
        rfl
    · simp [hd]

theorem boundary_local {t u : Text} {e : Escape} (h : boundary f t = .ok (e, u)) :
    ∃ m, t = m ++ u ∧ InertText m ∧
      ∀ w, (namesBoundary u = false → namesBoundary w = false) → boundary f (m ++ w) = .ok (e, w) := by
  cases hn : namesBoundary t with
  | false =>
    rw [boundary_plain hf hn] at h
    cases h
    exact ⟨[], rfl, List.forall_mem_nil _, fun w hw => boundary_plain hf (hw hn)⟩
  | true =>
    unfold namesBoundary at hn
    split at hn
    · simp [boundary, Flags.skip_eq hf] at h
    · rename_i c v
      rw [boundary_named hf hn] at h
      split at h
      · rename_i rest hr
        obtain ⟨e', he, h⟩ := bind_eq_ok.1 h
        cases h
        obtain ⟨m, hm, hi, hw⟩ := boundaryName_local hf (Prod.ext rfl hr)
        match m with
        | [] => cases hm; exact absurd hn (by decide)
        | d :: m =>
          cases hm
          refine ⟨'{' :: c :: (m ++ ['}']), by simp, ?_, fun w _ => ?_⟩
          · rw [InertText, List.forall_mem_cons, ← List.cons_append, List.forall_mem_append]
            exact ⟨by decide, hi, by decide⟩
          · have hb := hw w ((m ++ '}' :: w).length + 1) (by simp)
            rw [List.cons_append, List.cons_append, List.append_assoc, List.singleton_append, boundary_named hf hn]
            rw [← List.cons_append, hb]
            simp only [he, bind_ok]
      · cases h
    · cases hn

omit hf in
/-- An escape of a single character reads alike before any text. -/
theorem read_single {c : Char} (hc : c ∉ ['x', 'u', 'U', 'p', 'P', 'b']) (t : Text) :
    read f (c :: t) = read f [c] >>= fun r => .ok (r.1, t) := by
  simp only [List.mem_cons, List.not_mem_nil, not_or, or_false] at hc
  obtain ⟨hx, hu, hU, hp, hP, hb⟩ := hc
  simp only [read]
  split
  case h_1 | h_2 | h_3 | h_4 | h_5 | h_20 => contradiction
  case h_9 | h_10 | h_11 =>
    simp only [Flags.complement]
    split <;> rfl
  case h_24 =>
    split
    · rfl
    · split <;> rfl
  all_goals rfl

/-- An escape is a character and inert ones behind it. -/
theorem read_local {t u : Text} {e : Escape} (h : read f t = .ok (e, u)) :
    ∃ c m, t = c :: (m ++ u) ∧ InertText m ∧
      ∀ w, (namesBoundary u = false → namesBoundary w = false) → read f (c :: (m ++ w)) = .ok (e, w) := by
  match t with
  | [] => cases h
  | c :: t =>
    by_cases hc : c ∈ ['x', 'u', 'U', 'p', 'P', 'b']
    · simp only [List.mem_cons, List.not_mem_nil, or_false] at hc
      rcases hc with rfl | rfl | rfl | rfl | rfl | rfl
      · obtain ⟨m, rfl, hm, hw⟩ := hex_local hf h
        exact ⟨_, m, rfl, hm, fun w _ => hw w⟩
      · obtain ⟨m, rfl, hm, hw⟩ := hex_local hf h
        exact ⟨_, m, rfl, hm, fun w _ => hw w⟩
      · obtain ⟨m, rfl, hm, hw⟩ := hex_local hf h
        exact ⟨_, m, rfl, hm, fun w _ => hw w⟩
      · obtain ⟨m, rfl, hm, hw⟩ := property_local hf h
        exact ⟨_, m, rfl, hm, fun w _ => hw w⟩
      · obtain ⟨m, rfl, hm, hw⟩ := property_local hf h
        exact ⟨_, m, rfl, hm, fun w _ => hw w⟩
      · obtain ⟨m, rfl, hm, hw⟩ := boundary_local hf h
        exact ⟨_, m, rfl, hm, hw⟩
    · rw [read_single hc] at h
      obtain ⟨⟨e', _⟩, he, h⟩ := bind_eq_ok.1 h
      cases h
      refine ⟨c, [], rfl, List.forall_mem_nil _, fun w _ => ?_⟩
      rw [List.nil_append, read_single hc, he, bind_ok]

end

/-! ## The modes do not count for where an escape ends -/

section

variable {f g : Flags} (hf : f.verbose = false) (hg : g.verbose = false)
include hf hg

theorem fixedHex_flags : ∀ (v k : Nat) (t : Text), fixedHex f v k t = fixedHex g v k t
  | _, 0, _ => rfl
  | _, _ + 1, [] => rfl
  | v, k + 1, c :: t => by
    rw [fixedHex, fixedHex, Flags.skip_eq hf, Flags.skip_eq hg]
    cases hexValue? c with
    | none => rfl
    | some d => exact fixedHex_flags _ k t

theorem bracedHex_flags : ∀ (k : Nat) (ds : List Nat) (t : Text), bracedHex f k ds t = bracedHex g k ds t
  | 0, _, _ => rfl
  | _ + 1, _, [] => rfl
  | k + 1, ds, c :: t => by
    rw [bracedHex, bracedHex, Flags.skip_eq hf, Flags.skip_eq hg]
    cases hexValue? c with
    | none => rfl
    | some d => simp only [bracedHex_flags k]

theorem bracedName_flags : ∀ (k : Nat) (name t : Text), bracedName f k name t = bracedName g k name t
  | 0, _, _ => rfl
  | _ + 1, _, [] => rfl
  | k + 1, name, c :: t => by
    rw [bracedName, bracedName, Flags.skip_eq hf, Flags.skip_eq hg, bracedName_flags k]

theorem boundaryName_flags : ∀ (k : Nat) (name t : Text), boundaryName f k name t = boundaryName g k name t
  | 0, _, _ => rfl
  | _ + 1, _, [] => rfl
  | k + 1, name, c :: t => by
    rw [boundaryName, boundaryName, Flags.skip_eq hf, Flags.skip_eq hg, boundaryName_flags k]

theorem hex_rest {width : Nat} {t u v : Text} {d e : Escape} (h : hex f width t = .ok (d, u))
    (k : hex g width t = .ok (e, v)) : u = v := by
  match t with
  | [] => simp [hex, Flags.skip_eq hf] at h
  | c :: t =>
    by_cases hc : c = '{'
    · subst hc
      rw [hex_brace hf, bracedHex_flags hf hg] at h
      rw [hex_brace hg] at k
      cases h.symm.trans k
      rfl
    · rw [hex_digits hf _ hc, fixedHex_flags hf hg] at h
      rw [hex_digits hg _ hc] at k
      obtain ⟨⟨d', u'⟩, hd, h⟩ := bind_eq_ok.1 h
      obtain ⟨⟨e', v'⟩, he, k⟩ := bind_eq_ok.1 k
      cases hd.symm.trans he
      exact (checkByte_local h).2.1.symm.trans (checkByte_local k).2.1

theorem property_rest {negated : Bool} {t u v : Text} {d e : Escape} (h : property f negated t = .ok (d, u))
    (k : property g negated t = .ok (e, v)) : u = v := by
  match t with
  | [] => simp [property, Flags.skip_eq hf, bind_eq_ok] at h
  | c :: t =>
    by_cases hc : c = '{'
    · subst hc
      rw [property_brace hf, bracedName_flags hf hg] at h
      rw [property_brace hg] at k
      obtain ⟨⟨d', u'⟩, hd, h⟩ := bind_eq_ok.1 h
      obtain ⟨⟨e', v'⟩, he, k⟩ := bind_eq_ok.1 k
      cases hd.symm.trans he
      exact (setNamed_local h).1.symm.trans (setNamed_local k).1
    · by_cases hb : c = '\\'
      · subst hb; simp [property, Flags.skip_eq hf] at h; cases h
      · rw [property_letter hf _ _ hc hb] at h
        rw [property_letter hg _ _ hc hb] at k
        exact (setNamed_local h).1.symm.trans (setNamed_local k).1

theorem boundary_rest {t u v : Text} {d e : Escape} (h : boundary f t = .ok (d, u)) (k : boundary g t = .ok (e, v)) :
    u = v := by
  cases hn : namesBoundary t with
  | false =>
    rw [boundary_plain hf hn] at h
    rw [boundary_plain hg hn] at k
    cases h; cases k; rfl
  | true =>
    unfold namesBoundary at hn
    split at hn
    · simp [boundary, Flags.skip_eq hf] at h
    · rw [boundary_named hf hn, boundaryName_flags hf hg] at h
      rw [boundary_named hg hn] at k
      split at h
      · rename_i rest hr
        simp only [hr] at k
        obtain ⟨_, -, h⟩ := bind_eq_ok.1 h
        obtain ⟨_, -, k⟩ := bind_eq_ok.1 k
        cases h; cases k; rfl
      · cases h
    · cases hn

/-- Where an escape ends does not depend on the modes. -/
theorem read_rest {t u v : Text} {d e : Escape} (h : read f t = .ok (d, u)) (k : read g t = .ok (e, v)) : u = v := by
  match t with
  | [] => cases h
  | c :: t =>
    by_cases hc : c ∈ ['x', 'u', 'U', 'p', 'P', 'b']
    · simp only [List.mem_cons, List.not_mem_nil, or_false] at hc
      rcases hc with rfl | rfl | rfl | rfl | rfl | rfl
      · exact hex_rest hf hg h k
      · exact hex_rest hf hg h k
      · exact hex_rest hf hg h k
      · exact property_rest hf hg h k
      · exact property_rest hf hg h k
      · exact boundary_rest hf hg h k
    · rw [read_single hc] at h k
      obtain ⟨_, -, h⟩ := bind_eq_ok.1 h
      obtain ⟨_, -, k⟩ := bind_eq_ok.1 k
      cases h; cases k; rfl

end

end Escape

end PathRouter.Regex
