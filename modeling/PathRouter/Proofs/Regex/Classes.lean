/-
Reading a bracketed class is local: outside verbose text it takes a row of single characters and of
escaped ones up to the bracket that closes it, and nothing behind that bracket counts. Readers of
parts of a class may look ahead, but never beyond the closing bracket.
-/
import PathRouter.Proofs.Regex.Escapes
import Mathlib.Data.List.TakeWhile

namespace PathRouter.Regex

/-- A row of single characters and of backslashes with the character behind them. -/
inductive Units : Text → Prop
  | nil : Units []
  | single {c : Char} {t : Text} : c ≠ '\\' → Units t → Units (c :: t)
  | escape {c : Char} {t : Text} : Units t → Units ('\\' :: c :: t)

theorem Units.append {t u : Text} (ht : Units t) (hu : Units u) : Units (t ++ u) := by
  induction ht with
  | nil => exact hu
  | single hc _ ih => exact .single hc ih
  | escape _ ih => exact .escape ih

theorem Units.of_forall : ∀ {t : Text}, (∀ c ∈ t, c ≠ '\\') → Units t
  | [], _ => .nil
  | _ :: _, h => .single (h _ List.mem_cons_self) (of_forall fun _ hc => h _ (List.mem_cons_of_mem _ hc))

theorem InertText.units {t : Text} (h : InertText t) : Units t :=
  .of_forall fun c hc => (h c hc).1

/-! ## Looking ahead up to a closing bracket -/

theorem head?_append_cons {α : Type} (x : List α) (c : α) (u w : List α) :
    (x ++ c :: u).head? = (x ++ c :: w).head? := by
  cases x <;> rfl

theorem namesBoundary_append (x u w : Text) : namesBoundary (x ++ ']' :: u) = namesBoundary (x ++ ']' :: w) := by
  match x with
  | [] => rfl
  | [c] => by_cases hc : c = '{' <;> simp [namesBoundary, hc]
  | c :: d :: x => by_cases hc : c = '{' <;> simp [namesBoundary, hc]

/-- Where a part without closing brackets ends at one, the other division of the text goes on behind
that bracket, or ends there as well. -/
theorem append_bracket_cases {m x u w : Text} (hm : ∀ c ∈ m, c ≠ ']') (h : m ++ ']' :: w = x ++ ']' :: u) :
    (x = m ∧ w = u) ∨ ∃ y, x = m ++ ']' :: y ∧ w = y ++ ']' :: u := by
  rcases List.append_eq_append_iff.1 h with ⟨y, rfl, hy⟩ | ⟨y, rfl, hy⟩
  · cases y with
    | nil => cases hy; exact .inl ⟨List.append_nil m, rfl⟩
    | cons c y => cases hy; exact .inr ⟨y, rfl, rfl⟩
  · cases y with
    | nil => cases hy; exact .inl ⟨(List.append_nil x).symm, rfl⟩
    | cons c y =>
      cases hy
      exact absurd rfl (hm ']' (List.mem_append_right x List.mem_cons_self))

namespace ClassPart

/-! ## Named classes -/

/-- A named class in the text after its colon and the mark of its complement. -/
def namedTail (f : Flags) (negated : Bool) (t : Text) : Option (Except PatternError ClassPart × Text) :=
  match t.dropWhile (· != ':') with
  | ':' :: ']' :: rest =>
    (ascii? (t.takeWhile (· != ':'))).map fun s =>
      ((if negated then f.complement (f.foldCase s) else .ok (f.foldCase s)).map flat, rest)
  | _ => none

theorem namedAscii?_negated (f : Flags) (t : Text) : namedAscii? f (':' :: '^' :: t) = namedTail f true t := rfl

theorem namedAscii?_plain (f : Flags) {t : Text} (h : t.head? ≠ some '^') :
    namedAscii? f (':' :: t) = namedTail f false t := by
  have hmark : ∀ u, t ≠ '^' :: u := fun u hu => h (congrArg List.head? hu)
  rw [namedAscii?]
  · rfl
  · exact hmark

theorem namedTail_local {f : Flags} {negated : Bool} {t u : Text} {r : Except PatternError ClassPart}
    (h : namedTail f negated t = some (r, u)) :
    ∃ name, t = name ++ ':' :: ']' :: u ∧ (∀ c ∈ name, c.isAlpha = true) ∧
      ∀ w, namedTail f negated (name ++ ':' :: ']' :: w) = some (r, w) := by
  unfold namedTail at h
  split at h
  · rename_i rest hr
    obtain ⟨s, hs, he⟩ := Option.map_eq_some_iff.1 h
    cases he
    have hname := inert_of_ascii? hs
    have hcolon : ∀ c ∈ t.takeWhile (· != ':'), (c != ':') = true := fun c hc =>
      List.mem_takeWhile_imp (p := (· != ':')) hc
    refine ⟨t.takeWhile (· != ':'), ?_, hname, fun w => ?_⟩
    · rw [← hr, List.takeWhile_append_dropWhile]
    · unfold namedTail
      rw [List.dropWhile_append_of_pos hcolon, List.takeWhile_append_of_pos hcolon]
      simp [hs]
  · cases h

/-- A named class ends at its first closing bracket. -/
theorem namedAscii?_local {f : Flags} {t u : Text} {r : Except PatternError ClassPart}
    (h : namedAscii? f t = some (r, u)) :
    ∃ m, t = m ++ ']' :: u ∧ (∀ c ∈ m, c ≠ ']' ∧ c ≠ '\\') ∧ ∀ w, namedAscii? f (m ++ ']' :: w) = some (r, w) := by
  have letters : ∀ {name : Text}, (∀ c ∈ name, c.isAlpha = true) → ∀ c ∈ name ++ [':'], c ≠ ']' ∧ c ≠ '\\' := by
    intro name hn c hc
    rcases List.mem_append.1 hc with hc | hc
    · exact ⟨(inert_of_isAlpha (hn c hc)).2.2.1, (inert_of_isAlpha (hn c hc)).1⟩
    · rw [List.mem_singleton.1 hc]; decide
  match t with
  | [] => cases h
  | c :: t =>
    by_cases hc : c = ':'
    · subst hc
      by_cases ht : t.head? = some '^'
      · match t with
        | d :: t =>
          cases ht
          rw [namedAscii?_negated] at h
          obtain ⟨name, rfl, hn, hw⟩ := namedTail_local h
          refine ⟨':' :: '^' :: (name ++ [':']), by simp, ?_, fun w => ?_⟩
          · rw [List.forall_mem_cons, List.forall_mem_cons]
            exact ⟨by decide, by decide, letters hn⟩
          · have := hw w
            rw [← namedAscii?_negated] at this
            simpa using this
      · rw [namedAscii?_plain f ht] at h
        obtain ⟨name, rfl, hn, hw⟩ := namedTail_local h
        refine ⟨':' :: (name ++ [':']), by simp, List.forall_mem_cons.2 ⟨by decide, letters hn⟩, fun w => ?_⟩
        have := hw w
        rw [← namedAscii?_plain f (by rw [head?_append_cons name ':' _ (']' :: u)]; exact ht)] at this
        simpa using this
    · unfold namedAscii? at h
      split at h
      · rename_i he; cases he; exact absurd rfl hc
      · cases h

/-- What is no named class up to a closing bracket is none before any text. -/
theorem namedAscii?_none {f : Flags} {x u : Text} (h : namedAscii? f (x ++ ']' :: u) = none) (w : Text) :
    namedAscii? f (x ++ ']' :: w) = none := by
  cases hn : namedAscii? f (x ++ ']' :: w) with
  | none => rfl
  | some r =>
    obtain ⟨m, hm, hi, hw⟩ := namedAscii?_local (u := r.2) hn
    rcases append_bracket_cases (fun c hc => (hi c hc).1) hm.symm with ⟨rfl, -⟩ | ⟨y, rfl, -⟩
    · rw [hw u] at h; cases h
    · rw [List.append_assoc, List.cons_append, hw] at h; cases h

section

variable {f : Flags} (hf : f.verbose = false)
include hf

/-! ## Members and ranges -/

theorem member_local {t u : Text} {e : Escape} (h : member f t = .ok (e, u)) :
    ∃ m, Units m ∧ m ≠ [] ∧ t = m ++ u ∧
      ∀ w, (namesBoundary u = false → namesBoundary w = false) → member f (m ++ w) = .ok (e, w) := by
  match t with
  | [] => cases h
  | c :: t =>
    by_cases hc : c = '\\'
    · subst hc
      obtain ⟨d, m, rfl, hm, hw⟩ := Escape.read_local hf h
      exact ⟨'\\' :: d :: m, .escape hm.units, List.cons_ne_nil _ _, rfl, hw⟩
    · have hl : ∀ w, member f (c :: w) = .ok (.literal c, w) := fun w => by simp [member]
      rw [hl] at h
      cases h
      exact ⟨[c], .single hc .nil, List.cons_ne_nil _ _, rfl, fun w _ => hl w⟩

/-- The range between two members, if both are characters. -/
def rangeOf (f : Flags) (first second : Escape) : Except PatternError ClassPart :=
  match first, second with
  | .literal lo, .literal hi =>
    if !f.unicode && (128 ≤ lo.val || 128 ≤ hi.val) then .error .notCharacters
    else if lo ≤ hi then .ok (flat (CharSet.range lo hi)) else .error .classRange
  | _, _ => .error .classRange

/-- Whether a hyphen with the text behind it makes a range. -/
def ranges (t : Text) : Bool :=
  t.head? != some ']' && t.head? != some '-'

/-- What a member makes with the text behind it. -/
def afterMember (f : Flags) (first : Escape) (t : Text) : Except PatternError (ClassPart × Text) :=
  match t with
  | [] => .error .classUnclosed
  | c :: u =>
    if c = '-' ∧ ranges u = true then
      member f u >>= fun r => rangeOf f first r.1 >>= fun p => .ok (p, r.2)
    else ofMember f first >>= fun p => .ok (p, c :: u)

theorem memberOrRange_eq (t : Text) :
    memberOrRange f t = member f t >>= fun r => afterMember f r.1 r.2 := by
  unfold memberOrRange
  cases member f t with
  | error e => rfl
  | ok r =>
    obtain ⟨first, t⟩ := r
    have ahead : ∀ u, afterHyphen f u = u.head? := fun u => if_neg (by simp [hf])
    simp only [bind_ok, Flags.skip_eq hf, ahead]
    cases t with
    | nil => rfl
    | cons c u =>
      simp only [afterMember]
      by_cases hc : c = '-'
      · subst hc
        cases u with
        | nil => simp [ranges, member]; rfl
        | cons d v =>
          by_cases hr : ranges (d :: v) = true
          · have hd : d ≠ ']' ∧ d ≠ '-' := by simpa [ranges] using hr
            simp only [hr, and_self, if_true, List.head?_cons, bne_self_eq_false, Bool.false_or]
            rw [if_neg (by simp [hd])]
            refine congrArg _ (funext fun r => ?_)
            obtain ⟨second, rest⟩ := r
            cases first <;> cases second <;> simp only [rangeOf] <;> first | rfl | skip
            split
            · rfl
            · split <;> rfl
          · have hd : d = ']' ∨ d = '-' := by
              simpa [ranges, ← not_and_or, Classical.or_iff_not_imp_left] using hr
            rw [List.head?_cons, if_pos (by rcases hd with rfl | rfl <;> rfl), if_neg fun h => hr h.2]
            rfl
      · simp only [hc, false_and, if_false]
        rw [if_pos (by simp [hc])]
        rfl

omit hf in
theorem ranges_append (x u w : Text) : ranges (x ++ ']' :: u) = ranges (x ++ ']' :: w) := by
  rw [ranges, head?_append_cons x ']' u w, ranges]

theorem afterMember_local {first : Escape} {t rest : Text} {part : ClassPart}
    (h : afterMember f first t = .ok (part, rest)) :
    ∃ m, Units m ∧ t = m ++ rest ∧ ∀ x u w, rest = x ++ ']' :: u →
      afterMember f first (m ++ (x ++ ']' :: w)) = .ok (part, x ++ ']' :: w) := by
  match t with
  | [] => cases h
  | c :: t =>
    rw [afterMember] at h
    split at h
    · rename_i hc
      obtain ⟨rfl, hr⟩ := hc
      obtain ⟨⟨second, v⟩, hs, h⟩ := bind_eq_ok.1 h
      obtain ⟨p, hp, h⟩ := bind_eq_ok.1 h
      cases h
      obtain ⟨m, hm, hne, rfl, hw⟩ := member_local hf hs
      refine ⟨'-' :: m, .single (by decide) hm, rfl, fun x u w hx => ?_⟩
      have hr' : ranges (m ++ (x ++ ']' :: w)) = true := by
        cases m with
        | nil => exact absurd rfl hne
        | cons d m => exact hr
      rw [List.cons_append, afterMember, if_pos ⟨rfl, hr'⟩, hw, bind_ok, hp, bind_ok]
      subst hx
      rw [namesBoundary_append x u w]
      exact id
    · rename_i hc
      obtain ⟨p, hp, h⟩ := bind_eq_ok.1 h
      cases h
      refine ⟨[], .nil, rfl, fun x u w hx => ?_⟩
      match x with
      | [] => rw [List.nil_append, List.nil_append, afterMember, if_neg fun h => absurd h.1 (by decide), hp, bind_ok]
      | d :: x =>
        cases hx
        replace hc : ¬(c = '-' ∧ ranges (x ++ ']' :: u) = true) := hc
        rw [ranges_append x u w] at hc
        rw [List.nil_append, List.cons_append, afterMember, if_neg hc, hp, bind_ok]

theorem memberOrRange_local {t rest : Text} {part : ClassPart} (h : memberOrRange f t = .ok (part, rest)) :
    ∃ m, Units m ∧ m ≠ [] ∧ t = m ++ rest ∧ ∀ x u w, rest = x ++ ']' :: u →
      memberOrRange f (m ++ (x ++ ']' :: w)) = .ok (part, x ++ ']' :: w) := by
  rw [memberOrRange_eq hf] at h
  obtain ⟨⟨first, v⟩, hfirst, hafter⟩ := bind_eq_ok.1 h
  obtain ⟨m, hm, hne, rfl, hw⟩ := member_local hf hfirst
  obtain ⟨m', hm', rfl, hw'⟩ := afterMember_local hf hafter
  refine ⟨m ++ m', hm.append hm', by simp [hne], by simp, fun x u w hx => ?_⟩
  rw [memberOrRange_eq hf, List.append_assoc, hw, bind_ok]
  · exact hw' x u w hx
  · subst hx
    rw [← List.append_assoc, namesBoundary_append _ u w, List.append_assoc]
    exact id

/-! ## The beginning of a class -/

theorem openingHyphens_eq : ∀ {k : Nat} {parts : List ClassPart} {t : Text}, t.length ≤ k →
    openingHyphens f k parts t = (List.replicate (t.takeWhile (· == '-')).length (flat (CharSet.single '-')) ++ parts,
      t.dropWhile (· == '-'))
  | 0, parts, t, h => by
    obtain rfl := List.length_eq_zero_iff.1 (Nat.le_zero.1 h)
    rfl
  | k + 1, parts, [], _ => rfl
  | k + 1, parts, c :: t, h => by
    by_cases hc : c = '-'
    · subst hc
      rw [openingHyphens, Flags.skip_eq hf, openingHyphens_eq (Nat.le_of_succ_le_succ h)]
      simp [List.replicate_succ']
    · simp [openingHyphens, hc]

/-- The beginning of a class behind the mark of its complement. -/
def openTail (negated : Bool) : Text → Except PatternError (OpenClass × Text)
  | ']' :: t => if t.isEmpty then .error .classUnclosed else .ok (⟨negated, none, [flat (CharSet.single ']')]⟩, t)
  | t =>
    let hyphens := List.replicate (t.takeWhile (· == '-')).length (flat (CharSet.single '-'))
    let t := t.dropWhile (· == '-')
    if t.isEmpty then .error .classUnclosed else .ok (⟨negated, none, hyphens⟩, t)

theorem openClass_caret (t : Text) : openClass f ('^' :: t) = openTail true t := by
  unfold openClass
  simp only [Flags.skip_eq hf, openingHyphens_eq hf (Nat.le_refl _), List.append_nil]
  match t with
  | [] => rfl
  | c :: t =>
    by_cases hc : c = ']'
    · subst hc; rfl
    · by_cases hd : c = '-'
      · subst hd; rfl
      · simp [openTail, hc, hd]

theorem openClass_plain {t : Text} (h : t.head? ≠ some '^') : openClass f t = openTail false t := by
  unfold openClass
  match t with
  | [] => simp only [Flags.skip_eq hf]; rfl
  | c :: t =>
    have hc : c ≠ '^' := fun hc => h (congrArg some hc)
    have hyphens : openingHyphens f (t.length + 1) [] (c :: t) = _ := openingHyphens_eq hf (Nat.le_refl _)
    by_cases hb : c = ']'
    · subst hb; simp only [Flags.skip_eq hf]; rfl
    · by_cases hd : c = '-'
      · subst hd; simp [Flags.skip_eq hf, hyphens, openTail, List.replicate_succ]
      · simp [Flags.skip_eq hf, hyphens, openTail, hc, hb, hd]

omit hf in
theorem openTail_hyphens (negated : Bool) {t : Text} (h : t.head? ≠ some ']') :
    openTail negated t = if (t.dropWhile (· == '-')).isEmpty then .error .classUnclosed
      else .ok (⟨negated, none, List.replicate (t.takeWhile (· == '-')).length (flat (CharSet.single '-'))⟩,
        t.dropWhile (· == '-')) := by
  unfold openTail
  split
  · exact absurd rfl h
  · rfl

omit hf in
theorem openTail_local {negated : Bool} {t rest : Text} {o : OpenClass} (h : openTail negated t = .ok (o, rest)) :
    ∃ m, Units m ∧ t = m ++ rest ∧ rest ≠ [] ∧
      ∀ w, w.head? = rest.head? → openTail negated (m ++ w) = .ok (o, w) := by
  by_cases hb : t.head? = some ']'
  · match t with
    | c :: t =>
      cases hb
      rw [openTail] at h
      split at h
      · cases h
      · rename_i hu
        cases h
        refine ⟨[']'], .single (by decide) .nil, rfl, by simpa using hu, fun w hw => ?_⟩
        cases w with
        | nil => exact absurd (List.head?_eq_none_iff.1 hw.symm) (by simpa using hu)
        | cons => rfl
  · rw [openTail_hyphens negated hb] at h
    split at h
    · cases h
    · rename_i hu
      have hyphen : ∀ c ∈ t.takeWhile (· == '-'), (c == '-') = true := fun c hc =>
        List.mem_takeWhile_imp (p := (· == '-')) hc
      obtain ⟨d, u, hdu⟩ := List.exists_cons_of_ne_nil (show t.dropWhile (· == '-') ≠ [] by simpa using hu)
      have hd : (d == '-') = false := by
        have := List.head?_dropWhile_not (p := (· == '-')) t
        rw [hdu] at this
        simpa using this
      have ht := List.takeWhile_append_dropWhile (p := (· == '-')) (l := t)
      cases h
      refine ⟨t.takeWhile (· == '-'), .of_forall fun c hc => ?_, ht.symm, by simp [hdu], fun w hw => ?_⟩
      · rw [beq_iff_eq.1 (hyphen c hc)]; decide
      · rw [hdu] at hw
        obtain ⟨w, rfl⟩ : ∃ w', w = d :: w' := by cases w with
          | nil => cases hw
          | cons e w => cases hw; exact ⟨w, rfl⟩
        have hd' : (t.takeWhile (· == '-') ++ d :: w).head? ≠ some ']' := by
          rw [head?_append_cons _ d w u, ← hdu, ht]
          exact hb
        rw [openTail_hyphens negated hd', List.dropWhile_append_of_pos hyphen, List.takeWhile_append_of_pos hyphen,
          List.dropWhile_cons, List.takeWhile_cons, hd]
        simp

theorem openClass_local {t rest : Text} {o : OpenClass} (h : openClass f t = .ok (o, rest)) :
    ∃ m, Units m ∧ t = m ++ rest ∧ rest ≠ [] ∧
      ∀ w, w.head? = rest.head? → openClass f (m ++ w) = .ok (o, w) := by
  by_cases hc : t.head? = some '^'
  · match t with
    | c :: t =>
      cases hc
      rw [openClass_caret hf] at h
      obtain ⟨m, hm, rfl, hne, hw⟩ := openTail_local h
      refine ⟨'^' :: m, .single (by decide) hm, rfl, hne, fun w hr => ?_⟩
      rw [List.cons_append, openClass_caret hf, hw w hr]
  · rw [openClass_plain hf hc] at h
    obtain ⟨m, hm, rfl, hne, hw⟩ := openTail_local h
    refine ⟨m, hm, rfl, hne, fun w hr => ?_⟩
    rw [openClass_plain hf, hw w hr]
    cases m with
    | nil => rw [List.nil_append, hr]; exact hc
    | cons => exact hc

/-! ## Whole classes -/

/-- Whether a character with the one behind it is an operation. -/
def operates (c : Char) (next : Option Char) : Prop :=
  (c = '&' ∨ c = '-' ∨ c = '~') ∧ next = some c

/-- The operation that a doubled character is. -/
def opOf (c : Char) : ClassOp :=
  if c = '&' then .inter else if c = '-' then .diff else .symmDiff

variable {k : Nat} {o : OpenClass} {outer : List OpenClass} {u : Text}

theorem readOpen_open : readOpen f (k + 1) o outer ('[' :: u) = match namedAscii? f u with
    | some (part, rest) => part >>= fun p => readOpen f k (o.add p) outer rest
    | none => openClass f u >>= fun r => readOpen f k r.1 (o :: outer) r.2 := by
  cases h : namedAscii? f u <;> simp only [readOpen, Flags.skip_eq hf, h]

theorem readOpen_close : readOpen f (k + 1) o outer (']' :: u) = o.close f >>= fun part => match outer with
    | [] => .ok (part, u)
    | p :: outer => readOpen f k (p.add part) outer u := by
  simp only [readOpen, Flags.skip_eq hf]
  cases outer <;> rfl

theorem readOpen_op {c : Char} (h : operates c u.head?) :
    readOpen f (k + 1) o outer (c :: u) = readOpen f k (o.operate f (opOf c)) outer u.tail := by
  obtain ⟨hc, hu⟩ := h
  match u with
  | d :: u =>
    cases hu
    rcases hc with rfl | rfl | rfl <;> simp only [readOpen, Flags.skip_eq hf] <;> rfl

theorem readOpen_member {c : Char} (hopen : c ≠ '[') (hclose : c ≠ ']') (hop : ¬ operates c u.head?) :
    readOpen f (k + 1) o outer (c :: u) = memberOrRange f (c :: u) >>= fun r => readOpen f k (o.add r.1) outer r.2 := by
  simp only [readOpen, Flags.skip_eq hf]
  split
  case h_1 he => cases he
  case h_2 he => cases he; exact absurd rfl hopen
  case h_3 he => cases he; exact absurd rfl hclose
  case h_4 he => cases he; exact absurd ⟨by decide, rfl⟩ hop
  case h_5 he => cases he; exact absurd ⟨by decide, rfl⟩ hop
  case h_6 he => cases he; exact absurd ⟨by decide, rfl⟩ hop
  case h_7 => rfl

/-- A class that is open is a row of units up to the bracket that closes it. -/
theorem readOpen_local : ∀ {k : Nat} {o : OpenClass} {outer : List OpenClass} {t u : Text} {p : ClassPart},
    readOpen f k o outer t = .ok (p, u) →
      ∃ us, Units us ∧ t = us ++ ']' :: u ∧
        ∀ w j, us.length < j → readOpen f j o outer (us ++ ']' :: w) = .ok (p, w)
  | 0, _, _, _, _, _, h => by cases h
  | k + 1, o, outer, [], u, p, h => by simp only [readOpen, Flags.skip_eq hf] at h; cases h
  | k + 1, o, outer, c :: t, u, p, h => by
    by_cases hopen : c = '['
    · subst hopen
      rw [readOpen_open hf] at h
      cases hn : namedAscii? f t with
      | some r =>
        obtain ⟨part, rest⟩ := r
        simp only [hn] at h
        obtain ⟨q, hq, h⟩ := bind_eq_ok.1 h
        obtain ⟨us, hus, rfl, hw⟩ := readOpen_local h
        obtain ⟨m, rfl, hm, hnamed⟩ := namedAscii?_local hn
        refine ⟨'[' :: (m ++ ']' :: us), .single (by decide) ((Units.of_forall fun c hc => (hm c hc).2).append
          (.single (by decide) hus)), by simp, fun w j hj => ?_⟩
        obtain ⟨j, rfl⟩ := Nat.exists_eq_add_of_lt hj
        rw [List.cons_append, List.append_assoc, List.cons_append, readOpen_open hf, hnamed]
        simp only [hq, bind_ok]
        exact hw w _ (by simp; omega)
      | none =>
        simp only [hn] at h
        obtain ⟨⟨inner, rest⟩, hinner, h⟩ := bind_eq_ok.1 h
        obtain ⟨us, hus, hr, hw⟩ := readOpen_local h
        dsimp only at hr
        obtain ⟨m, hm, rfl, -, hopen⟩ := openClass_local hf hinner
        subst hr
        refine ⟨'[' :: (m ++ us), .single (by decide) (hm.append hus), by simp, fun w j hj => ?_⟩
        obtain ⟨j, rfl⟩ := Nat.exists_eq_add_of_lt hj
        rw [← List.append_assoc] at hn
        have hn' := namedAscii?_none hn w
        rw [List.cons_append, readOpen_open hf, hn']
        simp only
        rw [List.append_assoc, hopen _ (head?_append_cons us ']' w u), bind_ok]
        exact hw w _ (by simp; omega)
    · by_cases hclose : c = ']'
      · subst hclose
        rw [readOpen_close hf] at h
        obtain ⟨part, hpart, h⟩ := bind_eq_ok.1 h
        cases outer with
        | nil =>
          cases h
          refine ⟨[], .nil, rfl, fun w j hj => ?_⟩
          obtain ⟨j, rfl⟩ := Nat.exists_eq_add_of_lt hj
          rw [List.nil_append, readOpen_close hf, hpart, bind_ok]
        | cons q outer =>
          obtain ⟨us, hus, rfl, hw⟩ := readOpen_local h
          refine ⟨']' :: us, .single (by decide) hus, rfl, fun w j hj => ?_⟩
          obtain ⟨j, rfl⟩ := Nat.exists_eq_add_of_lt hj
          rw [List.cons_append, readOpen_close hf, hpart, bind_ok]
          exact hw w _ (by simp; omega)
      · by_cases hop : operates c t.head?
        · rw [readOpen_op hf hop] at h
          obtain ⟨us, hus, ht, hw⟩ := readOpen_local h
          match t with
          | d :: t =>
            obtain ⟨hc, hd⟩ := hop
            cases hd
            dsimp only [List.tail_cons] at ht
            subst ht
            have hb : c ≠ '\\' := by rcases hc with rfl | rfl | rfl <;> decide
            refine ⟨c :: c :: us, .single hb (.single hb hus), rfl, fun w j hj => ?_⟩
            obtain ⟨j, rfl⟩ := Nat.exists_eq_add_of_lt hj
            rw [List.cons_append, List.cons_append, readOpen_op hf ⟨hc, rfl⟩]
            exact hw w _ (by simp; omega)
        · rw [readOpen_member hf hopen hclose hop] at h
          obtain ⟨⟨part, rest⟩, hpart, h⟩ := bind_eq_ok.1 h
          obtain ⟨us, hus, hr, hw⟩ := readOpen_local h
          dsimp only at hr
          obtain ⟨m, hm, hne, ht, hmem⟩ := memberOrRange_local hf hpart
          match m with
          | d :: m =>
            cases ht
            subst hr
            refine ⟨c :: m ++ us, hm.append hus, by simp, fun w j hj => ?_⟩
            obtain ⟨j, rfl⟩ := Nat.exists_eq_add_of_lt hj
            have hop' : ¬ operates c (m ++ us ++ ']' :: w).head? := by
              rw [head?_append_cons _ ']' w u, List.append_assoc]
              exact hop
            rw [List.cons_append, List.cons_append, readOpen_member hf hopen hclose hop', List.append_assoc,
              ← List.cons_append, hmem us u w rfl, bind_ok]
            exact hw w _ (by simp; omega)

theorem read_local {t u : Text} {p : ClassPart} (h : read f t = .ok (p, u)) :
    ∃ us, Units us ∧ t = us ++ ']' :: u ∧ ∀ w, read f (us ++ ']' :: w) = .ok (p, w) := by
  obtain ⟨⟨o, rest⟩, ho, h⟩ := bind_eq_ok.1 h
  obtain ⟨m, hm, rfl, -, hopen⟩ := openClass_local hf ho
  obtain ⟨us, hus, rfl, hw⟩ := readOpen_local hf h
  refine ⟨m ++ us, hm.append hus, by simp, fun w => ?_⟩
  rw [read, List.append_assoc, hopen _ (head?_append_cons us ']' w u), bind_ok]
  exact hw w _ (by simp; omega)

end

/-! ## The modes do not count for where a class ends -/

section

variable {f g : Flags} (hf : f.verbose = false) (hg : g.verbose = false)

theorem namedAscii?_rest (f g : Flags) (t : Text) :
    (namedAscii? f t).map Prod.snd = (namedAscii? g t).map Prod.snd := by
  unfold namedAscii?
  split
  · dsimp only
    split
    · rw [Option.map_map, Option.map_map]; rfl
    · rfl
  · rfl

include hf hg

theorem openClass_flags (t : Text) : openClass f t = openClass g t := by
  by_cases hc : t.head? = some '^'
  · match t with
    | c :: t =>
      cases hc
      rw [openClass_caret hf, openClass_caret hg]
  · rw [openClass_plain hf hc, openClass_plain hg hc]

theorem member_rest {t u v : Text} {d e : Escape} (h : member f t = .ok (d, u)) (k : member g t = .ok (e, v)) :
    u = v := by
  match t with
  | [] => cases h
  | c :: t =>
    by_cases hc : c = '\\'
    · subst hc
      exact Escape.read_rest hf hg h k
    · simp only [member] at h k
      cases h; cases k; rfl

theorem memberOrRange_rest {t u v : Text} {p q : ClassPart} (h : memberOrRange f t = .ok (p, u))
    (k : memberOrRange g t = .ok (q, v)) : u = v := by
  rw [memberOrRange_eq hf] at h
  rw [memberOrRange_eq hg] at k
  obtain ⟨⟨d, u'⟩, hd, h⟩ := bind_eq_ok.1 h
  obtain ⟨⟨e, v'⟩, he, k⟩ := bind_eq_ok.1 k
  obtain rfl := member_rest hf hg hd he
  match u' with
  | [] => cases h
  | c :: t =>
    simp only [afterMember] at h k
    split at h
    · rename_i hc
      rw [if_pos hc] at k
      obtain ⟨⟨_, u'⟩, hu, h⟩ := bind_eq_ok.1 h
      obtain ⟨⟨_, v'⟩, hv, k⟩ := bind_eq_ok.1 k
      obtain rfl := member_rest hf hg hu hv
      obtain ⟨_, -, h⟩ := bind_eq_ok.1 h
      obtain ⟨_, -, k⟩ := bind_eq_ok.1 k
      cases h; cases k; rfl
    · rename_i hc
      rw [if_neg hc] at k
      obtain ⟨_, -, h⟩ := bind_eq_ok.1 h
      obtain ⟨_, -, k⟩ := bind_eq_ok.1 k
      cases h; cases k; rfl

theorem readOpen_rest : ∀ {i j : Nat} {o o' : OpenClass} {outer outer' : List OpenClass} {t u v : Text}
    {p q : ClassPart},
    outer.length = outer'.length → readOpen f i o outer t = .ok (p, u) → readOpen g j o' outer' t = .ok (q, v) → u = v
  | 0, _, _, _, _, _, _, _, _, _, _, _, h, _ => by cases h
  | _ + 1, 0, _, _, _, _, _, _, _, _, _, _, _, k => by cases k
  | i + 1, j + 1, o, o', outer, outer', [], u, v, p, q, _, h, _ => by
    simp only [readOpen, Flags.skip_eq hf] at h; cases h
  | i + 1, j + 1, o, o', outer, outer', c :: t, u, v, p, q, hl, h, k => by
    by_cases hopen : c = '['
    · subst hopen
      rw [readOpen_open hf] at h
      rw [readOpen_open hg] at k
      have hn := namedAscii?_rest f g t
      cases hm : namedAscii? f t with
      | some r =>
        cases hm' : namedAscii? g t with
        | some r' =>
          rw [hm, hm'] at hn
          simp only [hm] at h
          simp only [hm'] at k
          obtain ⟨_, -, h⟩ := bind_eq_ok.1 h
          obtain ⟨_, -, k⟩ := bind_eq_ok.1 k
          rw [show r.2 = r'.2 from Option.some.inj hn] at h
          exact readOpen_rest hl h k
        | none => rw [hm, hm'] at hn; cases hn
      | none =>
        cases hm' : namedAscii? g t with
        | some r' => rw [hm, hm'] at hn; cases hn
        | none =>
          simp only [hm, openClass_flags hf hg] at h
          simp only [hm'] at k
          obtain ⟨r, hr, h⟩ := bind_eq_ok.1 h
          obtain ⟨r', hr', k⟩ := bind_eq_ok.1 k
          cases hr.symm.trans hr'
          exact readOpen_rest (by simpa using hl) h k
    · by_cases hclose : c = ']'
      · subst hclose
        rw [readOpen_close hf] at h
        rw [readOpen_close hg] at k
        obtain ⟨_, -, h⟩ := bind_eq_ok.1 h
        obtain ⟨_, -, k⟩ := bind_eq_ok.1 k
        match outer, outer' with
        | [], [] => cases h; cases k; rfl
        | [], _ :: _ => cases hl
        | _ :: _, [] => cases hl
        | _ :: outer, _ :: outer' => exact readOpen_rest (by simpa using hl) h k
      · by_cases hop : operates c t.head?
        · rw [readOpen_op hf hop] at h
          rw [readOpen_op hg hop] at k
          exact readOpen_rest hl h k
        · rw [readOpen_member hf hopen hclose hop] at h
          rw [readOpen_member hg hopen hclose hop] at k
          obtain ⟨⟨_, u'⟩, hu, h⟩ := bind_eq_ok.1 h
          obtain ⟨⟨_, v'⟩, hv, k⟩ := bind_eq_ok.1 k
          obtain rfl := memberOrRange_rest hf hg hu hv
          exact readOpen_rest hl h k

theorem read_rest {t u v : Text} {p q : ClassPart} (h : read f t = .ok (p, u)) (k : read g t = .ok (q, v)) :
    u = v := by
  obtain ⟨r, hr, h⟩ := bind_eq_ok.1 h
  obtain ⟨r', hr', k⟩ := bind_eq_ok.1 k
  rw [openClass_flags hf hg, hr'] at hr
  cases hr
  exact readOpen_rest hf hg rfl h k

end

end ClassPart

end PathRouter.Regex
