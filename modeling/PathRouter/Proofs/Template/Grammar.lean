/-
The grammar of parameters (`Param.Written`), said without a scan: the name is the longest that can be one, parentheses
behind it are closed by counting, and of what is left the text before the first dot says whether the parameter is
optional. Parameters are read by this grammar, and no text is written for two of them (`Param.written_iff`).
-/
import Mathlib
import PathRouter.Template.Segment

namespace PathRouter.Param

/-! ## The grammar -/

/-- A text without the characters that end a name. -/
def NameText (t : Text) : Prop := ∀ c ∈ t, c ≠ '(' ∧ c ≠ '?' ∧ c ≠ '.'

/-- The longest start of a text that can be a name. -/
structure LongestName (body name : Text) : Prop where
  start : name <+: body
  text : NameText name
  longest : ∀ n, n <+: body → NameText n → n.length ≤ name.length

/-- A text in which every closing parenthesis closes an opening one, and none is left open. They are only counted:
escapes and classes do not matter. -/
structure Balanced (t : Text) : Prop where
  closes : ∀ u, u <+: t → u.count ')' ≤ u.count '('
  even : t.count ')' = t.count '('

/-- What the text behind name and matcher says: from its first dot on it is the suffix, and a question mark before that
makes the parameter optional. -/
def Modifies (tail : Text) (p : Param) : Prop :=
  ∃ before suffix, tail = before ++ suffix ∧ '.' ∉ before ∧ (p.optional = true ↔ '?' ∈ before) ∧
    (suffix = [] ∧ p.suffix = none ∨ suffix.head? = some '.' ∧ p.suffix = some suffix)

/-- What the text behind the name says: it has no parentheses, or they are closed, or they never are. -/
inductive Follows (tail : Text) (p : Param) : Prop
  | plain : tail.head? ≠ some '(' → p.matcher = none → Modifies tail p → Follows tail p
  | closed (inside behind : Text) : tail = '(' :: (inside ++ ')' :: behind) → Balanced inside →
      p.matcher = some inside →
      Modifies behind p → Follows tail p
  | unclosed (rest : Text) : tail = '(' :: rest →
      (∀ inside behind, rest = inside ++ ')' :: behind → ¬ Balanced inside) →
      p.matcher = some rest → p.optional = false → p.suffix = none → Follows tail p

/-- The text is that of the parameter. -/
structure Written (body : Text) (p : Param) : Prop where
  name : LongestName body p.name
  follows : ∃ tail, body = p.name ++ tail ∧ Follows tail p

/-! ## Names -/

theorem endsName_iff {c : Char} : endsName c = true ↔ c = '(' ∨ c = '?' ∨ c = '.' := by
  simp [endsName, or_assoc]

theorem NameText.endsName {t : Text} (h : NameText t) {c : Char} (hc : c ∈ t) : endsName c = false := by
  obtain ⟨h₁, h₂, h₃⟩ := h c hc
  rw [← Bool.not_eq_true, endsName_iff]
  rintro (rfl | rfl | rfl)
  exacts [h₁ rfl, h₂ rfl, h₃ rfl]

/-- The text does not go on with a character of a name. -/
def Ends (t : Text) : Prop := ∀ c, t.head? = some c → endsName c = true

theorem exists_name (body : Text) : ∃ name tail, body = name ++ tail ∧ NameText name ∧ Ends tail := by
  refine ⟨body.takeWhile (!endsName ·), body.dropWhile (!endsName ·),
    List.takeWhile_append_dropWhile.symm, fun c hc => ?_,
    fun c hc => ?_⟩
  · have h := List.mem_takeWhile_imp hc
    refine ⟨?_, ?_, ?_⟩ <;> rintro rfl <;> cases h
  · have h := List.head?_dropWhile_not (!endsName ·) body
    rw [hc] at h
    simpa using h

variable {name tail rest inside : Text} {p : Param}

/-- No longer start of the text can be a name. -/
theorem length_le_of_ends (hend : Ends tail) {n : Text} (hn : n <+: name ++ tail) (htext : NameText n) :
    n.length ≤ name.length := by
  by_contra hlt
  obtain ⟨more, rfl⟩ := List.prefix_of_prefix_length_le (List.prefix_append name tail) hn (by omega)
  cases more with
  | nil => simp at hlt
  | cons c more =>
    obtain ⟨u, rfl⟩ := (List.prefix_append_right_inj name).1 hn
    have hc := htext.endsName (List.mem_append_right name List.mem_cons_self)
    rw [hend c rfl] at hc
    cases hc

theorem longestName_iff (hname : NameText name) (hend : Ends tail) {n : Text} :
    LongestName (name ++ tail) n ↔ n = name := by
  constructor
  · intro h
    have hle := h.longest name (List.prefix_append name tail) hname
    have hge := length_le_of_ends hend h.start h.text
    have hsame := List.prefix_of_prefix_length_le h.start (List.prefix_append name tail) hge
    exact hsame.eq_of_length (Nat.le_antisymm hge hle)
  · rintro rfl
    exact ⟨List.prefix_append n tail, hname, fun m hm htext => length_le_of_ends hend hm htext⟩

theorem takeWhile_name (hname : NameText name) (hend : Ends tail) : (name ++ tail).takeWhile (!endsName ·) = name ∧
    (name ++ tail).dropWhile (!endsName ·) = tail := by
  have hall : ∀ c ∈ name, (!endsName c) = true := fun c hc => by rw [hname.endsName hc]; rfl
  rw [List.takeWhile_append_of_pos hall, List.dropWhile_append_of_pos hall]
  cases tail with
  | nil => exact ⟨List.append_nil name, rfl⟩
  | cons c tail =>
    have hc : endsName c = true := hend c rfl
    simp [hc]

/-! ## Parentheses -/

/-- Behind some open parentheses, the text closes these and its own, and not before its end. -/
def Closes (depth : Nat) (t : Text) : Prop :=
  (∀ u, u <+: t → u.count ')' ≤ u.count '(' + depth) ∧ t.count ')' = t.count '(' + depth

theorem closes_zero_iff {t : Text} : Closes 0 t ↔ Balanced t :=
  ⟨fun h => ⟨h.1, h.2⟩, fun h => ⟨h.closes, h.even⟩⟩

theorem forall_prefix_cons {P : Text → Prop} {c : Char} {t : Text} :
    (∀ u, u <+: c :: t → P u) ↔ P [] ∧ ∀ u, u <+: t → P (c :: u) := by
  simp only [List.prefix_cons_iff, or_imp, forall_and, forall_eq, forall_exists_index, and_imp]
  exact and_congr_right fun _ => ⟨fun h u hu => h _ u rfl hu, fun h _ u hv hu => hv ▸ h u hu⟩

section Closes

variable {depth : Nat} {t : Text} {c : Char}

theorem closes_nil_iff : Closes depth [] ↔ depth = 0 := by
  simp [Closes, eq_comm]

theorem closes_cons_open : Closes depth ('(' :: t) ↔ Closes (depth + 1) t := by
  simp [Closes, forall_prefix_cons, Nat.add_right_comm, Nat.add_assoc]

theorem closes_cons_close : Closes depth (')' :: t) ↔ ∃ d, depth = d + 1 ∧ Closes d t := by
  cases depth with
  | zero =>
    refine iff_of_false (fun h => ?_) (by simp)
    have hone := h.1 [')'] (List.prefix_append [')'] t)
    simp at hone
  | succ d => simp [Closes, forall_prefix_cons, ← Nat.add_assoc]

theorem closes_cons (hopen : c ≠ '(') (hclose : c ≠ ')') : Closes depth (c :: t) ↔ Closes depth t := by
  simp [Closes, forall_prefix_cons, List.count_cons_of_ne hopen, List.count_cons_of_ne hclose]

end Closes

/-- The scan by counting ends at the closing parenthesis behind a text that closes all that is open. -/
theorem splitClosed_eq_some_iff : ∀ {rest inside tail : Text} {depth : Nat},
    splitClosed depth rest = some (inside, tail) ↔ rest = inside ++ ')' :: tail ∧ Closes depth inside
  | [], inside, tail, depth => by
    simp [splitClosed]
  | c :: rest, inside, tail, depth => by
    -- Where the scan goes on behind the character, this is the first one of the text inside.
    have within : ∀ {d}, (c ≠ ')' ∨ depth ≠ 0) → (∀ i, Closes depth (c :: i) ↔ Closes d i) →
        ((splitClosed d rest).map (fun r => (c :: r.1, r.2)) = some (inside, tail) ↔
          c :: rest = inside ++ ')' :: tail ∧ Closes depth inside) := by
      intro d hgo hstep
      rw [Option.map_eq_some_iff]
      constructor
      · rintro ⟨⟨i, u⟩, hsplit, heq⟩
        cases heq
        obtain ⟨rfl, hi⟩ := splitClosed_eq_some_iff.1 hsplit
        exact ⟨rfl, (hstep i).2 hi⟩
      · rintro ⟨heq, hinside⟩
        cases inside with
        | nil =>
          cases heq
          exact absurd (closes_nil_iff.1 hinside) (hgo.resolve_left fun h => h rfl)
        | cons c' i =>
          cases heq
          exact ⟨(i, tail), splitClosed_eq_some_iff.2 ⟨rfl, (hstep i).1 hinside⟩, rfl⟩
    rw [splitClosed.eq_def]
    dsimp only
    by_cases hopen : c = '('
    · subst hopen
      exact within (.inl (by decide)) fun i => closes_cons_open
    rw [if_neg hopen]
    by_cases hclose : c = ')'
    · subst hclose
      rw [if_pos rfl]
      cases depth with
      | zero =>
        constructor
        · intro h
          cases h
          exact ⟨rfl, closes_nil_iff.2 rfl⟩
        · rintro ⟨heq, hinside⟩
          cases inside with
          | nil =>
            cases heq
            rfl
          | cons c' i =>
            cases heq
            obtain ⟨d, hd, -⟩ := closes_cons_close.1 hinside
            cases hd
      | succ d => exact within (.inr (Nat.succ_ne_zero d)) fun i => closes_cons_close.trans (by simp)
    · rw [if_neg hclose]
      exact within (.inl hclose) fun i => closes_cons hopen hclose

theorem splitClosed_zero_iff :
    splitClosed 0 rest = some (inside, tail) ↔ rest = inside ++ ')' :: tail ∧ Balanced inside := by
  rw [splitClosed_eq_some_iff, closes_zero_iff]

/-! ## Modifiers -/

theorem withModifiers_append {before suffix : Text} (hbefore : '.' ∉ before)
    (hsuffix : ∀ c, suffix.head? = some c → c = '.') (matcher : Option Text) :
    withModifiers name matcher (before ++ suffix) =
      ⟨name, Text.has before '?', matcher, if suffix = [] then none else some suffix⟩ := by
  have hall : ∀ c ∈ before, (c != '.') = true := fun c hc => bne_iff_ne.2 fun h => hbefore (h ▸ hc)
  have htail : suffix.takeWhile (· != '.') = [] ∧ suffix.dropWhile (· != '.') = suffix := by
    cases suffix with
    | nil => exact ⟨rfl, rfl⟩
    | cons c suffix =>
      obtain rfl := hsuffix c rfl
      exact ⟨rfl, rfl⟩
  rw [withModifiers, List.takeWhile_append_of_pos hall, List.dropWhile_append_of_pos hall, htail.1, htail.2,
    List.append_nil]
  cases suffix <;> rfl

theorem exists_dot (tail : Text) : ∃ before suffix, tail = before ++ suffix ∧ '.' ∉ before ∧
    ∀ c, suffix.head? = some c → c = '.' := by
  refine ⟨tail.takeWhile (· != '.'), tail.dropWhile (· != '.'), List.takeWhile_append_dropWhile.symm, fun h =>
    ?_, fun c hc => ?_⟩
  · have hdot := List.mem_takeWhile_imp h
    cases hdot
  · have h := List.head?_dropWhile_not (· != '.') tail
    rw [hc] at h
    simpa using h

theorem has_iff {t : Text} {c : Char} : Text.has t c = true ↔ c ∈ t := by
  simp [Text.has]

/-- Where name and matcher are known, the text behind them fixes the parameter. -/
theorem modifies_iff : Modifies tail p ↔ p = withModifiers p.name p.matcher tail := by
  constructor
  · rintro ⟨before, suffix, rfl, hdot, hoptional, hsuffix⟩
    have hhead : ∀ c, suffix.head? = some c → c = '.' := by
      intro c hc
      rcases hsuffix with ⟨rfl, -⟩ | ⟨h, -⟩
      · cases hc
      · exact Option.some.inj (hc.symm.trans h)
    rw [withModifiers_append hdot hhead]
    obtain ⟨name, optional, matcher, suffix'⟩ := p
    have hflag : optional = Text.has before '?' := Bool.eq_iff_iff.2 (hoptional.trans has_iff.symm)
    have hpart : suffix' = if suffix = [] then none else some suffix := by
      rcases hsuffix with ⟨rfl, h⟩ | ⟨h, h'⟩
      · exact h
      · rw [if_neg (by rintro rfl; cases h)]
        exact h'
    rw [hflag, hpart]
  · intro h
    obtain ⟨before, suffix, rfl, hdot, hhead⟩ := exists_dot tail
    rw [withModifiers_append hdot hhead] at h
    rw [h]
    refine ⟨before, suffix, rfl, hdot, has_iff, ?_⟩
    cases suffix with
    | nil => exact .inl ⟨rfl, rfl⟩
    | cons c suffix => exact .inr ⟨congrArg some (hhead c rfl), rfl⟩

/-! ## Reading by the grammar -/

theorem parse_plain (hname : NameText name) (hend : Ends tail) (hhead : tail.head? ≠ some '(') :
    parse (name ++ tail) = withModifiers name none tail := by
  obtain ⟨htake, hdrop⟩ := takeWhile_name hname hend
  rw [parse, htake, hdrop]
  split
  · exact absurd rfl hhead
  · rfl

theorem parse_closed (hname : NameText name) (h : splitClosed 0 rest = some (inside, tail)) :
    parse (name ++ '(' :: rest) = withModifiers name (some inside) tail := by
  have hend : Ends ('(' :: rest) := fun c hc => (Option.some.inj hc) ▸ rfl
  obtain ⟨htake, hdrop⟩ := takeWhile_name hname hend
  simp only [parse, htake, hdrop, h]

theorem parse_unclosed (hname : NameText name) (h : splitClosed 0 rest = none) :
    parse (name ++ '(' :: rest) = ⟨name, false, some rest, none⟩ := by
  have hend : Ends ('(' :: rest) := fun c hc => (Option.some.inj hc) ▸ rfl
  obtain ⟨htake, hdrop⟩ := takeWhile_name hname hend
  simp only [parse, htake, hdrop, h]

/-- Behind a name, there is one parameter that the text is written for. -/
theorem follows_iff (hname : NameText p.name) (hend : Ends tail) : Follows tail p ↔ p = parse (p.name ++ tail) := by
  by_cases hhead : tail.head? = some '('
  · obtain ⟨rest, rfl⟩ : ∃ rest, tail = '(' :: rest := List.head?_eq_some_iff.1 hhead
    cases hsplit : splitClosed 0 rest with
    | some r =>
      obtain ⟨inside, behind⟩ := r
      obtain ⟨hrest, hbalanced⟩ := splitClosed_zero_iff.1 hsplit
      rw [parse_closed hname hsplit]
      constructor
      · rintro (⟨h, -⟩ | ⟨inside', behind', heq, hbalanced', hmatcher, hmodifies⟩ | ⟨rest', heq, hnone, -⟩)
        · exact absurd rfl h
        · have hsplit' := splitClosed_zero_iff.2 ⟨(List.cons.inj heq).2, hbalanced'⟩
          cases hsplit.symm.trans hsplit'
          rw [← hmatcher]
          exact modifies_iff.1 hmodifies
        · exact absurd hbalanced (hnone inside behind ((List.cons.inj heq).2 ▸ hrest))
      · intro h
        have hmatcher : p.matcher = some inside := by rw [h]; rfl
        exact .closed inside behind (by rw [hrest]) hbalanced hmatcher (modifies_iff.2 (hmatcher ▸ h))
    | none =>
      have hnone : ∀ inside behind, rest = inside ++ ')' :: behind → ¬ Balanced inside :=
        fun inside behind hrest hbalanced => by
        cases hsplit.symm.trans (splitClosed_zero_iff.2 ⟨hrest, hbalanced⟩)
      rw [parse_unclosed hname hsplit]
      constructor
      · rintro (⟨h, -⟩ | ⟨inside, behind, heq, hbalanced, -⟩ | ⟨rest', heq, -, hmatcher, hoptional, hsuffix⟩)
        · exact absurd rfl h
        · exact absurd hbalanced (hnone inside behind (List.cons.inj heq).2)
        · cases heq
          rw [← hmatcher, ← hoptional, ← hsuffix]
      · intro h
        exact .unclosed rest rfl hnone (by rw [h]) (by rw [h]) (by rw [h])
  · rw [parse_plain hname hend hhead]
    constructor
    · rintro (⟨-, hmatcher, hmodifies⟩ | ⟨inside, behind, rfl, -⟩ | ⟨rest, rfl, -⟩)
      · rw [← hmatcher]
        exact modifies_iff.1 hmodifies
      · exact absurd rfl hhead
      · exact absurd rfl hhead
    · intro h
      have hmatcher : p.matcher = none := by rw [h]; rfl
      exact .plain hhead hmatcher (modifies_iff.2 (hmatcher ▸ h))

theorem name_parse (hname : NameText name) (hend : Ends tail) : (parse (name ++ tail)).name = name := by
  rw [parse, (takeWhile_name hname hend).1]
  split
  · split <;> rfl
  · rfl

/-- Every text is that of one parameter, the one that is read from it. -/
theorem written_iff {body : Text} : Written body p ↔ p = parse body := by
  obtain ⟨name, tail, rfl, hname, hend⟩ := exists_name body
  constructor
  · rintro ⟨hlongest, tail', heq, hfollows⟩
    obtain rfl := (longestName_iff hname hend).1 hlongest
    obtain rfl := List.append_cancel_left heq
    exact (follows_iff hname hend).1 hfollows
  · rintro rfl
    have hsame := name_parse hname hend
    refine ⟨(longestName_iff hname hend).2 hsame, tail, by rw [hsame], ?_⟩
    exact (follows_iff (by rwa [hsame]) hend).2 (by rw [hsame])

/-! ## What counts for nothing -/

/-- The first character stays the same behind a text, or is a dot. -/
theorem head?_append_dot (before suffix ext : Text) : (before ++ '.' :: ext).head? = some '.' ∨
    (before ++ '.' :: ext).head? = (before ++ suffix).head? := by
  cases before with
  | nil => exact .inl rfl
  | cons c before => exact .inr rfl

theorem Modifies.replace {suffix : Text} (h : Modifies tail p) (hsuffix : p.suffix = some suffix) :
    ∃ before, tail = before ++ suffix ∧ ∀ ext, Modifies (before ++ '.' :: ext)
    { p with suffix := some ('.' :: ext) } := by
  obtain ⟨before, suffix', rfl, hdot, hoptional, ⟨-, hnone⟩ | ⟨-, hsome⟩⟩ := h
  · cases hsuffix.symm.trans hnone
  · cases hsuffix.symm.trans hsome
    exact ⟨before, rfl, fun ext => ⟨before, '.' :: ext, rfl, hdot, hoptional, .inr ⟨rfl, rfl⟩⟩⟩

/-- Another suffix in place of that of a parameter changes nothing else. -/
theorem Follows.replace {suffix : Text} (h : Follows tail p) (hsuffix : p.suffix = some suffix) :
    ∃ before, tail = before ++ suffix ∧ ∀ ext, Follows (before ++ '.' :: ext)
    { p with suffix := some ('.' :: ext) } := by
  rcases h with ⟨hhead, hmatcher, hmodifies⟩ | ⟨inside, behind, rfl, hbalanced, hmatcher, hmodifies⟩ | ⟨rest,
    -, -, -, -, hnone⟩
  · obtain ⟨before, rfl, hreplace⟩ := hmodifies.replace hsuffix
    refine ⟨before, rfl, fun ext => .plain ?_ hmatcher (hreplace ext)⟩
    rcases head?_append_dot before suffix ext with h | h
    · rw [h]
      decide
    · rwa [h]
  · obtain ⟨before, rfl, hreplace⟩ := hmodifies.replace hsuffix
    refine ⟨'(' :: (inside ++ ')' :: before), by simp, fun ext => ?_⟩
    exact .closed inside (before ++ '.' :: ext) (by simp) hbalanced hmatcher (hreplace ext)
  · cases hsuffix.symm.trans hnone

end PathRouter.Param
