/-
Turning groups into uncounted ones, seen by the reader. The rewriting goes along with the tokens of
the text (`uncounted_token`), but for a class that it does not leave in place. A text that it leaves
as it is has no counted groups (`uncounted_fixed`), and a text whose classes it leaves in place is
read in the same steps when it is rewritten (`Reads.uncounted`).
-/
import PathRouter.Proofs.Regex.Bare
import PathRouter.Proofs.Regex.Reading
import PathRouter.Proofs.Regex.Spans
import PathRouter.Template.Source

namespace PathRouter

namespace Template

open Regex

/-! ## Characters in front of a rewritten text -/

theorem head?_uncounted (t : Text) : (uncounted t).head? = t.head? := by
  cases t with
  | nil => rfl
  | cons c t =>
    unfold uncounted
    rw [uncountedFrom]
    split
    · rename_i hc
      subst hc
      split
      · rfl
      · split <;> rfl
    · rfl

theorem uncounted_cons {c : Char} (hp : c ≠ '(') (hb : c ≠ '\\') (hk : c ≠ '[') (t : Text) :
    uncounted (c :: t) = c :: uncounted t := by
  rw [uncounted, uncountedFrom, if_neg hp, if_neg hb, if_neg hk]
  rfl

theorem uncounted_escape (c : Char) (t : Text) : uncounted ('\\' :: c :: t) = '\\' :: c :: uncounted t := rfl

theorem uncounted_bracket (t : Text) : uncounted ('[' :: t) = '[' :: uncountedFrom .inClass t := rfl

theorem uncounted_append {m : Text} (h : ∀ c ∈ m, c ≠ '(' ∧ c ≠ '\\' ∧ c ≠ '[') (u : Text) :
    uncounted (m ++ u) = m ++ uncounted u := by
  induction m with
  | nil => rfl
  | cons c m ih =>
    obtain ⟨hp, hb, hk⟩ := h c List.mem_cons_self
    rw [List.cons_append, uncounted_cons hp hb hk, ih fun d hd => h d (List.mem_cons_of_mem c hd), List.cons_append]

theorem uncounted_inert {m : Text} (h : InertText m) (u : Text) : uncounted (m ++ u) = m ++ uncounted u :=
  uncounted_append (fun c hc => ⟨(h c hc).2.2.2.1, (h c hc).1, (h c hc).2.1⟩) u

theorem uncounted_open {t : Text} (h : t.head? ≠ some '?') : uncounted ('(' :: t) = "(?:".toList ++ uncounted t := by
  have hn : namesGroup t = false := by
    unfold namesGroup
    split
    · exact absurd rfl h
    · exact absurd rfl h
    · rfl
  rw [uncounted, uncountedFrom, if_pos rfl, hn, if_neg Bool.false_ne_true, if_neg h]
  rfl

theorem uncounted_modes {c : Char} (h : c ∈ modeChars) (t : Text) :
    uncounted ('(' :: '?' :: c :: t) = '(' :: '?' :: uncounted (c :: t) := by
  have hn : namesGroup ('?' :: c :: t) = false := by
    simp only [modeChars, List.mem_cons, List.not_mem_nil, or_false] at h
    rcases h with rfl | rfl | rfl | rfl | rfl | rfl | rfl | rfl | rfl | rfl <;> rfl
  rw [uncounted, uncountedFrom, if_pos rfl, hn, if_neg Bool.false_ne_true]
  rfl

theorem uncountedFrom_inName {name : Text} (h : '>' ∉ name) (u : Text) :
    uncountedFrom .inName (name ++ '>' :: u) = uncounted u := by
  induction name with
  | nil => rfl
  | cons c name ih =>
    have hc : c ≠ '>' := fun hc => h (hc ▸ List.mem_cons_self)
    rw [List.cons_append, uncountedFrom, if_neg hc, ih fun hm => h (List.mem_cons_of_mem c hm)]

/-- The mark of a named group, the name and its bracket are left out. -/
theorem uncounted_named {mark name : Text} (hmark : mark = ['?', 'P', '<'] ∨ mark = ['?', '<']) (hname : '>' ∉ name)
    (he : name.head? ≠ some '=') (hx : name.head? ≠ some '!') (u : Text) :
    uncounted ('(' :: (mark ++ name ++ ['>'] ++ u)) = "(?:".toList ++ uncounted u := by
  have hhead : ∀ c, c ≠ '>' → name.head? ≠ some c → ((name ++ '>' :: u).head? != some c) = true := by
    intro c hc hne
    cases name with
    | nil => simpa using Ne.symm hc
    | cons d name => simpa using hne
  have hn : (mark ++ name ++ ['>'] ++ u) = mark ++ (name ++ '>' :: u) := by simp
  have hskip : '>' ∉ mark ++ name := by
    rw [List.mem_append]
    rintro (h | h)
    · rcases hmark with rfl | rfl <;> revert h <;> decide
    · exact hname h
  have hnames : namesGroup (mark ++ (name ++ '>' :: u)) = true := by
    rcases hmark with rfl | rfl
    · exact Bool.and_eq_true_iff.2 ⟨hhead '=' (by decide) he, hhead '!' (by decide) hx⟩
    · exact Bool.and_eq_true_iff.2 ⟨hhead '=' (by decide) he, hhead '!' (by decide) hx⟩
  rw [hn, uncounted, uncountedFrom, if_pos rfl, hnames, if_pos rfl, ← List.append_assoc, uncountedFrom_inName hskip]
  rfl

/-! ## Rewriting again -/

theorem eq_cons_of_uncounted {c : Char} {t u : Text} (hp : c ≠ '(') (hb : c ≠ '\\') (hk : c ≠ '[')
    (h : uncounted t = c :: u) : ∃ v, t = c :: v ∧ uncounted v = u := by
  have hhead := head?_uncounted t
  rw [h] at hhead
  match t with
  | d :: v =>
    obtain rfl : c = d := Option.some.inj hhead
    rw [uncounted_cons hp hb hk] at h
    exact ⟨v, rfl, (List.cons.inj h).2⟩

theorem namesGroup_uncounted {t : Text} (h : namesGroup t = false) : namesGroup (uncounted t) = false := by
  by_contra hne
  rw [Bool.not_eq_false] at hne
  unfold namesGroup at hne
  split at hne
  · rename_i y h₁
    obtain ⟨t₁, rfl, h₂⟩ := eq_cons_of_uncounted (by decide) (by decide) (by decide) h₁
    obtain ⟨t₂, rfl, h₃⟩ := eq_cons_of_uncounted (by decide) (by decide) (by decide) h₂
    obtain ⟨t₃, rfl, rfl⟩ := eq_cons_of_uncounted (by decide) (by decide) (by decide) h₃
    rw [head?_uncounted] at hne
    exact Bool.false_ne_true (h.symm.trans hne)
  · rename_i y h₁
    obtain ⟨t₁, rfl, h₂⟩ := eq_cons_of_uncounted (by decide) (by decide) (by decide) h₁
    obtain ⟨t₂, rfl, rfl⟩ := eq_cons_of_uncounted (by decide) (by decide) (by decide) h₂
    rw [head?_uncounted] at hne
    exact Bool.false_ne_true (h.symm.trans hne)
  · cases hne

/-- Where the reading of the rewritten text stands: names are left out, so it is in plain text then. -/
def Scan.after : Scan → Scan
  | .inName => .plain
  | scan => scan

theorem uncountedFrom_uncountedFrom : ∀ (t : Text) (scan : Scan),
    uncountedFrom scan.after (uncountedFrom scan t) = uncountedFrom scan t
  | [], scan => by cases scan <;> rfl
  | c :: t, scan => by
    have ih := uncountedFrom_uncountedFrom t
    cases scan with
    | escaped => exact congrArg (List.cons c) (ih .plain)
    | escapedInClass => exact congrArg (List.cons c) (ih .inClass)
    | inName =>
      rw [uncountedFrom]
      split
      · exact ih .plain
      · exact ih .inName
    | inClass =>
      rw [uncountedFrom]
      show uncountedFrom .inClass _ = _
      rw [uncountedFrom]
      split
      · exact congrArg (List.cons c) (ih .escapedInClass)
      · split
        · exact congrArg (List.cons c) (ih .plain)
        · exact congrArg (List.cons c) (ih .inClass)
    | plain =>
      have inserted : ∀ {scan}, uncountedFrom .plain ('(' :: '?' :: ':' :: uncountedFrom scan t) =
          '(' :: '?' :: ':' :: uncountedFrom .plain (uncountedFrom scan t) := rfl
      rw [uncountedFrom]
      split
      · split
        · exact inserted.trans (congrArg (List.cons _ <| List.cons _ <| List.cons _ ·) (ih .inName))
        · rename_i hn
          split
          · rename_i hq
            have hn : namesGroup (uncountedFrom .plain t) = false := namesGroup_uncounted (Bool.eq_false_iff.2 hn)
            have hq : (uncountedFrom .plain t).head? = some '?' := (head?_uncounted t).trans hq
            show uncountedFrom .plain _ = _
            rw [uncountedFrom, if_pos rfl, hn, if_neg Bool.false_ne_true, if_pos hq]
            exact congrArg (List.cons _) (ih .plain)
          · exact inserted.trans (congrArg (List.cons _ <| List.cons _ <| List.cons _ ·) (ih .plain))
      · rename_i hp
        show uncountedFrom .plain _ = _
        rw [uncountedFrom, if_neg hp]
        split
        · exact congrArg (List.cons c) (ih .escaped)
        · split
          · exact congrArg (List.cons c) (ih .inClass)
          · exact congrArg (List.cons c) (ih .plain)

/-- Rewritten text is left as it is. -/
theorem uncounted_uncounted (t : Text) : uncounted (uncounted t) = uncounted t :=
  uncountedFrom_uncountedFrom t .plain

/-! ## Classes and whole tokens -/

/-- A class that the rewriting leaves in place up to its last bracket, whether or not it takes inner
brackets for the end, is left behind there. -/
theorem uncounted_units {us u : Text} (hus : Units us) : ∀ {scan : Scan}, scan = .plain ∨ scan = .inClass →
    us ++ [']'] <+: uncountedFrom scan (us ++ ']' :: u) →
    uncountedFrom scan (us ++ ']' :: u) = us ++ ']' :: uncounted u := by
  induction hus with
  | nil =>
    rintro scan (rfl | rfl) -
    · rfl
    · rfl
  | escape _ ih =>
    rintro scan (rfl | rfl) h
    · have h := (List.cons_prefix_cons.1 (List.cons_prefix_cons.1 h).2).2
      exact congrArg (List.cons _ <| List.cons _ ·) (ih (.inl rfl) h)
    · have h := (List.cons_prefix_cons.1 (List.cons_prefix_cons.1 h).2).2
      exact congrArg (List.cons _ <| List.cons _ ·) (ih (.inr rfl) h)
  | @single c us hc _ ih =>
    rintro scan (rfl | rfl) h
    · rw [List.cons_append, List.cons_append, uncountedFrom] at h
      rw [List.cons_append, uncountedFrom]
      split at h
      · rename_i hp
        rw [if_pos hp]
        -- An insertion behind the parenthesis would not leave the class in place.
        have inserted : ∀ {x : Text}, us ++ [']'] <+: '?' :: ':' :: x → ∃ us', us = '?' :: ':' :: us' := by
          rintro x ⟨y, hy⟩
          match us with
          | [] => cases hy
          | [d] => cases hy
          | d :: e :: us' => cases hy; exact ⟨us', rfl⟩
        split at h
        · rename_i hn
          obtain ⟨us', rfl⟩ := inserted (List.cons_prefix_cons.1 h).2
          cases hn
        · rename_i hn
          rw [if_neg hn]
          split at h
          · rename_i hq
            rw [if_pos hq, ih (.inl rfl) (List.cons_prefix_cons.1 h).2, hp]
            rfl
          · rename_i hq
            obtain ⟨us', rfl⟩ := inserted (List.cons_prefix_cons.1 h).2
            exact absurd rfl hq
      · rename_i hp
        rw [if_neg hp]
        rw [if_neg hc]
        refine congrArg (List.cons c) (ih ?_ (List.cons_prefix_cons.1 h).2)
        split
        · exact .inr rfl
        · exact .inl rfl
    · rw [List.cons_append, List.cons_append, uncountedFrom, if_neg hc] at h
      rw [List.cons_append, uncountedFrom, if_neg hc]
      refine congrArg (List.cons c) (ih ?_ (List.cons_prefix_cons.1 h).2)
      split
      · exact .inl rfl
      · exact .inr rfl

/-- Whether an action opens a counted group. -/
def counts : Action → Bool
  | .openCounted | .openNamed _ => true
  | _ => false

/-- The rewriting goes along with a token, and changes it only if it opens a counted group. Of a class
that has to be known. -/
theorem uncounted_token {c : Char} {m u : Text} {a : Action} (h : Regex.Shape c m a u)
    (hk : c = '[' → m <+: uncountedFrom .inClass (m ++ u)) :
    uncounted (c :: (m ++ u)) = (if counts a then "(?:".toList else c :: m) ++ uncounted u := by
  cases h with
  | close | alternate => rfl
  | again hc hm =>
    have hne : c ≠ '(' ∧ c ≠ '\\' ∧ c ≠ '[' := by
      refine ⟨?_, ?_, ?_⟩ <;> rintro rfl <;> revert hc <;> decide
    rw [uncounted_cons hne.1 hne.2.1 hne.2.2, uncounted_inert hm]
    rfl
  | single hc =>
    refine uncounted_cons ?_ ?_ ?_ u <;> rintro rfl <;> revert hc <;> decide
  | escape hm =>
    rw [List.cons_append, uncounted_escape, uncounted_inert hm]
    rfl
  | bracket hus =>
    have hk := hk rfl
    rw [List.append_assoc, List.singleton_append] at hk ⊢
    rw [uncounted_bracket, uncounted_units hus (.inr rfl) hk]
    simp [counts]
  | counted hq => exact uncounted_open hq
  | named hmark hname he hx => exact uncounted_named hmark hname he hx u
  | @openModes d m _ _ hm | @setModes d m _ _ hm =>
    have plain : ∀ e ∈ d :: m, e ≠ '(' ∧ e ≠ '\\' ∧ e ≠ '[' := fun e he => by
      have := hm e he
      simp only [modeChars, List.mem_cons, List.not_mem_nil, or_false] at this
      rcases this with rfl | rfl | rfl | rfl | rfl | rfl | rfl | rfl | rfl | rfl <;> decide
    rw [List.cons_append, List.cons_append, uncounted_modes (hm d List.mem_cons_self), ← List.cons_append,
      uncounted_append plain]
    rfl

/-- A token that the rewriting leaves as it is, with what follows, opens no counted group. -/
theorem uncounted_fixed {c : Char} {m u : Text} {a : Action} (h : Regex.Shape c m a u)
    (hfix : uncounted (c :: (m ++ u)) = c :: (m ++ u)) : counts a = false ∧ uncounted u = u := by
  have hk : c = '[' → m <+: uncountedFrom .inClass (m ++ u) := by
    rintro rfl
    rw [uncounted_bracket] at hfix
    rw [(List.cons.inj hfix).2]
    exact List.prefix_append m u
  rw [uncounted_token h hk] at hfix
  cases h with
  | counted hq =>
    match u, (List.cons.inj hfix).2 with
    | d :: u, he => exact absurd (congrArg some (List.cons.inj he).1.symm) hq
  | named hmark =>
    rcases hmark with rfl | rfl <;> cases (List.cons.inj (List.cons.inj hfix).2).2
  | _ => exact ⟨rfl, (List.append_right_inj (_ :: _)).1 hfix⟩

/-! ## Reading rewritten text -/

theorem exists_uncounted_cons (c : Char) (t : Text) : ∃ u, uncounted (c :: t) = c :: u := by
  have hhead := head?_uncounted (c :: t)
  match uncounted (c :: t), hhead with
  | d :: u, hd =>
    cases hd
    exact ⟨u, rfl⟩

/-- Rewritten text can follow a token in place of the text it was made of. -/
theorem follows_uncounted (t : Text) : Follows t (uncounted t) := by
  refine ⟨by rw [head?_uncounted], fun h => ?_⟩
  match t with
  | [] => rfl
  | c :: t =>
    by_cases hc : c = '{'
    · subst hc
      match t with
      | [] => exact h
      | d :: t =>
        obtain ⟨u, hu⟩ := exists_uncounted_cons d t
        rw [uncounted_cons (by decide) (by decide) (by decide), hu]
        exact h
    · obtain ⟨u, hu⟩ := exists_uncounted_cons c t
      rw [hu]
      simp [namesBoundary, hc]

/-- Text without parentheses stays in place in a class. -/
theorem prefix_uncountedFrom {m : Text} (h : '(' ∉ m) (u : Text) : ∀ {scan : Scan}, scan ≠ .inName →
    m <+: uncountedFrom scan (m ++ u) := by
  induction m with
  | nil => exact fun _ => List.nil_prefix
  | cons c m ih =>
    intro scan hscan
    have hc : c ≠ '(' := fun hc => h (hc ▸ List.mem_cons_self)
    have ih : ∀ {scan : Scan}, scan ≠ .inName → c :: m <+: c :: uncountedFrom scan (m ++ u) := fun hs =>
      List.cons_prefix_cons.2 ⟨rfl, ih (fun hm => h (List.mem_cons_of_mem c hm)) hs⟩
    cases scan with
    | inName => exact absurd rfl hscan
    | escaped | escapedInClass => exact ih (by decide)
    | inClass =>
      rw [List.cons_append, uncountedFrom]
      refine ih ?_
      split
      · decide
      · split <;> decide
    | plain =>
      rw [List.cons_append, uncountedFrom, if_neg hc]
      refine ih ?_
      split
      · decide
      · split <;> decide

end Template

namespace Regex.Reader

/-- The rewriting leaves the classes in place that are read in a text. -/
def KeepsClasses (b : Reader) (t : Text) : Prop :=
  ∀ {b' : Reader} {m u : Text} {a : Action}, Reads b t b' ('[' :: (m ++ u)) → token b'.flags '[' (m ++ u) = .ok (a, u) →
    m <+: Template.uncountedFrom .inClass (m ++ u)

/-- Where classes come behind all parentheses, they are left in place. -/
theorem keepsClasses_append {x y : Text} (hx : '[' ∉ x) (hy : '(' ∉ y) (b : Reader) : KeepsClasses b (x ++ y) := by
  intro b' m u a hr _
  obtain ⟨k, hk⟩ := hr.suffix
  have hm : m ⊆ y := by
    rcases List.append_eq_append_iff.1 hk with ⟨l, -, rfl⟩ | ⟨l, rfl, hl⟩
    · exact fun c hc => List.mem_append_right l (List.mem_cons_of_mem _ (List.mem_append_left u hc))
    · cases l with
      | nil =>
        rw [← show '[' :: (m ++ u) = y from hl]
        exact fun c hc => List.mem_cons_of_mem _ (List.mem_append_left u hc)
      | cons d l =>
        obtain rfl := (List.cons.inj hl).1
        exact absurd (List.mem_append_right k List.mem_cons_self) hx
  exact Template.prefix_uncountedFrom (fun h => hy (hm h)) u (by decide)

/-- Text that the rewriting leaves as it is keeps its classes. -/
theorem Reads.keepsClasses {b : Reader} {t : Text} (h : Template.uncounted t = t) : KeepsClasses b t := by
  have fixed : ∀ {b b' : Reader} {t u : Text}, Reads b t b' u → Template.uncounted t = t →
      Template.uncounted u = u := by
    intro b b' t u hr
    induction hr with
    | done => exact id
    | step hb ht _ _ ih =>
      intro hfix
      obtain ⟨m, rfl, hs, -⟩ := token_local hb ht
      exact ih (Template.uncounted_fixed hs hfix).2
  intro b' m u a hr _
  have hu := fixed hr h
  rw [Template.uncounted_bracket] at hu
  rw [(List.cons.inj hu).2]
  exact List.prefix_append m u

/-- Rewritten text is read in the same steps, by a reader that opens no counted groups. -/
theorem Reads.uncounted {b b' : Reader} {t u : Text} (n : Nat) (h : Reads b t b' u) :
    u = [] → KeepsClasses b t → Reads (b.bare n) (Template.uncounted t) (b'.bare n) [] := by
  induction h with
  | done =>
    rintro rfl -
    exact .done
  | @step b b₁ b₂ c t u w a hb ht ha hr ih =>
    rintro rfl hk
    obtain ⟨m, rfl, hs, hw⟩ := token_local hb ht
    have ih : Reads (b₁.bare n) (Template.uncounted u) (b₂.bare n) [] :=
      ih rfl fun hr' => hk (.step hb ht ha hr')
    have single : ∀ p, a = .add p → p.Single := by
      rintro p rfl
      cases hs <;> assumption
    have hact : (b.bare n).act (a.bare b.flags) = .ok (b₁.bare n) := act_bare n single ha
    rw [Template.uncounted_token hs fun hc => by subst hc; exact hk .done ht]
    -- A group that would be counted begins as one that sets the modes it is in.
    cases hcounts : Template.counts a with
    | true =>
      refine .step (c := '(') hb ?_ hact ih
      cases a with
      | openCounted | openNamed => rfl
      | _ => cases hcounts
    | false =>
      have hbare : a.bare b.flags = a := by
        cases a with
        | openCounted | openNamed => cases hcounts
        | _ => rfl
      rw [hbare] at hact
      exact .step hb (hw _ (Template.follows_uncounted u)) hact ih

/-- A text that is accepted on its own is read as its expression without the groups when it is rewritten. -/
theorem Accepted.parse_uncounted {anyCase : Bool} {t : Text} {e : Expression} (h : Accepted anyCase t)
    (he : Expression.parse anyCase t = .ok e) (hk : KeepsClasses (.start anyCase) t) :
    Expression.parse anyCase (Template.uncounted t) = .ok ⟨Template.uncounted t, e.regex.bare, []⟩ := by
  obtain ⟨b, hb, hfin⟩ := h.exists_finish he
  have hr : Reads (.start anyCase) (Template.uncounted t) (b.bare 0) [] := hb.uncounted 0 rfl hk
  rw [hr.parse, finish_bare 0 hfin, bind_ok]

theorem Accepted.uncounted {anyCase : Bool} {t : Text} (h : Accepted anyCase t) (hk : KeepsClasses (.start anyCase) t) :
    Accepted anyCase (Template.uncounted t) := by
  obtain ⟨e, he⟩ := h.1
  obtain ⟨b, hb, hfin⟩ := h.exists_finish he
  have hr : Reads (.start anyCase) (Template.uncounted t) (b.bare 0) [] := hb.uncounted 0 rfl hk
  exact .of_reads hr (h.2 b [] hb) ⟨_, finish_bare 0 hfin⟩

/-! ## Where rewritten text matches -/

/-- Turning groups into uncounted ones changes what is captured and nothing else. The rewritten text of an expression
has no groups if it is an expression; and it is one if the classes are left in place, and then it matches every
text at the same places as the original, in the same order of preference, from any start on. -/
theorem Accepted.spans_uncounted {anyCase : Bool} {t : Text} {e : Expression} (h : Accepted anyCase t)
    (he : Expression.parse anyCase t = .ok e) :
    (∀ e', Accepted anyCase (Template.uncounted t) → Expression.parse anyCase (Template.uncounted t) = .ok e' →
      e'.regex.groupCount = 0) ∧
    (KeepsClasses (.start anyCase) t → Accepted anyCase (Template.uncounted t) ∧
      ∃ e', Expression.parse anyCase (Template.uncounted t) = .ok e' ∧ e'.regex.groupCount = 0 ∧ e'.names = [] ∧
        (∀ text start, e'.regex.spans text start = e.regex.spans text start) ∧
        ∀ text, (e'.regex.find text).map (fun m => (m.start, m.stop)) = (e.regex.find text).map fun m =>
          (m.start, m.stop)) := by
  constructor
  · intro e' h' he'
    have hbare := h'.parse_uncounted he' (Reads.keepsClasses (Template.uncounted_uncounted t))
    rw [Template.uncounted_uncounted, he'] at hbare
    rw [Except.ok.inj hbare]
    exact groupCount_bare e'.regex
  · intro hk
    refine ⟨h.uncounted hk, _, h.parse_uncounted he hk, groupCount_bare e.regex, rfl,
      spans_bare e.regex, fun text => ?_⟩
    rw [← head?_spans, ← head?_spans, spans_bare]

/-- A named group around a counted one, in lazy rounds, and a class behind them. -/
theorem spans_uncounted_named : ∃ e e', Expression.parse true "(?<n>ab|(c))*?[x-z]+".toList = .ok e ∧
    Expression.parse true "(?:ab|(?:c))*?[x-z]+".toList = .ok e' ∧ e'.regex.groupCount = 0 ∧
    e'.regex.spans "cabXY".toList 1 = e.regex.spans "cabXY".toList 1 := by
  have h : Accepted true "(?<n>ab|(c))*?[x-z]+".toList :=
    .of_reads (.step rfl rfl rfl (.step rfl rfl rfl (.step rfl rfl rfl (.step rfl rfl rfl (.step rfl rfl rfl
      (.step rfl rfl rfl (.step rfl rfl rfl (.step rfl rfl rfl (.step rfl rfl rfl (.step rfl rfl rfl
      (.step rfl rfl rfl .done))))))))))) rfl ⟨_, rfl⟩
  have hk : KeepsClasses (.start true) "(?<n>ab|(c))*?[x-z]+".toList :=
    keepsClasses_append (x := "(?<n>ab|(c))*?".toList) (y := "[x-z]+".toList) (by decide) (by decide) _
  have hrewritten : Template.uncounted "(?<n>ab|(c))*?[x-z]+".toList = "(?:ab|(?:c))*?[x-z]+".toList := by decide
  obtain ⟨e, he⟩ := h.1
  obtain ⟨-, e', he', hcount, -, hspans, -⟩ := (h.spans_uncounted he).2 hk
  rw [hrewritten] at he'
  exact ⟨e, e', he, he', hcount, hspans _ 1⟩

/-- Two expressions with a class in a class. The inner one ends the whole class for the rewriting, which changes
the parentheses behind it: one rewritten text matches more than the expression, the other is none. -/
theorem spans_uncounted_innerClass :
    (Accepted true "[[a]()]".toList ∧ ∃ e e', Expression.parse true "[[a]()]".toList = .ok e ∧
      Expression.parse true (Template.uncounted "[[a]()]".toList) = .ok e' ∧ e.regex.spans "?".toList 0 = [] ∧
      e'.regex.spans "?".toList 0 = [(0, 1)]) ∧
    Accepted true "[[a](?<)]y>".toList ∧
      Expression.parse true (Template.uncounted "[[a](?<)]y>".toList) = .error .classUnclosed := by
  refine ⟨⟨?_, _, _, rfl, rfl, ?_, ?_⟩, ?_, ?_⟩
  · exact .of_reads (.step rfl rfl rfl .done) rfl ⟨_, rfl⟩
  · decide
  · decide
  · exact .of_reads (.step rfl rfl rfl (.step rfl rfl rfl (.step rfl rfl rfl .done))) rfl ⟨_, rfl⟩
  · rfl

end Regex.Reader

end PathRouter
