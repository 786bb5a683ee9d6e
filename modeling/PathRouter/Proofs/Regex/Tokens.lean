/-
A step of the reader is a token and what it does. Where the token ends is a matter of the text
alone, outside verbose text (`token_rest`); it does not depend on what follows the token, but for a
question mark behind a repetition or a parenthesis and a brace behind `\b` (`token_local`).
-/
import PathRouter.Proofs.Regex.Classes
import PathRouter.Regex.Parser

namespace PathRouter.Regex

/-- What a token does to the reader. -/
inductive Action where
  | openCounted
  | openNamed (name : Text)
  | openModes (flags : Flags)
  | setModes (flags : Flags)
  | close
  | alternate
  | add (p : Piece)
  | again (greedy : Bool) (min : Nat) (max : Option Nat)

namespace Reader

/-- The reader after a token. -/
def act (b : Reader) : Action → Except PatternError Reader
  | .openCounted => .ok b.openCounted
  | .openNamed name =>
    if b.names.any (·.2 == name) then .error .groupNameRepeated
    else .ok { b.openCounted with names := b.names ++ [(b.groups + 1, name)] }
  | .openModes f => .ok (b.openGroup none f)
  | .setModes f => .ok ({ b with flags := f }.add ⟨.empty, 0, true⟩)
  | .close => b.closeGroup
  | .alternate => .ok b.alternate
  | .add p => .ok (b.add p)
  | .again greedy min max => b.repeatLatest greedy min max

end Reader

/-! ## Tokens -/

/-- A name up to its angle bracket. -/
def nameToken (t : Text) : Except PatternError (Action × Text) :=
  match t.dropWhile (· != '>') with
  | [] => .error .groupUnclosed
  | _ :: rest =>
    match t.takeWhile (· != '>') with
    | [] => .error .groupNameEmpty
    | c :: cs =>
      if Reader.isNameChar true c && cs.all (Reader.isNameChar false) then .ok (.openNamed (c :: cs), rest)
      else .error .groupNameInvalid

/-- The modes behind `(?`. -/
def modesToken (f : Flags) (t : Text) : Except PatternError (Action × Text) :=
  Reader.readModes [] f t >>= fun (flags, any, stop, rest) =>
    if stop == ':' then .ok (.openModes flags, rest)
    else if any then .ok (.setModes flags, rest)
    else .error .nothingToRepeat

/-- What an opening parenthesis begins, with the text of the name or of the modes. -/
inductive Opening where
  | lookAround
  | named (t : Text)
  | unclosed
  | modes (t : Text)
  | counted

/-- What an opening parenthesis in front of a text begins. -/
def opening : Text → Opening
  | '?' :: '=' :: _ | '?' :: '!' :: _ | '?' :: '<' :: '=' :: _ | '?' :: '<' :: '!' :: _ => .lookAround
  | '?' :: 'P' :: '<' :: t | '?' :: '<' :: t => .named t
  | '?' :: [] => .unclosed
  | '?' :: t => .modes t
  | _ => .counted

/-- The beginning of a group in the text behind its parenthesis. -/
def groupToken (f : Flags) (t : Text) : Except PatternError (Action × Text) :=
  match opening t with
  | .lookAround => .error .lookAround
  | .named t => nameToken t
  | .unclosed => .error .groupUnclosed
  | .modes t => modesToken f t
  | .counted => .ok (.openCounted, t)

/-- A repetition, lazy if a question mark follows. -/
def againToken (min : Nat) (max : Option Nat) (t : Text) : Action × Text :=
  (.again (!(Reader.readLazy t).1) min max, (Reader.readLazy t).2)

/-- The numbers of a repetition once the first was read, in front of its closing brace. -/
def afterMin (f : Flags) (min : Option Nat) (t : Text) : Except PatternError (Nat × Option Nat × Text) :=
  match t with
  | [] => .error .countUnclosed
  | ',' :: t =>
    match t, min with
    | [], _ => .error .countUnclosed
    | _, none => .error .countMissing
    | '}' :: t, some m => .ok (m, none, '}' :: t)
    | t, some m => Reader.readCount f t >>= fun (max, t) =>
      match max with
      | some n => .ok (m, some n, t)
      | none => .error .countMissing
  | t =>
    match min with
    | some m => .ok (m, some m, t)
    | none => .error .countMissing

/-- The end of a repetition with numbers. -/
def afterMax (min : Nat) (max : Option Nat) (t : Text) : Except PatternError (Action × Text) :=
  match t with
  | '}' :: t => if max.any (· < min) then .error .countRange else .ok (againToken min max t)
  | _ => .error .countUnclosed

/-- A repetition with numbers. -/
def countToken (f : Flags) (t : Text) : Except PatternError (Action × Text) :=
  Reader.readCount f t >>= fun r => afterMin f r.1 r.2 >>= fun r => afterMax r.1 r.2.1 r.2.2

/-- What an escape matches. -/
def Escape.regex (f : Flags) : Escape → Regex
  | .literal c => .chars (f.literal c)
  | .set s => .chars s
  | .assertion a => .assert a

/-- The token that begins with a character, and the text behind it. -/
def token (f : Flags) (c : Char) (t : Text) : Except PatternError (Action × Text) :=
  match c with
  | '(' => groupToken f t
  | ')' => .ok (.close, t)
  | '|' => .ok (.alternate, t)
  | '[' => ClassPart.read f t >>= fun (p, rest) => .ok (.add ⟨.chars p.set, p.height, false⟩, rest)
  | '?' => .ok (againToken 0 (some 1) t)
  | '*' => .ok (againToken 0 none t)
  | '+' => .ok (againToken 1 none t)
  | '{' => countToken f t
  | '\\' => Escape.read f t >>= fun (e, rest) => .ok (.add (.leaf (e.regex f)), rest)
  | '.' => f.dot >>= fun s => .ok (.add (.leaf (.chars s)), t)
  | '^' => .ok (.add (.leaf (.assert f.caret)), t)
  | '$' => .ok (.add (.leaf (.assert f.dollar)), t)
  | c => .ok (.add (.leaf (.chars (f.literal c))), t)

/-- The characters that stand for more than themselves. -/
def metaChars : List Char := ['(', ')', '|', '[', '?', '*', '+', '{', '\\', '.', '^', '$']

theorem token_char {f : Flags} {c : Char} (h : c ∉ metaChars) (t : Text) :
    token f c t = .ok (.add (.leaf (.chars (f.literal c))), t) := by
  unfold token
  split
  case h_13 => rfl
  all_goals exact absurd (by decide) h

namespace Reader

variable {b : Reader} (hb : b.flags.verbose = false)
include hb

omit hb in
theorem openNamed_eq (t : Text) :
    b.openNamed t = nameToken t >>= fun r => b.act r.1 >>= fun b' => .ok (b', r.2) := by
  unfold openNamed nameToken
  dsimp only
  cases t.dropWhile (· != '>') with
  | nil => rfl
  | cons d rest =>
    cases t.takeWhile (· != '>') with
    | nil => rfl
    | cons c cs =>
      dsimp only
      cases isNameChar true c && cs.all (isNameChar false) with
      | false => rfl
      | true =>
        simp only [Bool.not_true, Bool.false_eq_true, if_false, if_true, bind_ok, act]
        split <;> rfl

theorem readGroup_eq (t : Text) :
    b.readGroup t = groupToken b.flags t >>= fun r => b.act r.1 >>= fun b' => .ok (b', r.2) := by
  have modes : ∀ t, (readModes [] b.flags t >>= fun (flags, any, stop, rest) =>
      if stop == ':' then .ok (b.openGroup none flags, rest)
      else if any then .ok ({ b with flags }.add ⟨.empty, 0, true⟩, rest)
      else .error .nothingToRepeat) = modesToken b.flags t >>= fun r => b.act r.1 >>= fun b' => .ok (b', r.2) := by
    intro t
    unfold modesToken
    cases readModes [] b.flags t with
    | error e => rfl
    | ok r =>
      obtain ⟨flags, any, stop, rest⟩ := r
      simp only [bind_ok]
      split
      · rfl
      · split <;> rfl
  rw [readGroup, Flags.skip_eq hb, groupToken]
  split <;> simp only [opening, *]
  case h_5 | h_6 => exact openNamed_eq _
  case h_8 => exact modes _
  all_goals rfl

omit hb in
theorem readRepetition_eq (min : Nat) (max : Option Nat) (t : Text) :
    b.readRepetition min max t = b.act (againToken min max t).1 >>= fun b' => .ok (b', (againToken min max t).2) := by
  unfold readRepetition againToken
  cases readLazy t
  rfl

theorem readCounted_eq (t : Text) :
    b.readCounted t = countToken b.flags t >>= fun r => b.act r.1 >>= fun b' => .ok (b', r.2) := by
  have ends : ∀ (min : Nat) (max : Option Nat) (t : Text), (match t with
      | '}' :: t =>
        if max.any (· < min) then .error .countRange
        else b.repeatLatest (!(readLazy t).1) min max >>= fun b' => .ok (b', (readLazy t).2)
      | _ => .error .countUnclosed) = afterMax min max t >>= fun r => b.act r.1 >>= fun b' => .ok (b', r.2) := by
    intro min max t
    unfold afterMax
    split
    · split <;> rfl
    · rfl
  rw [readCounted, Flags.skip_eq hb, countToken]
  simp only [Flags.skip_eq hb]
  cases readCount b.flags t with
  | error e => rfl
  | ok r =>
    obtain ⟨min, t⟩ := r
    simp only [bind_ok]
    split
    · rfl
    · split <;> simp only [afterMin, *]
      case h_1 | h_2 => rfl
      case h_3 t m => exact ends m none ('}' :: t)
      case h_4 u _ _ m _ _ =>
        cases readCount b.flags u with
        | error e => rfl
        | ok r =>
          obtain ⟨max, t⟩ := r
          cases max with
          | none => rfl
          | some n => exact ends m (some n) t
    · simp only [afterMin, *]
      cases min with
      | none => rfl
      | some m => exact ends m (some m) _

/-- A step is a token and what it does. -/
theorem step_eq (c : Char) (t : Text) :
    b.step c t = token b.flags c t >>= fun r => b.act r.1 >>= fun b' => .ok (b', r.2) := by
  unfold step
  split
  case h_1 => exact readGroup_eq hb t
  case h_4 =>
    rw [token]
    cases ClassPart.read b.flags t <;> rfl
  case h_5 | h_6 | h_7 => exact readRepetition_eq _ _ t
  case h_8 => exact readCounted_eq hb t
  case h_9 =>
    rw [token]
    cases Escape.read b.flags t with
    | error e => rfl
    | ok r => obtain ⟨e, u⟩ := r; cases e <;> rfl
  case h_10 =>
    rw [token]
    cases b.flags.dot <;> rfl
  case h_13 =>
    have hm : c ∉ metaChars := by
      simp only [metaChars, List.mem_cons, List.not_mem_nil, or_false]
      rintro (h | h | h | h | h | h | h | h | h | h | h | h) <;> contradiction
    rw [token_char hm]
    rfl
  all_goals rfl

end Reader

/-! ## Parts of tokens -/

theorem mem_takeWhile {p : Char → Bool} {t : Text} : ∀ c ∈ t.takeWhile p, p c = true :=
  fun _ hc => List.mem_takeWhile_imp hc

/-- The characters with a property in front of a text, and what follows them, where another text with
the same first character follows them instead. -/
theorem span_append {p : Char → Bool} {t w : Text} (h : w.head? = (t.dropWhile p).head?) :
    (t.takeWhile p ++ w).takeWhile p = t.takeWhile p ∧ (t.takeWhile p ++ w).dropWhile p = w := by
  rw [List.takeWhile_append_of_pos mem_takeWhile, List.dropWhile_append_of_pos mem_takeWhile]
  cases w with
  | nil => simp
  | cons c w =>
    have hc : p c = false := by
      have := List.head?_dropWhile_not p t
      rw [← h] at this
      simpa using this
    simp [hc]

theorem nameToken_local {t u : Text} {a : Action} (h : nameToken t = .ok (a, u)) :
    ∃ name, t = name ++ '>' :: u ∧ a = .openNamed name ∧ '>' ∉ name ∧ name.head? ≠ some '=' ∧ name.head? ≠ some '!' ∧
      ∀ w, nameToken (name ++ '>' :: w) = .ok (a, w) := by
  unfold nameToken at h
  split at h
  · cases h
  · rename_i d rest hd
    have hne : '>' ∉ t.takeWhile (· != '>') := fun hm => by simpa using mem_takeWhile _ hm
    obtain rfl : d = '>' := by
      have := List.head?_dropWhile_not (· != '>') t
      rw [hd] at this
      simpa using this
    split at h
    · cases h
    · rename_i c cs hc
      split at h
      · rename_i hn
        cases h
        have ht : t = (c :: cs) ++ '>' :: u := by rw [← hc, ← hd, List.takeWhile_append_dropWhile]
        have hfirst : Reader.isNameChar true c = true := (Bool.and_eq_true_iff.1 hn).1
        rw [hc] at hne
        refine ⟨c :: cs, ht, rfl, hne, ?_, ?_, fun w => ?_⟩
        · intro he; cases he; revert hfirst; decide +kernel
        · intro he; cases he; revert hfirst; decide +kernel
        · have hspan := span_append (p := (· != '>')) (t := t) (w := '>' :: w) (by rw [hd]; rfl)
          rw [hc] at hspan
          simp only [nameToken, hspan.1, hspan.2, hn, if_true]
      · cases h

/-- The letters of modes and what stands beside them. -/
def modeChars : List Char := ['i', 'm', 's', 'U', 'u', 'R', 'x', '-', ':', ')']

theorem mem_modeChars_of_set? {f g : Flags} {c : Char} {on : Bool} (h : f.set? c on = some g) : c ∈ modeChars := by
  unfold Flags.set? at h
  split at h
  case h_8 => cases h
  all_goals decide

theorem readModes_local : ∀ {seen : List Char} {f g : Flags} {t u : Text} {any : Bool} {stop : Char},
    Reader.readModes seen f t = .ok (g, any, stop, u) →
      ∃ m, t = m ++ u ∧ m ≠ [] ∧ (∀ c ∈ m, c ∈ modeChars) ∧
        ∀ w, Reader.readModes seen f (m ++ w) = .ok (g, any, stop, w)
  | _, _, _, [], _, _, _, h => by cases h
  | seen, f, g, c :: t, u, any, stop, h => by
    rw [Reader.readModes] at h
    split at h
    · rename_i hc
      split at h
      · cases h
      · rename_i hs
        cases h
        refine ⟨[c], rfl, List.cons_ne_nil _ _, ?_, fun w => ?_⟩
        · simp only [Bool.or_eq_true, beq_iff_eq] at hc
          rcases hc with rfl | rfl <;> decide
        · rw [List.singleton_append, Reader.readModes, if_pos hc, if_neg hs]
    · rename_i hc
      split at h
      · cases h
      · rename_i hs
        split at h
        · rename_i hd
          obtain ⟨m, rfl, -, hm, hw⟩ := readModes_local h
          refine ⟨c :: m, rfl, List.cons_ne_nil _ _, List.forall_mem_cons.2 ⟨?_, hm⟩, fun w => ?_⟩
          · rw [beq_iff_eq.1 hd]; decide
          · rw [List.cons_append, Reader.readModes, if_neg hc, if_neg hs, if_pos hd]
            exact hw w
        · rename_i hd
          split at h
          · rename_i f' hf'
            obtain ⟨m, rfl, -, hm, hw⟩ := readModes_local h
            refine ⟨c :: m, rfl, List.cons_ne_nil _ _,
              List.forall_mem_cons.2 ⟨mem_modeChars_of_set? hf', hm⟩, fun w => ?_⟩
            rw [List.cons_append, Reader.readModes, if_neg hc, if_neg hs, if_neg hd]
            simp only [hf']
            exact hw w
          · cases h

theorem opening_modes {c : Char} (h : c ∈ modeChars) (t : Text) : opening ('?' :: c :: t) = .modes (c :: t) := by
  simp only [modeChars, List.mem_cons, List.not_mem_nil, or_false] at h
  rcases h with rfl | rfl | rfl | rfl | rfl | rfl | rfl | rfl | rfl | rfl <;> rfl

theorem opening_named {t : Text} (he : t.head? ≠ some '=') (hx : t.head? ≠ some '!') :
    opening ('?' :: '<' :: t) = .named t := by
  cases t with
  | nil => rfl
  | cons c t =>
    have he : c ≠ '=' := fun h => he (congrArg some h)
    have hx : c ≠ '!' := fun h => hx (congrArg some h)
    simp [opening, he, hx]

theorem opening_counted {t : Text} (h : t.head? ≠ some '?') : opening t = .counted := by
  cases t with
  | nil => rfl
  | cons c t =>
    have hc : c ≠ '?' := fun hc => h (congrArg some hc)
    simp [opening, hc]

/-! ## Counts -/

section

variable {f : Flags} (hf : f.verbose = false)
include hf

theorem readDigits_eq : ∀ {k : Nat} {digits t : Text}, t.length ≤ k →
    Reader.readDigits f k digits t = ((t.takeWhile Char.isDigit).reverse ++ digits, t.dropWhile Char.isDigit)
  | 0, digits, t, h => by
    obtain rfl := List.length_eq_zero_iff.1 (Nat.le_zero.1 h)
    rfl
  | k + 1, digits, [], _ => rfl
  | k + 1, digits, c :: t, h => by
    rw [Reader.readDigits]
    by_cases hc : c.isDigit = true
    · rw [if_pos hc, Flags.skip_eq hf, readDigits_eq (Nat.le_of_succ_le_succ h)]
      simp [hc]
    · simp [hc]

theorem skipAroundCount_eq : ∀ {k : Nat} {t : Text}, t.length ≤ k →
    Reader.skipAroundCount f k t = t.dropWhile Unicode.isBlank
  | 0, t, h => by
    obtain rfl := List.length_eq_zero_iff.1 (Nat.le_zero.1 h)
    rfl
  | k + 1, [], _ => rfl
  | k + 1, c :: t, h => by
    rw [Reader.skipAroundCount]
    by_cases hc : Unicode.isBlank c = true
    · rw [if_pos hc, Flags.skip_eq hf, skipAroundCount_eq (Nat.le_of_succ_le_succ h)]
      simp [hc]
    · simp [hc]

/-- The number that digits in reverse stand for. -/
def countOf (digits : Text) : Except PatternError (Option Nat) :=
  let n := digits.foldr (fun c n => 10 * n + (c.toNat - '0'.toNat)) 0
  if digits.isEmpty then .ok none else if n < Nat.pow 2 32 then .ok (some n) else .error .countRange

theorem readCount_eq (t : Text) : Reader.readCount f t =
    countOf ((t.dropWhile Unicode.isBlank).takeWhile Char.isDigit).reverse >>= fun n =>
      .ok (n, ((t.dropWhile Unicode.isBlank).dropWhile Char.isDigit).dropWhile Unicode.isBlank) := by
  simp only [Reader.readCount, readDigits_eq hf (Nat.le_refl _), skipAroundCount_eq hf (Nat.le_refl _),
    List.append_nil, countOf]
  split
  · rfl
  · split <;> rfl

omit hf in
theorem inert_of_isDigit {c : Char} (h : c.isDigit = true) : Inert c := by
  refine ⟨?_, ?_, ?_, ?_, ?_⟩ <;> rintro rfl <;> cases h

omit hf in
theorem inert_of_isBlank {c : Char} (h : Unicode.isBlank c = true) : Inert c := by
  refine ⟨?_, ?_, ?_, ?_, ?_⟩ <;> rintro rfl <;> revert h <;> decide +kernel

omit hf in
theorem head?_append_congr {t u w : Text} (h : w.head? = u.head?) : (t ++ w).head? = (t ++ u).head? := by
  rw [List.head?_append, List.head?_append, h]

theorem readCount_local {t u : Text} {n : Option Nat} (h : Reader.readCount f t = .ok (n, u)) :
    ∃ m, t = m ++ u ∧ InertText m ∧ (m = [] → n = none) ∧
      ∀ w, w.head? = u.head? → Reader.readCount f (m ++ w) = .ok (n, w) := by
  rw [readCount_eq hf] at h
  obtain ⟨n', hn, h⟩ := bind_eq_ok.1 h
  cases h
  have h1 := List.takeWhile_append_dropWhile (p := Unicode.isBlank) (l := t)
  have h2 := List.takeWhile_append_dropWhile (p := Char.isDigit) (l := t.dropWhile Unicode.isBlank)
  have h3 := List.takeWhile_append_dropWhile (p := Unicode.isBlank)
    (l := (t.dropWhile Unicode.isBlank).dropWhile Char.isDigit)
  refine ⟨t.takeWhile Unicode.isBlank ++ ((t.dropWhile Unicode.isBlank).takeWhile Char.isDigit ++
    ((t.dropWhile Unicode.isBlank).dropWhile Char.isDigit).takeWhile Unicode.isBlank), ?_, ?_, fun he =>
      ?_, fun w hw => ?_⟩
  · rw [List.append_assoc, List.append_assoc, h3, h2, h1]
  · rw [InertText, List.forall_mem_append, List.forall_mem_append]
    exact ⟨fun c hc => inert_of_isBlank (mem_takeWhile c hc), fun c hc => inert_of_isDigit (mem_takeWhile c hc),
      fun c hc => inert_of_isBlank (mem_takeWhile c hc)⟩
  · rw [(List.append_eq_nil_iff.1 (List.append_eq_nil_iff.1 he).2).1] at hn
    cases hn
    rfl
  · have w3 := head?_append_congr
      (t := ((t.dropWhile Unicode.isBlank).dropWhile Char.isDigit).takeWhile Unicode.isBlank) hw
    have w2 := head?_append_congr (t := (t.dropWhile Unicode.isBlank).takeWhile Char.isDigit) w3
    rw [h3] at w3
    rw [h3, h2] at w2
    rw [readCount_eq hf, List.append_assoc, List.append_assoc, (span_append w2).2, (span_append w3).1, hn, bind_ok,
      (span_append w3).2, (span_append hw).2]

omit hf in
theorem readLazy_greedy {t : Text} (h : t.head? ≠ some '?') : Reader.readLazy t = (false, t) := by
  unfold Reader.readLazy
  split
  · exact absurd rfl h
  · rfl

omit hf in
theorem readLazy_local (t : Text) :
    ∃ m, t = m ++ (Reader.readLazy t).2 ∧ (m = [] ∨ m = ['?']) ∧
      ∀ w, ((Reader.readLazy t).2.head? = some '?' ↔ w.head? = some '?') →
        Reader.readLazy (m ++ w) = ((Reader.readLazy t).1, w) := by
  by_cases h : t.head? = some '?'
  · match t with
    | c :: t =>
      cases h
      exact ⟨['?'], rfl, .inr rfl, fun w _ => rfl⟩
  · rw [readLazy_greedy h]
    refine ⟨[], rfl, .inl rfl, fun w hw => ?_⟩
    rw [List.nil_append, readLazy_greedy fun hq => h (hw.2 hq)]

/-- What may follow a token in place of another text. -/
def Follows (u w : Text) : Prop :=
  (u.head? = some '?' ↔ w.head? = some '?') ∧ (namesBoundary u = false → namesBoundary w = false)

omit hf in
theorem againToken_local {min : Nat} {max : Option Nat} {t u : Text} {a : Action} (h : againToken min max t = (a, u)) :
    ∃ m, t = m ++ u ∧ InertText m ∧ (∃ greedy, a = .again greedy min max) ∧
      ∀ w, Follows u w → againToken min max (m ++ w) = (a, w) := by
  cases h
  obtain ⟨m, hm, hq, hw⟩ := readLazy_local t
  refine ⟨m, hm, ?_, ⟨_, rfl⟩, fun w hf => ?_⟩
  · rcases hq with rfl | rfl
    · exact List.forall_mem_nil _
    · exact List.forall_mem_singleton.2 (by decide)
  · rw [againToken, hw w hf.1]

omit hf in
theorem afterMin_plain {min : Option Nat} {c : Char} {t : Text} (h : c ≠ ',') : afterMin f min (c :: t) = match min with
    | some m => .ok (m, some m, c :: t)
    | none => .error .countMissing := by
  simp [afterMin, h]

omit hf in
theorem afterMin_comma {m : Nat} {c : Char} {t : Text} (h : c ≠ '}') :
    afterMin f (some m) (',' :: c :: t) = Reader.readCount f (c :: t) >>= fun r => match r.1 with
      | some n => .ok (m, some n, r.2)
      | none => .error .countMissing := by
  simp [afterMin, h]

theorem afterMin_local {min : Option Nat} {t u : Text} {least : Nat} {most : Option Nat}
    (h : afterMin f min t = .ok (least, most, u)) :
    ∃ m, t = m ++ u ∧ InertText m ∧ ∀ w, w.head? = u.head? → afterMin f min (m ++ w) = .ok (least, most, w) := by
  match t with
  | [] => cases h
  | c :: t =>
    by_cases hc : c = ','
    · subst hc
      match t, min with
      | [], _ => cases h
      | d :: t, none => cases h
      | d :: t, some l =>
        by_cases hd : d = '}'
        · subst hd
          cases h
          refine ⟨[','], rfl, by decide, fun w hw => ?_⟩
          cases w with
          | nil => cases hw
          | cons e w => cases hw; rfl
        · rw [afterMin_comma hd] at h
          obtain ⟨⟨n, v⟩, hn, h⟩ := bind_eq_ok.1 h
          cases n with
          | none => cases h
          | some n =>
            cases h
            obtain ⟨m, ht, hm, hne, hw⟩ := readCount_local hf hn
            match m with
            | [] => cases hne rfl
            | e :: m =>
              cases ht
              refine ⟨',' :: d :: m, rfl, List.forall_mem_cons.2 ⟨by decide, hm⟩, fun w hr => ?_⟩
              have := hw w hr
              rw [List.cons_append] at this
              rw [List.cons_append, List.cons_append, afterMin_comma hd, this, bind_ok]
    · rw [afterMin_plain hc] at h
      cases min with
      | none => cases h
      | some l =>
        cases h
        refine ⟨[], rfl, List.forall_mem_nil _, fun w hw => ?_⟩
        cases w with
        | nil => cases hw
        | cons e w => cases hw; rw [List.nil_append, afterMin_plain hc]

omit hf in
theorem afterMax_local {min : Nat} {max : Option Nat} {t u : Text} {a : Action} (h : afterMax min max t = .ok (a, u)) :
    ∃ m, t = '}' :: (m ++ u) ∧ InertText m ∧ (∃ greedy, a = .again greedy min max) ∧
      ∀ w, Follows u w → afterMax min max ('}' :: (m ++ w)) = .ok (a, w) := by
  unfold afterMax at h
  split at h
  · split at h
    · cases h
    · rename_i hm
      obtain ⟨m, rfl, hi, ha, hw⟩ := againToken_local (Except.ok.inj h)
      refine ⟨m, rfl, hi, ha, fun w hu => ?_⟩
      rw [afterMax, if_neg hm, hw w hu]
  · cases h

theorem countToken_local {t u : Text} {a : Action} (h : countToken f t = .ok (a, u)) :
    ∃ m, t = m ++ u ∧ InertText m ∧ (∃ greedy min max, a = .again greedy min max) ∧
      ∀ w, Follows u w → countToken f (m ++ w) = .ok (a, w) := by
  obtain ⟨⟨n, t'⟩, hn, h⟩ := bind_eq_ok.1 h
  obtain ⟨⟨least, most, t''⟩, hl, hend⟩ := bind_eq_ok.1 h
  obtain ⟨m, ht, hm, -, hw⟩ := readCount_local hf hn
  obtain ⟨m', ht', hm', hw'⟩ := afterMin_local hf hl
  obtain ⟨m'', ht'', hm'', ⟨greedy, ha⟩, hw''⟩ := afterMax_local hend
  dsimp only at ht' ht''
  subst ht
  subst ht' ht''
  refine ⟨m ++ (m' ++ '}' :: m''), by simp, ?_, ⟨greedy, least, most, ha⟩, fun w hu => ?_⟩
  · rw [InertText, List.forall_mem_append, List.forall_mem_append, List.forall_mem_cons]
    exact ⟨hm, hm', by decide, hm''⟩
  · have hx : ('}' :: (m'' ++ w)).head? = ('}' :: (m'' ++ u)).head? := rfl
    rw [countToken, List.append_assoc, List.append_assoc, List.cons_append, hw _ (head?_append_congr hx), bind_ok,
      hw' _ hx, bind_ok]
    exact hw'' w hu

end

/-! ## Whole tokens -/

/-- A piece that is a set of characters or an assertion. -/
def Piece.Single (p : Piece) : Prop :=
  p.modes = false ∧ ((∃ s, p.regex = .chars s) ∨ ∃ a, p.regex = .assert a)

/-- The form of a token by its first character and the others, with what it does and what follows. -/
inductive Shape : Char → Text → Action → Text → Prop
  | close {u : Text} : Shape ')' [] .close u
  | alternate {u : Text} : Shape '|' [] .alternate u
  | again {c : Char} {m u : Text} {greedy : Bool} {min : Nat} {max : Option Nat} :
      c ∈ ['?', '*', '+', '{'] → InertText m → Shape c m (.again greedy min max) u
  | single {c : Char} {p : Piece} {u : Text} :
      c ∉ ['(', ')', '|', '[', '?', '*', '+', '{', '\\'] → p.Single → Shape c [] (.add p) u
  | escape {c : Char} {m u : Text} {p : Piece} : InertText m → p.Single → Shape '\\' (c :: m) (.add p) u
  | bracket {us u : Text} {p : Piece} : Units us → p.Single → Shape '[' (us ++ [']']) (.add p) u
  | counted {u : Text} : u.head? ≠ some '?' → Shape '(' [] .openCounted u
  | named {mark name u : Text} : (mark = ['?', 'P', '<'] ∨ mark = ['?', '<']) → '>' ∉ name →
      name.head? ≠ some '=' → name.head? ≠ some '!' → Shape '(' (mark ++ name ++ ['>']) (.openNamed name) u
  | openModes {c : Char} {m u : Text} {f : Flags} : (∀ d ∈ c :: m, d ∈ modeChars) → Shape '(' ('?' :: c :: m)
      (.openModes f) u
  | setModes {c : Char} {m u : Text} {f : Flags} : (∀ d ∈ c :: m, d ∈ modeChars) → Shape '(' ('?' :: c :: m)
      (.setModes f) u

section

variable {f : Flags} (hf : f.verbose = false)

theorem modesToken_local {t u : Text} {a : Action} (h : modesToken f t = .ok (a, u)) :
    ∃ c m, t = c :: (m ++ u) ∧ (∀ d ∈ c :: m, d ∈ modeChars) ∧ (∃ g, a = .openModes g ∨ a = .setModes g) ∧
      ∀ w, modesToken f (c :: (m ++ w)) = .ok (a, w) := by
  obtain ⟨⟨g, any, stop, v⟩, hr, hend⟩ := bind_eq_ok.1 h
  obtain ⟨m, rfl, hne, hm, hw⟩ := readModes_local hr
  match m with
  | [] => exact absurd rfl hne
  | c :: m =>
    dsimp only at hend
    split at hend
    · rename_i hs
      cases hend
      refine ⟨c, m, rfl, hm, ⟨g, .inl rfl⟩, fun w => ?_⟩
      rw [modesToken, ← List.cons_append, hw w, bind_ok]
      exact if_pos hs
    · rename_i hs
      split at hend
      · rename_i ha
        cases hend
        refine ⟨c, m, rfl, hm, ⟨g, .inr rfl⟩, fun w => ?_⟩
        rw [modesToken, ← List.cons_append, hw w, bind_ok]
        exact (if_neg hs).trans (if_pos ha)
      · cases hend

theorem opening_eq_named {t v : Text} (h : opening t = .named v) :
    t = '?' :: 'P' :: '<' :: v ∨ (t = '?' :: '<' :: v ∧ v.head? ≠ some '=' ∧ v.head? ≠ some '!') := by
  unfold opening at h
  split at h
  case h_5 => cases h; exact .inl rfl
  case h_6 he hx =>
    cases h
    refine .inr ⟨rfl, fun h => ?_, fun h => ?_⟩ <;> cases v with
      | nil => cases h
      | cons c v => cases h; first | exact he _ rfl | exact hx _ rfl
  all_goals cases h

theorem opening_eq_modes {t v : Text} (h : opening t = .modes v) : t = '?' :: v := by
  unfold opening at h
  split at h
  case h_8 => cases h; rfl
  all_goals cases h

theorem head?_of_opening_counted {t : Text} (h : opening t = .counted) : t.head? ≠ some '?' := by
  intro hq
  match t with
  | c :: t =>
    cases hq
    unfold opening at h
    split at h
    case h_9 he => exact he t rfl
    all_goals cases h

theorem groupToken_local {t u : Text} {a : Action} (h : groupToken f t = .ok (a, u)) :
    ∃ m, t = m ++ u ∧ Shape '(' m a u ∧ ∀ w, Follows u w → groupToken f (m ++ w) = .ok (a, w) := by
  unfold groupToken at h
  split at h
  case h_1 => cases h
  case h_2 v ho =>
    obtain ⟨name, rfl, rfl, hne, he, hx, hw⟩ := nameToken_local h
    rcases opening_eq_named ho with rfl | ⟨rfl, he', hx'⟩
    · refine ⟨['?', 'P', '<'] ++ name ++ ['>'], by simp, .named (.inl rfl) hne he hx, fun w _ => ?_⟩
      have : ['?', 'P', '<'] ++ name ++ ['>'] ++ w = '?' :: 'P' :: '<' :: (name ++ '>' :: w) := by simp
      rw [this, groupToken]
      exact hw w
    · refine ⟨['?', '<'] ++ name ++ ['>'], by simp, .named (.inr rfl) hne he hx, fun w _ => ?_⟩
      have : ['?', '<'] ++ name ++ ['>'] ++ w = '?' :: '<' :: (name ++ '>' :: w) := by simp
      rw [head?_append_cons name '>' u w] at he' hx'
      rw [this, groupToken, opening_named he' hx']
      exact hw w
  case h_3 => cases h
  case h_4 v ho =>
    obtain ⟨c, m, rfl, hm, ⟨g, hg⟩, hw⟩ := modesToken_local h
    obtain rfl := opening_eq_modes ho
    refine ⟨'?' :: c :: m, rfl, by rcases hg with rfl | rfl; exacts [.openModes hm, .setModes hm], fun w _ => ?_⟩
    rw [List.cons_append, List.cons_append, groupToken, opening_modes (hm c List.mem_cons_self)]
    exact hw w
  case h_5 ho =>
    cases h
    have hq := head?_of_opening_counted ho
    refine ⟨[], rfl, .counted hq, fun w hw => ?_⟩
    rw [List.nil_append, groupToken, opening_counted fun h => hq (hw.1.2 h)]

include hf

/-- A token has a form, and does the same in front of other texts. -/
theorem token_local {c : Char} {t u : Text} {a : Action} (h : token f c t = .ok (a, u)) :
    ∃ m, t = m ++ u ∧ Shape c m a u ∧ ∀ w, Follows u w → token f c (m ++ w) = .ok (a, w) := by
  have again : ∀ {c min max}, c ∈ ['?', '*', '+', '{'] →
      (∀ t, token f c t = .ok (againToken min max t)) → token f c t = .ok (a, u) →
      ∃ m, t = m ++ u ∧ Shape c m a u ∧ ∀ w, Follows u w → token f c (m ++ w) = .ok (a, w) := by
    intro c min max hc ht h
    rw [ht] at h
    obtain ⟨m, hm, hi, ⟨greedy, rfl⟩, hw⟩ := againToken_local (Except.ok.inj h)
    exact ⟨m, hm, .again hc hi, fun w hu => by rw [ht, hw w hu]⟩
  have single : ∀ {c p}, c ∉ ['(', ')', '|', '[', '?', '*', '+', '{', '\\'] → p.Single →
      (∀ t, token f c t = .ok (.add p, t)) → token f c t = .ok (a, u) →
      ∃ m, t = m ++ u ∧ Shape c m a u ∧ ∀ w, Follows u w → token f c (m ++ w) = .ok (a, w) := by
    intro c p hc hp ht h
    rw [ht] at h
    cases h
    exact ⟨[], rfl, .single hc hp, fun w _ => ht w⟩
  have hc := h
  unfold token at hc
  split at hc
  case h_1 => exact groupToken_local h
  case h_2 => cases h; exact ⟨[], rfl, .close, fun w _ => rfl⟩
  case h_3 => cases h; exact ⟨[], rfl, .alternate, fun w _ => rfl⟩
  case h_4 =>
    obtain ⟨⟨p, v⟩, hp, hv⟩ := bind_eq_ok.1 hc
    cases hv
    obtain ⟨us, hus, rfl, hw⟩ := ClassPart.read_local hf hp
    refine ⟨us ++ [']'], by simp, .bracket hus ⟨rfl, .inl ⟨_, rfl⟩⟩, fun w _ => ?_⟩
    rw [List.append_assoc, List.singleton_append]
    show ClassPart.read f (us ++ ']' :: w) >>= _ = _
    rw [hw w, bind_ok]
  case h_5 | h_6 | h_7 => exact again (by decide) (fun t => rfl) h
  case h_8 =>
    obtain ⟨m, hm, hi, ⟨greedy, min, max, rfl⟩, hw⟩ := countToken_local hf h
    exact ⟨m, hm, .again (by decide) hi, hw⟩
  case h_9 =>
    obtain ⟨⟨e, v⟩, he, hv⟩ := bind_eq_ok.1 hc
    cases hv
    obtain ⟨d, m, rfl, hm, hw⟩ := Escape.read_local hf he
    refine ⟨d :: m, rfl, .escape hm ⟨rfl, ?_⟩, fun w hu => ?_⟩
    · cases e with
      | literal | set => exact .inl ⟨_, rfl⟩
      | assertion => exact .inr ⟨_, rfl⟩
    · rw [List.cons_append]
      show Escape.read f (d :: (m ++ w)) >>= _ = _
      rw [hw w hu.2, bind_ok]
  case h_10 =>
    obtain ⟨s, hs, hv⟩ := bind_eq_ok.1 hc
    exact single (by decide) ⟨rfl, .inl ⟨s, rfl⟩⟩ (fun t => by rw [token, hs, bind_ok]) h
  case h_11 | h_12 => exact single (by decide) ⟨rfl, .inr ⟨_, rfl⟩⟩ (fun t => rfl) h
  case h_13 =>
    have hm : c ∉ metaChars := by
      simp only [metaChars, List.mem_cons, List.not_mem_nil, or_false]
      rintro (h | h | h | h | h | h | h | h | h | h | h | h) <;> contradiction
    exact single (fun h => hm (List.mem_append_left ['.', '^', '$'] h)) ⟨rfl, .inl ⟨_, rfl⟩⟩
      (fun t => token_char hm t) h

end

/-! ## The modes do not count for where a token ends -/

/-- Actions that differ at most by the modes under which their token was read. -/
def Action.Like : Action → Action → Prop
  | openCounted, openCounted | close, close | alternate, alternate => True
  | openNamed name, openNamed name' => name = name'
  | openModes f, openModes g | setModes f, setModes g => f.verbose = g.verbose
  | add p, add q => p.Single ∧ q.Single
  | again _ min max, again _ min' max' => min = min' ∧ max = max'
  | _, _ => False

theorem set?_verbose {f g f' g' : Flags} {c : Char} {on : Bool} (h : f.verbose = g.verbose) (hf : f.set? c on = some f')
    (hg : g.set? c on = some g') : f'.verbose = g'.verbose := by
  unfold Flags.set? at hf hg
  split at hf <;> cases hf <;> cases hg <;> first | exact h | rfl

theorem readModes_rest : ∀ {seen : List Char} {f g f' g' : Flags} {t u v : Text} {i j : Bool} {c d : Char},
    f.verbose = g.verbose → Reader.readModes seen f t = .ok (f', i, c, u) →
    Reader.readModes seen g t = .ok (g', j, d, v) →
      f'.verbose = g'.verbose ∧ i = j ∧ c = d ∧ u = v
  | _, _, _, _, _, [], _, _, _, _, _, _, _, h, _ => by cases h
  | seen, f, g, f', g', a :: t, u, v, i, j, c, d, hv, h, k => by
    rw [Reader.readModes] at h k
    split at h
    · rename_i ha
      rw [if_pos ha] at k
      split at h
      · cases h
      · rename_i hs
        rw [if_neg hs] at k
        cases h; cases k
        exact ⟨hv, rfl, rfl, rfl⟩
    · rename_i ha
      rw [if_neg ha] at k
      split at h
      · cases h
      · rename_i hs
        rw [if_neg hs] at k
        split at h
        · rename_i hd
          rw [if_pos hd] at k
          exact readModes_rest hv h k
        · rename_i hd
          rw [if_neg hd] at k
          split at h
          · rename_i f'' hf''
            split at k
            · rename_i g'' hg''
              exact readModes_rest (set?_verbose hv hf'' hg'') h k
            · cases k
          · cases h

section

variable {f g : Flags} (hf : f.verbose = false) (hg : g.verbose = false)
include hf hg

theorem readCount_flags (t : Text) : Reader.readCount f t = Reader.readCount g t := by
  rw [readCount_eq hf, readCount_eq hg]

theorem countToken_flags (t : Text) : countToken f t = countToken g t := by
  have after : ∀ min t, afterMin f min t = afterMin g min t := by
    intro min t
    unfold afterMin
    simp only [readCount_flags hf hg]
  simp only [countToken, readCount_flags hf hg, after]

theorem groupToken_rest {t u v : Text} {a b : Action} (h : groupToken f t = .ok (a, u))
    (k : groupToken g t = .ok (b, v)) :
    u = v ∧ a.Like b := by
  unfold groupToken at h k
  cases ho : opening t with
  | lookAround | unclosed => simp only [ho] at h; cases h
  | counted => simp only [ho] at h k; cases h; cases k; exact ⟨rfl, trivial⟩
  | named w =>
    simp only [ho] at h k
    cases h.symm.trans k
    obtain ⟨name, -, rfl, -⟩ := nameToken_local h
    exact ⟨rfl, rfl⟩
  | modes w =>
    simp only [ho] at h k
    obtain ⟨⟨f', i, c, u'⟩, hr, h⟩ := bind_eq_ok.1 h
    obtain ⟨⟨g', j, d, v'⟩, kr, k⟩ := bind_eq_ok.1 k
    obtain ⟨hv, rfl, rfl, rfl⟩ := readModes_rest (hf.trans hg.symm) hr kr
    dsimp only at h k
    split at h
    · rename_i hs
      rw [if_pos hs] at k
      cases h; cases k
      exact ⟨rfl, hv⟩
    · rename_i hs
      rw [if_neg hs] at k
      split at h
      · rename_i hi
        rw [if_pos hi] at k
        cases h; cases k
        exact ⟨rfl, hv⟩
      · cases h

/-- Where a token ends does not depend on the modes. -/
theorem token_rest {c : Char} {t u v : Text} {a b : Action} (h : token f c t = .ok (a, u))
    (k : token g c t = .ok (b, v)) :
    u = v ∧ a.Like b := by
  have single : ∀ {r s : Regex}, (Piece.leaf r).Single → (Piece.leaf s).Single →
      (Except.ok (Action.add (.leaf r), t) : Except PatternError _) = .ok (a, u) →
      (Except.ok (Action.add (.leaf s), t) : Except PatternError _) = .ok (b, v) → u = v ∧ a.Like b := by
    rintro r s hr hs h k
    cases h; cases k
    exact ⟨rfl, hr, hs⟩
  unfold token at h k
  split at h
  case h_1 => exact groupToken_rest hf hg h k
  case h_2 | h_3 => cases h; cases k; exact ⟨rfl, trivial⟩
  case h_4 =>
    obtain ⟨⟨p, u'⟩, hp, h⟩ := bind_eq_ok.1 h
    obtain ⟨⟨q, v'⟩, hq, k⟩ := bind_eq_ok.1 k
    obtain rfl := ClassPart.read_rest hf hg hp hq
    cases h; cases k
    exact ⟨rfl, ⟨rfl, .inl ⟨_, rfl⟩⟩, rfl, .inl ⟨_, rfl⟩⟩
  case h_5 | h_6 | h_7 => cases h; cases k; exact ⟨rfl, rfl, rfl⟩
  case h_8 =>
    rw [countToken_flags hf hg] at h
    cases h.symm.trans k
    obtain ⟨m, -, -, ⟨greedy, min, max, rfl⟩, -⟩ := countToken_local hg k
    exact ⟨rfl, rfl, rfl⟩
  case h_9 =>
    have leaf : ∀ (f : Flags) (e : Escape), (Piece.leaf (e.regex f)).Single := by
      intro f e
      cases e with
      | literal | set => exact ⟨rfl, .inl ⟨_, rfl⟩⟩
      | assertion => exact ⟨rfl, .inr ⟨_, rfl⟩⟩
    obtain ⟨⟨d, u'⟩, hd, h⟩ := bind_eq_ok.1 h
    obtain ⟨⟨e, v'⟩, he, k⟩ := bind_eq_ok.1 k
    obtain rfl := Escape.read_rest hf hg hd he
    cases h; cases k
    exact ⟨rfl, leaf f d, leaf g e⟩
  case h_10 =>
    obtain ⟨s, -, h⟩ := bind_eq_ok.1 h
    obtain ⟨r, -, k⟩ := bind_eq_ok.1 k
    exact single ⟨rfl, .inl ⟨s, rfl⟩⟩ ⟨rfl, .inl ⟨r, rfl⟩⟩ h k
  case h_11 | h_12 => exact single ⟨rfl, .inr ⟨_, rfl⟩⟩ ⟨rfl, .inr ⟨_, rfl⟩⟩ h k
  case h_13 => exact single ⟨rfl, .inl ⟨_, rfl⟩⟩ ⟨rfl, .inl ⟨_, rfl⟩⟩ h (by simpa [*] using k)

end

end PathRouter.Regex
