/-
Matching as movement along a text. A regular expression located on a text (`Regex.locate`) is a
`Track`: its character classes and assertions have become sets of positions, so nothing of the
text is left but its length. `Track.outcomes` is the meaning: every way through the track, in the
order of preference. Repetition follows three rules: a first round that passes no character ends
the repetition, every later round passes at least one character, and greedy repetitions prefer one
more round to stopping.
-/
import PathRouter.Regex.Basic

namespace PathRouter

/-- A set of positions, as the number whose bit `p` tells whether position `p` is a member. -/
abbrev PositionSet := Nat

namespace PositionSet

/-- The number with the given bits, the lowest first. -/
def ofBits : List Bool → PositionSet
  | [] => 0
  | b :: bs => 2 * ofBits bs + b.toNat

/-- The positions of the characters that belong to a set. -/
def ofChars (s : CharSet) (t : Text) : PositionSet :=
  ofBits (t.map s)

/-- Whether the assertion holds at each position of a text, given the character before it. -/
def holdings (a : Assertion) : Option Char → Text → List Bool
  | before, [] => [a before none]
  | before, c :: t => a before (some c) :: holdings a (some c) t

/-- The positions, the end of the text included, at which an assertion holds. -/
def ofAssertion (a : Assertion) (t : Text) : PositionSet :=
  ofBits (holdings a none t)

/-- The positions up to `n`. -/
def upTo (n : Nat) : PositionSet :=
  Nat.pow 2 (n + 1) - 1

/-- The members greater than `p`. -/
def above (p : Nat) (s : PositionSet) : PositionSet :=
  (s >>> (p + 1)) <<< (p + 1)

/-- The member `p`, if it is one. -/
def only (p : Nat) (s : PositionSet) : PositionSet :=
  if s.testBit p then 1 <<< p else 0

end PositionSet

/-- The span of a passed group: its index and the positions where it began and ended. -/
structure Span where
  group : Nat
  start : Nat
  stop : Nat
  deriving DecidableEq, Repr

/-- How far a movement along a text has come: the position and the spans of the groups passed,
newest first. -/
structure Progress where
  pos : Nat
  spans : List Span
  deriving DecidableEq, Repr

namespace Progress

/-- One character further. -/
def advance (p : Progress) : Progress :=
  { p with pos := p.pos + 1 }

/-- With a group passed that began at `start` and ends here. -/
def record (p : Progress) (group start : Nat) : Progress :=
  { p with spans := ⟨group, start, p.pos⟩ :: p.spans }

end Progress

/-- A regular expression located on a text: `step` passes a character and `hold` stays in place,
each at its positions only. -/
inductive Track where
  | stay
  | step (places : PositionSet)
  | hold (places : PositionSet)
  | seq (first second : Track)
  | either (preferred other : Track)
  | oneOrMore (greedy : Bool) (body : Track)
  | span (group : Nat) (body : Track)

namespace Track

/-- The body or nothing, the body preferred iff `greedy`. -/
def optional (greedy : Bool) (body : Track) : Track :=
  if greedy then either body stay else either stay body

/-- The body `n` times. -/
def power (body : Track) : Nat → Track
  | 0 => stay
  | n + 1 => seq body (power body n)

/-- The body at most `n` times. -/
def atMost (greedy : Bool) (body : Track) : Nat → Track
  | 0 => stay
  | n + 1 => optional greedy (seq body (atMost greedy body n))

/-- The body between `min` and `max` times. -/
def times (greedy : Bool) (min : Nat) (max : Option Nat) (body : Track) : Track :=
  match min, max with
  | 0, none => optional greedy (oneOrMore greedy body)
  | n + 1, none => seq (power body n) (oneOrMore greedy body)
  | n, some m => seq (power body n) (atMost greedy body (m - n))

/-- Further rounds, each passing at least one character, and every place to stop between them. -/
def rounds (greedy : Bool) (round : Progress → List Progress) : Nat → Progress → List Progress
  | 0, p => [p]
  | k + 1, p =>
    let further := ((round p).filter (p.pos < ·.pos)).flatMap (rounds greedy round k)
    if greedy then further ++ [p] else p :: further

/-- Every way through the track on a text of `n` characters, in the order of preference. -/
def outcomes (n : Nat) : Track → Progress → List Progress
  | stay, p => [p]
  | step s, p => if s.testBit p.pos then [p.advance] else []
  | hold s, p => if s.testBit p.pos then [p] else []
  | seq a b, p => (a.outcomes n p).flatMap (b.outcomes n)
  | either a b, p => a.outcomes n p ++ b.outcomes n p
  | oneOrMore greedy t, p =>
    (t.outcomes n p).flatMap fun q =>
      if q.pos = p.pos then [q] else rounds greedy (t.outcomes n) (n - q.pos) q
  | span i t, p => (t.outcomes n p).map (·.record i p.pos)

end Track

/-- The expression located on a text. -/
def Regex.locate (t : Text) : Regex → Track
  | .empty => .stay
  | .chars s => .step (.ofChars s t)
  | .assert a => .hold (.ofAssertion a t)
  | .concat r s => .seq (r.locate t) (s.locate t)
  | .alt r s => .either (r.locate t) (s.locate t)
  | .times greedy min max r => .times greedy min max (r.locate t)
  | .group i r => .span i (r.locate t)

end PathRouter
