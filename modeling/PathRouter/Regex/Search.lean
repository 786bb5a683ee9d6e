/-
Finding the preferred way without trying them all. `Track.before` computes, from the end
backwards, the positions from which a track leads into a given set of positions; `Track.first`
then goes forward and takes at every choice the first branch that still leads there. Each is
linear in the track for every round of a repetition, whatever the number of outcomes.
-/
import PathRouter.Regex.Track

namespace PathRouter

namespace Track

/-- The set with everything that leads into it, adding at most `k` times what `back` yields. -/
def closure (back : PositionSet → PositionSet) : Nat → PositionSet → PositionSet
  | 0, s => s
  | k + 1, s =>
    let t := s ||| back s
    if t = s then s else closure back k t

/-- The positions from which the track leads into a set. -/
def before (n : Nat) : Track → PositionSet → PositionSet
  | stay, s => s
  | step m, s => (s >>> 1) &&& m
  | hold m, s => s &&& m
  | seq a b, s => a.before n (b.before n s)
  | either a b, s => a.before n s ||| b.before n s
  | oneOrMore _ t, s => t.before n (closure (t.before n) (n + 1) s)
  | span _ t, s => t.before n s

/-- The first of the further rounds that stops in `goal`; `live` are the positions from which
further rounds lead there. -/
def firstRounds (greedy : Bool) (round : PositionSet → Progress → Option Progress)
    (goal live : PositionSet) : Nat → Progress → Option Progress
  | 0, p => if goal.testBit p.pos then some p else none
  | k + 1, p =>
    let further := fun _ : Unit =>
      (round (live.above p.pos) p).bind (firstRounds greedy round goal live k)
    let stop := if goal.testBit p.pos then some p else none
    if greedy then (further ()).orElse fun _ => stop else stop.orElse further

/-- The first outcome, in the order of preference, at a position of the set. -/
def first (n : Nat) : Track → PositionSet → Progress → Option Progress
  | stay, s, p => if s.testBit p.pos then some p else none
  | step m, s, p => if m.testBit p.pos && s.testBit (p.pos + 1) then some p.advance else none
  | hold m, s, p => if m.testBit p.pos && s.testBit p.pos then some p else none
  | seq a b, s, p => (a.first n (b.before n s) p).bind (b.first n s)
  | either a b, s, p => (a.first n s p).orElse fun _ => b.first n s p
  | oneOrMore greedy t, s, p =>
    let live := closure (t.before n) (n + 1) s
    (t.first n (live.above p.pos ||| s.only p.pos) p).bind fun q =>
      if q.pos = p.pos then some q
      else firstRounds greedy (t.first n) s live (n - q.pos) q
  | span i t, s, p => (t.first n s p).map (·.record i p.pos)

/-- The leftmost position from which the track leads anywhere, with its preferred outcome. -/
def find (n : Nat) (t : Track) : Option (Nat × Progress) :=
  let starts := t.before n (.upTo n)
  match (List.range (n + 1)).find? starts.testBit with
  | some start => (t.first n (.upTo n) ⟨start, []⟩).map fun p => (start, p)
  | none => none

/-- Whether the track leads anywhere from any position. -/
def matchesSomewhere (n : Nat) (t : Track) : Bool :=
  t.before n (.upTo n) &&& .upTo n != 0

end Track

/-- A match: where it starts and stops, and the spans of the groups passed, newest first. -/
structure Match where
  start : Nat
  stop : Nat
  spans : List Span
  deriving DecidableEq, Repr

namespace Match

/-- The span of the latest passage of a group. -/
def span? (m : Match) (group : Nat) : Option Span :=
  m.spans.find? (·.group == group)

/-- The part of the text that a group matched. -/
def text? (m : Match) (t : Text) (group : Nat) : Option Text :=
  (m.span? group).map fun s => (t.take s.stop).drop s.start

end Match

namespace Regex

/-- The leftmost match, by preference among those that start there. -/
def find (r : Regex) (t : Text) : Option Match :=
  ((r.locate t).find t.length).map fun (start, p) => ⟨start, p.pos, p.spans⟩

/-- Whether the expression matches anywhere in the text. -/
def isMatch (r : Regex) (t : Text) : Bool :=
  (r.locate t).matchesSomewhere t.length

end Regex

end PathRouter
