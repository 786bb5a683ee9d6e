/-
Regular expressions over characters. A character class is the predicate of its members, and an
assertion the condition on the characters before and after a position. Groups carry their index.
-/
import PathRouter.Text
import PathRouter.Unicode.CaseFolding
import PathRouter.Unicode.Properties

namespace PathRouter

/-- A set of characters, as the test for membership. -/
abbrev CharSet := Char → Bool

namespace CharSet

/-- The characters between two bounds, both included. -/
def range (lo hi : Char) : CharSet :=
  fun c => lo ≤ c && c ≤ hi

/-- One character. -/
def single (d : Char) : CharSet :=
  fun c => c == d

/-- The characters outside the set. -/
def compl (s : CharSet) : CharSet :=
  fun c => !s c

/-- The characters of at least one of the sets. -/
def union (s t : CharSet) : CharSet :=
  fun c => s c || t c

/-- The characters of both sets. -/
def inter (s t : CharSet) : CharSet :=
  fun c => s c && t c

/-- The characters of the first set outside the second. -/
def diff (s t : CharSet) : CharSet :=
  fun c => s c && !t c

/-- The characters of exactly one of the sets. -/
def symmDiff (s t : CharSet) : CharSet :=
  fun c => s c != t c

/-- The characters that equal a member up to case. -/
def anyCase (s : CharSet) : CharSet :=
  fun c => s c || (Unicode.variants c).any s

/-- The characters that equal a member up to the case of ASCII letters. -/
def anyAsciiCase (s : CharSet) : CharSet :=
  fun c => s c || (c.val < 128 && s (Unicode.swapAsciiCase c))

end CharSet

/-- A condition on the place between two characters; at an end of the text there is none. -/
abbrev Assertion := Option Char → Option Char → Bool

namespace Assertion

/-- The start of the text. -/
def textStart : Assertion := fun before _ => before.isNone

/-- The end of the text. -/
def textEnd : Assertion := fun _ after => after.isNone

/-- The start of a line that ends with a line feed. -/
def lineStart : Assertion := fun before _ => before.all (· == '\n')

/-- The end of a line that ends with a line feed. -/
def lineEnd : Assertion := fun _ after => after.all (· == '\n')

/-- The start of a line that ends with a line feed, a carriage return or both. -/
def anyLineStart : Assertion := fun before after =>
  before.all fun b => b == '\n' || (b == '\r' && after != some '\n')

/-- The end of a line that ends with a line feed, a carriage return or both. -/
def anyLineEnd : Assertion := fun before after =>
  after.all fun a => a == '\r' || (a == '\n' && before != some '\r')

/-- A place with a character of words on exactly one side. -/
def wordBoundary (word : CharSet) : Assertion := fun before after =>
  before.any word != after.any word

/-- A place where a word begins. -/
def wordStart (word : CharSet) : Assertion := fun before after =>
  !before.any word && after.any word

/-- A place where a word ends. -/
def wordEnd (word : CharSet) : Assertion := fun before after =>
  before.any word && !after.any word

/-- A place with no character of words before it. -/
def wordStartHalf (word : CharSet) : Assertion := fun before _ => !before.any word

/-- A place with no character of words after it. -/
def wordEndHalf (word : CharSet) : Assertion := fun _ after => !after.any word

/-- The places where the assertion fails. -/
def negate (a : Assertion) : Assertion := fun before after => !a before after

end Assertion

/-- A regular expression. A repetition has a least count and may have a greatest one; a greedy
repetition prefers more rounds, a lazy one fewer. -/
inductive Regex where
  | empty
  | chars (set : CharSet)
  | assert (condition : Assertion)
  | concat (first second : Regex)
  | alt (preferred other : Regex)
  | times (greedy : Bool) (min : Nat) (max : Option Nat) (body : Regex)
  | group (index : Nat) (body : Regex)

namespace Regex

/-- The expressions one after another. -/
def concatAll : List Regex → Regex
  | [] => empty
  | r :: rs => concat r (concatAll rs)

/-- The expressions as alternatives, the first preferred. -/
def altAll (r : Regex) : List Regex → Regex
  | [] => r
  | s :: rs => alt r (altAll s rs)

/-- The greatest index of a group, 0 if there is none. -/
def groupCount : Regex → Nat
  | empty | chars _ | assert _ => 0
  | concat r s | alt r s => max r.groupCount s.groupCount
  | times _ _ _ r => r.groupCount
  | group i r => max i r.groupCount

/-- Whether the expression contains the group. -/
def hasGroup (k : Nat) : Regex → Bool
  | empty | chars _ | assert _ => false
  | concat r s | alt r s => r.hasGroup k || s.hasGroup k
  | times _ _ _ r => r.hasGroup k
  | group i r => i == k || r.hasGroup k

/-- Whether the expression contains no assertion. -/
def assertionFree : Regex → Bool
  | empty | chars _ => true
  | assert _ => false
  | concat r s | alt r s => r.assertionFree && s.assertionFree
  | times _ _ _ r | group _ r => r.assertionFree

/-- Whether the expression passes no character, wherever it matches. -/
def staysInPlace : Regex → Bool
  | empty | assert _ => true
  | chars _ => false
  | concat r s | alt r s => r.staysInPlace && s.staysInPlace
  | times _ _ _ r => r.staysInPlace
  | group _ r => r.staysInPlace

/-- A repetition. No rounds at all leave nothing of the body, not even its groups. Where the body
stays in place, one round is as good as many. -/
def repetition (greedy : Bool) (min : Nat) (max : Option Nat) (body : Regex) : Regex :=
  if max = some 0 then empty
  else if body.staysInPlace then times greedy (min.min 1) (some 1) body
  else times greedy min max body

/-- The bytes that alternatives in a group take at the least on top of the largest of them, where one of them passes no
character. Where all of them pass some, they may become one set or share what they begin with. -/
def leastFork : Regex → Nat
  | alt r s => if r.staysInPlace || s.staysInPlace then 104 else 0
  | _ => 0

/-- The bytes that the program of an expression takes at the least, with 32 bytes for a state and 4 for each way on from
a state where ways part. A set of characters takes a state or more, so that this bounds the size from below only. -/
def leastSize : Regex → Nat
  | empty => 0
  | chars _ | assert _ => 32
  | concat r s => r.leastSize + s.leastSize
  | alt r s => max r.leastSize s.leastSize
  | times _ min none r => max min 1 * r.leastSize + 40
  | times _ min (some n) r => n * r.leastSize + if min < n then 40 * (n - min) + 32 else 0
  | group _ r => r.leastSize + r.leastFork + 64

end Regex

end PathRouter
