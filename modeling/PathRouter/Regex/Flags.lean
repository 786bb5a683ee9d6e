/-
The modes under which pattern text is read, the reasons for which it is refused, and the text that
the modes make meaningless.
-/
import PathRouter.Regex.Basic

namespace PathRouter

/-- Why a pattern text is no regular expression. -/
inductive PatternError where
  | groupUnopened
  | groupUnclosed
  | groupNameEmpty
  | groupNameInvalid
  | groupNameRepeated
  | lookAround
  | backreference
  | flagUnknown
  | flagRepeated
  | flagMissing
  | flagsUnclosed
  | classUnclosed
  | classRange
  | classMember
  | escapeUnfinished
  | escapeUnknown
  | codePoint
  | propertyUnknown
  | wordBoundaryUnknown
  | nothingToRepeat
  | countUnclosed
  | countMissing
  | countRange
  | notCharacters
  | tooDeep
  | tooLarge
  deriving DecidableEq, Repr

namespace Regex

/-- The modes of reading: letters `i`, `m`, `s`, `U`, `u`, `R` and `x` in pattern text. -/
structure Flags where
  anyCase : Bool
  multiLine : Bool
  dotAll : Bool
  swapGreed : Bool
  unicode : Bool
  anyLineBreak : Bool
  verbose : Bool
  deriving DecidableEq, Repr

namespace Flags

/-- The modes at the start of a pattern text. -/
def initial (anyCase : Bool) : Flags :=
  ⟨anyCase, false, false, false, true, false, false⟩

/-- Turns the mode of a letter on or off; other letters name no mode. -/
def set? (f : Flags) (letter : Char) (on : Bool) : Option Flags :=
  match letter with
  | 'i' => some { f with anyCase := on }
  | 'm' => some { f with multiLine := on }
  | 's' => some { f with dotAll := on }
  | 'U' => some { f with swapGreed := on }
  | 'u' => some { f with unicode := on }
  | 'R' => some { f with anyLineBreak := on }
  | 'x' => some { f with verbose := on }
  | _ => none

/-- The text after blanks and comments; a comment goes from `#` to the end of the line. -/
def skipBlanks (inComment : Bool) : Text → Text
  | [] => []
  | c :: t =>
    if inComment then skipBlanks (c != '\n') t
    else if Unicode.isBlank c then skipBlanks false t
    else if c == '#' then skipBlanks true t
    else c :: t

/-- The text from its next meaningful character on: verbose text may hold blanks and comments. -/
def skip (f : Flags) (t : Text) : Text :=
  if f.verbose then skipBlanks false t else t

/-- The set with the characters that equal a member up to case, if case is ignored. -/
def foldCase (f : Flags) (s : CharSet) : CharSet :=
  if f.anyCase then (if f.unicode then s.anyCase else s.anyAsciiCase) else s

/-- One character as a set; when case is ignored, so are its variants. -/
def literal (f : Flags) (c : Char) : CharSet :=
  if f.anyCase then
    if f.unicode then fun d => Unicode.sameFold c d else fun d => Unicode.sameAscii c d
  else CharSet.single c

/-- The complement, refused when the text is not read as characters. -/
def complement (f : Flags) (s : CharSet) : Except PatternError CharSet :=
  if f.unicode then .ok s.compl else .error .notCharacters

/-- Any character, or any that does not end a line. -/
def dot (f : Flags) : Except PatternError CharSet :=
  if !f.unicode then .error .notCharacters
  else if f.dotAll then .ok fun _ => true
  else if f.anyLineBreak then .ok fun c => c != '\n' && c != '\r'
  else .ok fun c => c != '\n'

/-- What `^` asserts. -/
def caret (f : Flags) : Assertion :=
  if f.multiLine then (if f.anyLineBreak then .anyLineStart else .lineStart) else .textStart

/-- What `$` asserts. -/
def dollar (f : Flags) : Assertion :=
  if f.multiLine then (if f.anyLineBreak then .anyLineEnd else .lineEnd) else .textEnd

/-- The characters of words. -/
def word (f : Flags) : CharSet :=
  if f.unicode then Unicode.isWord else Unicode.isAsciiWord

/-- The decimal digits. -/
def digit (f : Flags) : CharSet :=
  if f.unicode then Unicode.isDigit else Char.isDigit

/-- The white space. -/
def blank (f : Flags) : CharSet :=
  if f.unicode then Unicode.isBlank else Unicode.isAsciiBlank

end Flags

end Regex

end PathRouter
