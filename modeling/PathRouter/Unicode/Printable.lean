/-
The characters that stand for themselves when a text is shown in quotes. Marks that would join the
character before them do not, nor do blanks other than the space, characters without a shape and
characters that are not shown by default. Showing knows one version of Unicode more than the
properties do, which is why its additions are listed here.
-/
import PathRouter.Unicode.Properties

namespace PathRouter.Unicode

/-- The characters that Unicode 17.0 added. -/
def additions : Boundaries := [
    2191, 2192, 3164, 3165, 3292, 3293, 6863, 6878, 6880, 6892, 8385, 8386, 11158, 11159, 42958,
    42960, 42962, 42963, 42964, 42965, 42993, 42994, 64451, 64467, 64912, 64914, 64968, 64975,
    67904, 67930, 69317, 69320, 69328, 69337, 69370, 69372, 72544, 72552, 73136, 73180, 73184,
    73194, 93856, 93881, 93883, 93908, 94194, 94199, 100344, 100352, 101641, 101663, 101760,
    101875, 118010, 118013, 118458, 118481, 118496, 118513, 124608, 124639, 124640, 124662,
    124670, 124672, 128728, 128729, 128887, 128891, 129232, 129241, 129620, 129624, 129674,
    129675, 129678, 129679, 129736, 129737, 129741, 129742, 129770, 129771, 129775, 129776,
    130042, 130043, 177978, 177984, 183970, 183982, 205744, 210042]

/-- The marks among the additions. -/
def addedMarks : Boundaries := [
    6863, 6878, 6880, 6892, 69370, 69372, 72544, 72545, 72546, 72549, 72550, 72551, 124643,
    124644, 124646, 124647, 124654, 124656, 124661, 124662]

/-- Whether a character joins the one before it. Modifier letters have a place of their own, even
those that extend the character before them. -/
def isJoining (c : Char) : Bool :=
  inEither isGraphemeExtend (inBoundaries addedMarks) c && !Category.contains .modifierLetter c

/-- The categories of characters without a shape of their own. -/
def shapeless : List Category :=
  [.spaceSeparator, .lineSeparator, .paragraphSeparator, .control, .format, .privateUse,
    .unassigned]

/-- Whether a character has a shape; the space counts as having one. -/
def isPrintable (c : Char) : Bool :=
  c == ' ' || inBoundaries additions c || !(inCategories shapeless c || isIgnorable c)

end PathRouter.Unicode
