/-
How characters take part in dividing text into graphemes, words and sentences (Unicode 16.0): for
each of the three, the classes of characters with their normalised names.
-/
import PathRouter.Unicode.Properties
import PathRouter.Unicode.Script

namespace PathRouter.Unicode.Breaks

/-- A class of characters with its normalised names. -/
abbrev Named := List String × (Char → Bool)

/-- The class with a normalised name. -/
def named? (classes : List Named) (name : List Char) : Option (Char → Bool) :=
  (classes.find? fun p => p.1.contains (String.ofList name)).map (·.2)

/-- Whether a character is one of those given. -/
def isOneOf (cs : List Char) (c : Char) : Bool :=
  cs.contains c

/-! ## Graphemes -/

/-- The letters that are written with the one after them. -/
def precedingLetters : Boundaries := [
    3406, 3407, 70082, 70084, 70609, 70610, 71999, 72000, 72001, 72002, 72250, 72251, 72324,
    72330, 73030, 73031, 73474, 73475]

/-- The spacing marks that begin a grapheme of their own. -/
def detachedMarks : Boundaries := [
    4139, 4141, 4152, 4153, 4194, 4197, 4199, 4206, 4227, 4228, 4231, 4237, 4239, 4240, 4250,
    4253, 6753, 6754, 6755, 6757, 43643, 43644, 43645, 43646, 71456, 71458]

/-- The consonants that begin a syllable of Hangul. -/
def leadingConsonants : Boundaries := [4352, 4448, 43360, 43389]

/-- The vowels within a syllable. -/
def syllableVowels : Boundaries := [4448, 4520, 55216, 55239, 93539, 93540, 93543, 93547]

/-- The consonants that end a syllable of Hangul. -/
def trailingConsonants : Boundaries := [4520, 4608, 55243, 55292]

/-- Characters that stay with the one before them. -/
def extendsGrapheme : Char → Bool :=
  inEither isGraphemeExtend isEmojiModifier

/-- Controls, and characters without a shape that stand alone. -/
def isControl (c : Char) : Bool :=
  (inCategories [.lineSeparator, .paragraphSeparator, .control, .format] c ||
      (Category.contains .unassigned c && isIgnorable c)) &&
    !isOneOf ['\r', '\n', '\u200d'] c && !isGraphemeExtend c && !inBoundaries precedingControls c

/-- Characters that stay with the one after them. -/
def precedes : Char → Bool :=
  inEither (inBoundaries precedingLetters) (inBoundaries precedingControls)

/-- Spacing marks and two vowels that stay with the character before them. -/
def isAttachedMark (c : Char) : Bool :=
  isOneOf ['\u0e33', '\u0eb3'] c ||
    (Category.contains .spacingMark c && !isGraphemeExtend c && !inBoundaries detachedMarks c)

/-- Syllables of Hangul. -/
def isSyllable (c : Char) : Bool :=
  '가' ≤ c && c ≤ '힣'

/-- Syllables of Hangul that end with their vowel. -/
def isOpenSyllable (c : Char) : Bool :=
  isSyllable c && (c.toNat - '가'.toNat) % 28 == 0

/-- The classes for graphemes. -/
def graphemes : List Named := [
  (["cr"], isOneOf ['\r']),
  (["control", "cn"], isControl),
  (["extend", "ex"], extendsGrapheme),
  (["l"], inBoundaries leadingConsonants),
  (["lf"], isOneOf ['\n']),
  (["lv"], isOpenSyllable),
  (["lvt"], fun c => isSyllable c && !isOpenSyllable c),
  (["prepend", "pp"], precedes),
  (["regionalindicator", "ri"], isRegionLetter),
  (["spacingmark", "sm"], isAttachedMark),
  (["t"], inBoundaries trailingConsonants),
  (["v"], inBoundaries syllableVowels),
  (["zwj"], isOneOf ['\u200d'])]

/-! ## Words -/

/-- The letters of Hebrew. -/
def hebrewLetters : Boundaries := [
    1488, 1515, 1519, 1523, 64285, 64286, 64287, 64297, 64298, 64311, 64312, 64317, 64318, 64319,
    64320, 64322, 64323, 64325, 64326, 64336]

/-- The characters of Katakana. -/
def katakana : Boundaries := [
    12337, 12342, 12443, 12445, 12448, 12539, 12540, 12544, 12784, 12800, 13008, 13055, 13056,
    13144, 65382, 65438, 110576, 110580, 110581, 110588, 110589, 110591, 110592, 110593, 110880,
    110883, 110933, 110934, 110948, 110952]

/-- The letters that do not hold a word together, and the signs that do. -/
def switchedWordLetters : Boundaries := [
    706, 710, 722, 728, 734, 736, 741, 748, 749, 750, 751, 768, 1370, 1373, 1374, 1375, 1418,
    1419, 1523, 1524, 1807, 1808, 3585, 3633, 3634, 3636, 3648, 3655, 3713, 3715, 3716, 3717,
    3718, 3723, 3724, 3748, 3749, 3750, 3751, 3761, 3762, 3764, 3773, 3774, 3776, 3781, 3782,
    3783, 3804, 3808, 4096, 4139, 4159, 4160, 4176, 4182, 4186, 4190, 4193, 4194, 4197, 4199,
    4206, 4209, 4213, 4226, 4238, 4239, 6016, 6068, 6103, 6104, 6108, 6109, 6480, 6510, 6512,
    6517, 6528, 6572, 6576, 6602, 6688, 6741, 6823, 6824, 42760, 42775, 42784, 42786, 42889,
    42891, 43488, 43493, 43494, 43504, 43514, 43519, 43616, 43639, 43642, 43643, 43646, 43696,
    43697, 43698, 43701, 43703, 43705, 43710, 43712, 43713, 43714, 43715, 43739, 43742, 43867,
    43868, 71424, 71451, 71488, 71495]

/-- The separators within a number. -/
def numericPunctuation : Boundaries := [
    44, 45, 59, 60, 894, 895, 1417, 1418, 1548, 1550, 1644, 1645, 2040, 2041, 8260, 8261, 65040,
    65041, 65044, 65045, 65104, 65105, 65108, 65109, 65292, 65293, 65307, 65308]

/-- The characters that connect words and numbers. -/
def connectors : Boundaries :=
  [95, 96, 8239, 8240, 8255, 8257, 8276, 8277, 65075, 65077, 65101, 65104, 65343, 65344]

/-- Marks and other characters that stay with the one before them. -/
def extendsWord : Char → Bool :=
  inEither extendsGrapheme (inCategories [.spacingMark])

/-- Format characters that are passed over. -/
def isPassedOver (c : Char) : Bool :=
  Category.contains .format c && !isGraphemeExtend c && !isOneOf ['\u200b', '\u200d'] c &&
    !inBoundaries precedingControls c

/-- Digits of a number. -/
def isNumeral (c : Char) : Bool :=
  isDigit c || c == '\u066b' || (c != '\u070f' && inBoundaries precedingControls c)

/-- Letters that hold a word together. -/
def isWordLetter : Char → Bool :=
  inSwitched switchedWordLetters fun c =>
    isAlphabetic c && !extendsWord c && !isIdeographic c && !inBoundaries katakana c &&
      !inBoundaries hebrewLetters c && !(Script.named? "hira".toList).any (·.contains c)

/-- The classes for words. -/
def words : List Named := [
  (["aletter", "le"], isWordLetter),
  (["cr"], isOneOf ['\r']),
  (["doublequote", "dq"], isOneOf ['"']),
  (["extend"], extendsWord),
  (["extendnumlet", "ex"], inBoundaries connectors),
  (["format", "fo"], isPassedOver),
  (["hebrewletter", "hl"], inBoundaries hebrewLetters),
  (["katakana", "ka"], inBoundaries katakana),
  (["lf"], isOneOf ['\n']),
  (["midletter", "ml"], isOneOf
    ['\u003a', '\u00b7', '\u0387', '\u055f', '\u05f4', '\u2027', '\ufe13', '\ufe55', '\uff1a']),
  (["midnum", "mn"], inBoundaries numericPunctuation),
  (["midnumlet", "mb"], isOneOf
    ['\u002e', '\u2018', '\u2019', '\u2024', '\ufe52', '\uff07', '\uff0e']),
  (["newline", "nl"], isOneOf ['\x0b', '\x0c', '\x85', '\u2028', '\u2029']),
  (["numeric", "nu"], isNumeral),
  (["regionalindicator", "ri"], isRegionLetter),
  (["singlequote", "sq"], isOneOf ['\'']),
  (["wsegspace"], fun c =>
    Category.contains .spaceSeparator c && !isOneOf ['\u00a0', '\u2007', '\u202f'] c),
  (["zwj"], isOneOf ['\u200d'])]

/-! ## Sentences -/

/-- The quotation marks that close a sentence and are no brackets. -/
def switchedBrackets : Boundaries :=
  [34, 35, 39, 40, 10075, 10081, 11776, 11778, 11782, 11785, 11787, 11788, 128630, 128633]

/-- The punctuation after which a sentence goes on. -/
def continuers : Boundaries := [
    44, 46, 58, 60, 894, 895, 1373, 1374, 1548, 1550, 2040, 2041, 6146, 6147, 6152, 6153, 8211,
    8213, 12289, 12290, 65040, 65042, 65043, 65045, 65073, 65075, 65104, 65106, 65108, 65110,
    65112, 65113, 65123, 65124, 65292, 65294, 65306, 65308, 65380, 65381]

/-- The letters of a script with one case, though they count as lowercase. -/
def caselessLetters : Boundaries := [4304, 4347, 4349, 4352]

/-- The capitals of a script with one case. -/
def caselessCapitals : Boundaries := [7312, 7355, 7357, 7360]

/-- Marks and joiners that stay with the character before them. -/
def extendsSentence (c : Char) : Bool :=
  isGraphemeExtend c || Category.contains .spacingMark c || c == '\u200d'

/-- The dots that end a sentence or an abbreviation. -/
def isDot : Char → Bool :=
  isOneOf ['.', '\u2024', '\ufe52', '\uff0e']

/-- Lowercase letters within a sentence. -/
def isLower (c : Char) : Bool :=
  isLowercase c && !extendsSentence c && !inBoundaries caselessLetters c

/-- Letters that begin a sentence. -/
def isUpper (c : Char) : Bool :=
  (isUppercase c || Category.contains .titlecaseLetter c) && !extendsSentence c &&
    !inBoundaries caselessCapitals c

/-- Letters without a case. -/
def isOtherLetter (c : Char) : Bool :=
  (isAlphabetic c || isOneOf ['\u05f3', '\u070f'] c) && !isLower c && !isUpper c &&
    !extendsSentence c

/-- The ends of lines and paragraphs beside the line feed and the carriage return. -/
def isSeparator : Char → Bool :=
  isOneOf ['\x85', '\u2028', '\u2029']

/-- The classes for sentences. -/
def sentences : List Named := [
  (["aterm", "at"], isDot),
  (["close", "cl"], inSwitched switchedBrackets
    (inCategories [.openPunctuation, .closePunctuation, .initialPunctuation, .finalPunctuation])),
  (["cr"], isOneOf ['\r']),
  (["extend", "ex"], extendsSentence),
  (["format", "fo"], fun c => isPassedOver c || c == '\u200b'),
  (["lf"], isOneOf ['\n']),
  (["lower", "lo"], isLower),
  (["numeric", "nu"], fun c => isNumeral c || c == '\u066c'),
  (["oletter", "le"], isOtherLetter),
  (["scontinue", "sc"], inBoundaries continuers),
  (["sterm", "st"], fun c => inBoundaries sentenceEnds c && !isDot c),
  (["sep", "se"], isSeparator),
  (["sp"], fun c => isBlank c && !isOneOf ['\r', '\n'] c && !isSeparator c),
  (["upper", "up"], isUpper)]

end PathRouter.Unicode.Breaks
