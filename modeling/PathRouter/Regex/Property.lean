/-
The sets of characters that `\p` names: general categories, scripts, ages, the classes that divide
text, and binary properties.
-/
import PathRouter.Regex.Flags
import PathRouter.Unicode.Age
import PathRouter.Unicode.Breaks

namespace PathRouter.Regex.Property

/-- The name without case, blanks, hyphens and underscores, and without a leading "is"; "isc" is
kept, which is a name of its own. -/
def normalise (name : Text) : Text :=
  let squeeze (t : Text) : Text :=
    ((t.filter fun c => c.val < 128 && c != ' ' && c != '_' && c != '-')).map Char.toLower
  match name with
  | i :: s :: rest =>
    if i.toLower == 'i' && s.toLower == 's' then
      let rest := squeeze rest
      if rest == ['c'] then "isc".toList else rest
    else squeeze name
  | _ => squeeze name

/-- The general categories and their groupings by normalised name. -/
def category? (name : Text) : Option CharSet :=
  match String.ofList name with
  | "any" => some fun _ => true
  | "assigned" => some fun c => !Unicode.Category.contains .unassigned c
  | "ascii" => some fun c => c.val < 128
  | _ => (Unicode.Category.named? name).map Unicode.inCategories

/-- The scripts by normalised name. -/
def script? (name : Text) : Option CharSet :=
  (Unicode.Script.named? name).map Unicode.Script.contains

/-- The set that a single name stands for. -/
def named? (name : Text) : Option CharSet :=
  let name := normalise name
  (Unicode.property? name).orElse fun _ => (category? name).orElse fun _ => script? name

/-- The set that a property with a value stands for. -/
def valued? (property value : Text) : Option CharSet :=
  let value := normalise value
  match String.ofList (normalise property) with
  | "generalcategory" | "gc" => category? value
  | "script" | "sc" => script? value
  | "scriptextensions" | "scx" => (Unicode.Script.named? value).map Unicode.Script.isUsedWith
  | "age" => Unicode.Age.known? value
  | "graphemeclusterbreak" | "gcb" => Unicode.Breaks.named? Unicode.Breaks.graphemes value
  | "wordbreak" | "wb" => Unicode.Breaks.named? Unicode.Breaks.words value
  | "sentencebreak" | "sb" => Unicode.Breaks.named? Unicode.Breaks.sentences value
  | _ => none

/-- The parts of a text around the first occurrence of a non-empty separator. -/
def cut? (separator : Text) : Text → Option (Text × Text)
  | [] => none
  | c :: t =>
    if separator.isPrefixOf (c :: t) then some ([], (c :: t).drop separator.length)
    else (cut? separator t).map fun (left, right) => (c :: left, right)

/-- The set between the braces of `\p`: a name, or a property and its value after `=`, `:` or
`!=`. -/
def set? (text : Text) : Option CharSet :=
  match cut? ['!', '='] text with
  | some (property, value) => (valued? property value).map CharSet.compl
  | none =>
    match (cut? [':'] text).orElse fun _ => cut? ['='] text with
    | some (property, value) => valued? property value
    | none => named? text

end PathRouter.Regex.Property
