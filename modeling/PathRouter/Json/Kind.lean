/-
What a JSON value is called where another one was expected.
-/
import PathRouter.Json.Value
import PathRouter.Text.Quoted

namespace PathRouter

/-- The kind of a value, with the value itself if it is short. -/
def Json.shown : Json → Text
  | null => "null".toList
  | bool b => "boolean `".toList ++ (toString b).toList ++ "`".toList
  | number (.int n) => "integer `".toList ++ Number.intText n ++ "`".toList
  | number x => "floating point `".toList ++ x.text ++ "`".toList
  | string s => "string ".toList ++ s.quoted
  | array _ => "sequence".toList
  | object _ => "map".toList

end PathRouter
