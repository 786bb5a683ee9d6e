/-
Methods of requests: nine with a meaning of their own, and any other token.
-/
import PathRouter.Text

namespace PathRouter

/-- A method for which handlers can be registered. -/
inductive Verb where
  | get
  | head
  | delete
  | options
  | patch
  | post
  | put
  | trace
  | connect
  deriving DecidableEq, Repr

namespace Verb

/-- All verbs, in the order in which tables of methods are compared. -/
def all : List Verb :=
  [get, head, delete, options, patch, post, put, trace, connect]

/-- The name of a verb. -/
def name : Verb → Text
  | get => "GET".toList
  | head => "HEAD".toList
  | delete => "DELETE".toList
  | options => "OPTIONS".toList
  | patch => "PATCH".toList
  | post => "POST".toList
  | put => "PUT".toList
  | trace => "TRACE".toList
  | connect => "CONNECT".toList

/-- The verb with a name. -/
def named? (t : Text) : Option Verb :=
  all.find? (·.name == t)

end Verb

/-- The method of a request. -/
inductive Method where
  | verb (v : Verb)
  | custom (name : Text)
  deriving DecidableEq, Repr

namespace Method

/-- The name of a method. -/
def name : Method → Text
  | verb v => v.name
  | custom name => name

/-- Whether a token may contain the character. -/
def inToken (c : Char) : Bool :=
  c.isAlphanum || "!#$%&'*+-.^_`|~".toList.contains c

/-- The method with a name, which is a token. Case matters. -/
def parse? (t : Text) : Option Method :=
  match Verb.named? t with
  | some v => some (verb v)
  | none => if t.isEmpty || !t.all inToken then none else some (custom t)

end Method

end PathRouter
