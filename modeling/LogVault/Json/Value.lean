/-!
# LogVault.Json.Value — documents

Answers of the vault, the signed part of a link and the arguments of a caller are JSON documents. A
number is either whole, and then exact, or real, and then a double: the two are written differently
even where they are equal.
-/

namespace LogVault.Json

/-- **A JSON document.** The members of an object keep their order. -/
inductive Value where
  | null
  | bool (b : Bool)
  | whole (i : Int)
  | real (x : Float)
  | text (s : String)
  | array (items : List Value)
  | object (members : List (String × Value))
  deriving Inhabited

namespace Value

/-- The members of an object; none for any other document. -/
def members : Value → List (String × Value)
  | .object ms => ms
  | _ => []

/-- The member of a name. -/
def member? (v : Value) (name : String) : Option Value :=
  (v.members.find? fun m => m.1 = name).map (·.2)

/-- The text of a document that is one. -/
def text? : Value → Option String
  | .text s => some s
  | _ => none

end Value

end LogVault.Json
