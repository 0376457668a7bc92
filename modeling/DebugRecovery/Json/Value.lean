/-!
Values of the JSON data format. A number with a fraction or an exponent keeps
its written form; the members of an object keep their order and differ in name.
-/

set_option autoImplicit false

namespace DebugRecovery

inductive Json where
  | null
  | boolean (value : Bool)
  | integer (value : Int)
  | real (written : String)
  | string (value : String)
  | array (items : List Json)
  | object (members : List (String × Json))

namespace Json

/-- What messages call the kind of a value. -/
def kindLabel : Json → String
  | .null => "NoneType"
  | .boolean _ => "bool"
  | .integer _ => "int"
  | .real _ => "float"
  | .string _ => "str"
  | .array _ => "list"
  | .object _ => "dict"

def string? : Json → Option String
  | .string value => some value
  | _ => none

def integer? : Json → Option Int
  | .integer value => some value
  | _ => none

def boolean? : Json → Option Bool
  | .boolean value => some value
  | _ => none

def array? : Json → Option (List Json)
  | .array items => some items
  | _ => none

/-- An array of nothing but integers. -/
def integers? : Json → Option (List Int)
  | .array items => items.mapM integer?
  | _ => none

end Json

end DebugRecovery
