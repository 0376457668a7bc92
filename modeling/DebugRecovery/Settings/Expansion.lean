import DebugRecovery.Association

/-!
References to variables in the values of a settings file. A dollar sign before
a name in braces stands for the value of the variable; after a colon and a dash
there may be a text to take for a variable that is missing.
-/

set_option autoImplicit false

namespace DebugRecovery.Settings

/-- The variables of the process, each name once. -/
abbrev Environment := List (String × String)

/-- The values assigned so far; a name may be declared without a value. -/
abbrev Declarations := List (String × Option String)

namespace Expansion

/-- A reference, and the number of characters after the opening brace that belong to it. -/
structure Reference where
  name : String
  fallback : String
  length : Nat

def isNameEnd (character : Char) : Bool := character == '}' || character == ':'

def reference? (text : List Char) : Option Reference :=
  let name := text.takeWhile fun character => !isNameEnd character
  match text.drop name.length with
  | '}' :: _ => some ⟨String.ofList name, "", name.length + 1⟩
  | ':' :: '-' :: rest =>
      let fallback := rest.takeWhile (· != '}')
      match rest.drop fallback.length with
      | '}' :: _ =>
          some ⟨String.ofList name, String.ofList fallback, name.length + fallback.length + 3⟩
      | _ => none
  | _ => none

/-- The environment comes before the declarations; a name without a value has the empty one. -/
def Reference.value (reference : Reference) (environment : Environment)
    (declarations : Declarations) : String :=
  match environment.lookup reference.name, declarations.lookup reference.name with
  | some value, _ => value
  | none, some value => value.getD ""
  | none, none => reference.fallback

def expand (value : Reference → String) (text : List Char) : List Char :=
  match text with
  | [] => []
  | '$' :: '{' :: rest =>
      match reference? rest with
      | some reference =>
          (value reference).toList ++ expand value (rest.drop reference.length)
      | none => '$' :: expand value ('{' :: rest)
  | character :: rest => character :: expand value rest
termination_by text.length
decreasing_by
  all_goals simp only [List.length_cons, List.length_drop]; omega

end Expansion

/-- The declarations after one more assignment, whose references are replaced. -/
def Declarations.assign (declarations : Declarations) (environment : Environment) (name : String)
    (value : Option String) : Declarations :=
  let expanded := value.map fun text => String.ofList
    (Expansion.expand (fun reference => reference.value environment declarations) text.toList)
  Association.put name expanded declarations

end DebugRecovery.Settings
