import DebugRecovery.Options.Argument

/-!
Attachment of compiler options. A compiler option starts with a dash itself, so
the flag for one takes the next token whatever it is, and both become one token.
-/

set_option autoImplicit false

namespace DebugRecovery.Options

def isCoption (token : String) : Bool :=
  token == (Flag.parameter .coption).short || token == (Flag.parameter .coption).long

/-- The long form of the flag with its value. -/
def attached (value : String) : String := (Flag.parameter .coption).long ++ "=" ++ value

/-- Puts every flag for a compiler option and the token after it together, up to the separator. A
token that was taken as a value is neither flag nor separator. -/
def attach : List String → List String
  | [] => []
  | [token] => [token]
  | token :: value :: rest =>
      if token = separatorText then token :: value :: rest
      else if isCoption token then attached value :: attach rest
      else token :: attach (value :: rest)

theorem attach_separator (rest : List String) :
    attach (separatorText :: rest) = separatorText :: rest := by
  cases rest <;> simp [attach]

theorem attach_flag (token value : String) (rest : List String) (flag : isCoption token = true)
    (ordinary : token ≠ separatorText) :
    attach (token :: value :: rest) = attached value :: attach rest := by
  simp [attach, flag, ordinary]

theorem attach_other (token : String) (rest : List String) (other : isCoption token = false)
    (ordinary : token ≠ separatorText) : attach (token :: rest) = token :: attach rest := by
  cases rest <;> simp [attach, other, ordinary]

end DebugRecovery.Options
