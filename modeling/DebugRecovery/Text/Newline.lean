/-!
Line ends. A carriage return, with or without a line feed after it, counts as
one line feed.
-/

set_option autoImplicit false

namespace DebugRecovery.Text

def unifyNewlines : List Char → List Char
  | [] => []
  | '\r' :: '\n' :: rest => '\n' :: unifyNewlines rest
  | character :: rest => (if character == '\r' then '\n' else character) :: unifyNewlines rest

end DebugRecovery.Text
