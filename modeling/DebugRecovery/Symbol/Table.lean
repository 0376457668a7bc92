import DebugRecovery.Json.Value
import DebugRecovery.Journal
import DebugRecovery.Symbol
import DebugRecovery.Text.Quoted

/-!
The JSON form of a table of queries: an object with two optional lists,
`functions` and `globals`, of objects that describe one symbol each. A reading
reports the first defect, the functions before the globals; other members than
those described have no effect but a note in the journal.
-/

set_option autoImplicit false

namespace DebugRecovery

/-- What is wrong with one symbol's description. -/
inductive QueryDefect where
  | notObject (kind : String)
  | nameless
  | wrongKind (name key expected : String)
  | negativeStart (name : String)
  | offsets (name : String)
  deriving DecidableEq, Repr

def QueryDefect.text (place : String) : QueryDefect → String
  | .notObject kind => s!"{place}: expected an object, got {kind}"
  | .nameless => s!"{place}: 'name' is required and must be a string"
  | .wrongKind name key expected => s!"{place} ({name}): '{key}' must be {expected}"
  | .negativeStart name => s!"{place} ({name}): 'start_rva' must not be negative"
  | .offsets name => s!"{place} ({name}): 'offsets' must be a list of integers"

/-- What is wrong with a table. -/
inductive TableDefect where
  | notObject
  | notList (part : String)
  | entry (part : String) (index : Nat) (defect : QueryDefect)
  deriving DecidableEq, Repr

def entryPlace (part : String) (index : Nat) : String := s!"{part}[{index}]"

def TableDefect.text : TableDefect → String
  | .notObject => "Symbol configuration must be a JSON object"
  | .notList part => s!"'{part}' must be a list"
  | .entry part index defect => defect.text (entryPlace part index)

/-- The members of an object. -/
abbrev Members := List (String × Json)

/-- The value under a key, which `read?` has to admit; a member that is missing has the default. -/
def readMember {Defect Value : Type} (members : Members) (key : String)
    (read? : Json → Option Value) (default : Value) (defect : Defect) : Except Defect Value :=
  match members.lookup key with
  | none => .ok default
  | some found =>
      match read? found with
      | none => .error defect
      | some value => .ok value

namespace SymbolQuery

def nameMember (members : Members) : Except QueryDefect String :=
  match members.lookup "name" with
  | some (.string name) => if name.isEmpty then .error .nameless else .ok name
  | _ => .error .nameless

def checkStart (name : String) (startRva : Int) : Except QueryDefect Unit :=
  if startRva < 0 then .error (.negativeStart name) else .ok ()

def ofMembers (members : Members) : Except QueryDefect SymbolQuery := do
  let name ← nameMember members
  let pattern ← readMember members "pattern" Json.string? "" (.wrongKind name "pattern" "str")
  let startRva ← readMember members "start_rva" Json.integer? 0 (.wrongKind name "start_rva" "int")
  let relative ←
    readMember members "relative" Json.boolean? false (.wrongKind name "relative" "bool")
  let ripRelative ←
    readMember members "rip_relative" Json.boolean? false (.wrongKind name "rip_relative" "bool")
  let ripOffset ←
    readMember members "rip_offset" Json.integer? 0 (.wrongKind name "rip_offset" "int")
  checkStart name startRva
  let offsets ← readMember members "offsets" Json.integers? [] (.offsets name)
  .ok { name, pattern, startRva, offsets, relative, ripRelative, ripOffset }

def ofJson : Json → Except QueryDefect SymbolQuery
  | .object members => ofMembers members
  | other => .error (.notObject other.kindLabel)

def knownKeys : List String :=
  ["pattern", "start_rva", "relative", "rip_relative", "rip_offset", "name", "offsets"]

/-- The names of the members that have no effect, in ascending order. -/
def unknownKeys (members : Members) : List String :=
  ((members.map Prod.fst).filter fun key => !knownKeys.contains key).mergeSort
    fun first second => decide (first ≤ second)

/-- What a description that was read leaves in the journal. -/
def unknownKeysNote (place : String) (entry : Json) : Journal :=
  match entry with
  | .object members =>
      match ofMembers members, unknownKeys members with
      | .ok query, key :: keys =>
          [⟨.debug, Channel.symbols,
            s!"{place} ({query.name}): ignoring unknown keys {Text.quotedList (key :: keys)}"⟩]
      | _, _ => []
  | _ => []

end SymbolQuery

namespace QueryTable

/-- The queries of the entries from number `index` on. -/
def queriesFrom (part : String) : Nat → List Json → Except TableDefect (List SymbolQuery)
  | _, [] => .ok []
  | index, entry :: entries => do
      let query ← (SymbolQuery.ofJson entry).mapError (.entry part index)
      let queries ← queriesFrom part (index + 1) entries
      .ok (query :: queries)

def entriesOf (part : String) (members : Members) : Except TableDefect (List Json) :=
  readMember members part Json.array? [] (.notList part)

def partOf (part : String) (members : Members) : Except TableDefect (List SymbolQuery) := do
  queriesFrom part 0 (← entriesOf part members)

def ofJson : Json → Except TableDefect QueryTable
  | .object members => do
      let functions ← partOf "functions" members
      let globals ← partOf "globals" members
      .ok { functions, globals }
  | _ => .error .notObject

/-- The notes on the entries before the first one with a defect. -/
def notesFrom (part : String) : Nat → List Json → Journal
  | _, [] => []
  | index, entry :: entries =>
      match SymbolQuery.ofJson entry with
      | .error _ => []
      | .ok _ =>
          SymbolQuery.unknownKeysNote (entryPlace part index) entry ++
            notesFrom part (index + 1) entries

def partNotes (part : String) (members : Members) : Journal :=
  match entriesOf part members with
  | .error _ => []
  | .ok entries => notesFrom part 0 entries

def notes : Json → Journal
  | .object members =>
      partNotes "functions" members ++
        match partOf "functions" members with
        | .error _ => []
        | .ok _ => partNotes "globals" members
  | _ => []

end QueryTable

end DebugRecovery
