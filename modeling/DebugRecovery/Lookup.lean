import DebugRecovery.Failure
import DebugRecovery.Journal
import DebugRecovery.Section
import DebugRecovery.Signature
import DebugRecovery.Symbol

/-!
Locating symbols. A query resolves to an address of the file or of memory, and
the address maps to a place in a section. Every intermediate address has to lie
in `[0, 2^64)` and every word has to lie inside the image; a query fails alone.
-/

set_option autoImplicit false

namespace DebugRecovery

/-- Addresses have 64 bits. -/
def addressLimit : Nat := 0x10000000000000000

/-- Displacements have 32 bits. -/
def displacementLimit : Nat := 0x100000000

/-- The address moved by a signed distance, when the result is an address. -/
def shift? (address : Nat) (distance : Int) : Option Nat :=
  let moved := Int.ofNat address + distance
  if 0 ≤ moved ∧ moved < Int.ofNat addressLimit then some moved.toNat else none

/-- The 32-bit word at an offset of the file, its least significant byte first. -/
def word? (data : ByteArray) (offset : Nat) : Option Nat :=
  if inside : offset + 4 ≤ data.size then
    some (data[offset].toNat + 256 * (data[offset + 1].toNat +
      256 * (data[offset + 2].toNat + 256 * data[offset + 3].toNat)))
  else none

/-- The tokens of a text, which is reported as a whole where it spells none. -/
def Signature.ofText (text : String) : Except LookupFailure Signature :=
  match ofText? text with
  | none => .error (.malformed text "")
  | some tokens => .ok tokens

namespace SymbolQuery

def malformed (query : SymbolQuery) : LookupFailure := .malformed query.pattern query.name

/-- One step of a chain: move, then read the next address. -/
def dereference? (data : ByteArray) (address : Nat) (distance : Int) : Option Nat := do
  word? data (← shift? address distance)

/-- The address a displacement refers to, which wraps at 32 bits, moved by the query's offset. -/
def displace? (query : SymbolQuery) (data : ByteArray) (address : Nat) : Option Nat := do
  let displacement ← word? data address
  shift? ((address + displacement) % displacementLimit) query.ripOffset

def follow? (query : SymbolQuery) (data : ByteArray) (imageBase : Int) (start : Nat) :
    Option Address := do
  let last ← query.offsets.foldlM (dereference? data) start
  let field ← shift? last query.extra
  let target ← if query.ripRelative then query.displace? data field else some field
  if query.relative then
    let distance ← shift? target (-imageBase)
    some ⟨distance, .memory⟩
  else some ⟨target, if query.offsets.isEmpty then .file else .memory⟩

/-- The offset of the first match of the query's signature. -/
def start (query : SymbolQuery) (data : ByteArray) : Except LookupFailure Nat :=
  match Signature.ofText query.pattern with
  | .error _ => .error query.malformed
  | .ok tokens =>
      match tokens.find? data with
      | none => .error (.absent query.name)
      | some offset => .ok offset

/-- What became of the search and, from its match on, of the whole query. -/
structure Trail where
  start : Option (Except LookupFailure Nat)
  address : Except LookupFailure Address

def trail (query : SymbolQuery) (data : ByteArray) (imageBase : Int) : Trail :=
  if query.startRva = 0 then
    let start := query.start data
    let address := match start with
      | .error failure => .error failure
      | .ok offset =>
          match query.follow? data imageBase offset with
          | none => .error query.malformed
          | some address => .ok address
    ⟨some start, address⟩
  else ⟨none, .ok ⟨query.startRva + imageBase, .memory⟩⟩

def address (query : SymbolQuery) (data : ByteArray) (imageBase : Int) :
    Except LookupFailure Address := (query.trail data imageBase).address

def compiledEntry (pattern : String) (tokens : Signature) : Entry :=
  ⟨.debug, Channel.signature, s!"Compiled pattern {Text.quoted pattern} ({tokens.length} bytes)"⟩

def trailJournal (query : SymbolQuery) (trail : Trail) : Journal :=
  match trail.start with
  | none => []
  | some start =>
      let compiled := match Signature.ofText? query.pattern with
        | none => []
        | some tokens => [compiledEntry query.pattern tokens]
      match start with
      | .error _ => compiled
      | .ok offset => compiled ++ [⟨.debug, Channel.resolution,
          s!"{query.name}: pattern matched at file offset 0x{Text.hexadecimal offset}"⟩]

end SymbolQuery

/-- The parts of an image that lookups read. -/
structure Territory where
  data : ByteArray
  imageBase : Int
  sections : List Section

namespace Territory

def placed (territory : Territory) (query : SymbolQuery) (address : Except LookupFailure Address) :
    Except LookupFailure (Symbol Empty) :=
  match address with
  | .error failure => .error failure
  | .ok address =>
      match address.place? territory.sections with
      | none => .error (.unmapped query.name query.pattern)
      | some place => .ok ⟨query.name, place.sectionIndex, place.offset, none⟩

def locate (territory : Territory) (query : SymbolQuery) :
    Except LookupFailure (Symbol Empty) :=
  territory.placed query (query.address territory.data territory.imageBase)

/-- A lookup together with what it writes to the journal. -/
structure Finding where
  outcome : Except LookupFailure (Symbol Empty)
  journal : Journal

def placementEntry (query : SymbolQuery) (address : Address) (symbol : Symbol Empty) : Entry :=
  ⟨.debug, Channel.location,
    s!"{query.name}: {address.space.label} 0x{Text.hexadecimal address.value} -> " ++
      s!"section {symbol.sectionIndex} + 0x{Text.hexadecimal symbol.offset}"⟩

def finding (territory : Territory) (query : SymbolQuery) : Finding :=
  let trail := query.trail territory.data territory.imageBase
  let outcome := territory.placed query trail.address
  let last := match trail.address, outcome with
    | .ok address, .ok symbol => [placementEntry query address symbol]
    | _, _ => []
  ⟨outcome, query.trailJournal trail ++ last⟩

end Territory

/-- The symbols found and the failures of the others, both in the order of their queries. -/
structure SearchResult where
  symbols : List (Symbol Empty)
  failures : List LookupFailure

def SearchResult.ofOutcomes : List (Except LookupFailure (Symbol Empty)) → SearchResult
  | [] => ⟨[], []⟩
  | .ok symbol :: rest =>
      let result := ofOutcomes rest
      ⟨symbol :: result.symbols, result.failures⟩
  | .error failure :: rest =>
      let result := ofOutcomes rest
      ⟨result.symbols, failure :: result.failures⟩

namespace Territory

def locateAll (territory : Territory) (queries : List SymbolQuery) : SearchResult :=
  .ofOutcomes (queries.map territory.locate)

/-- What is found together with journals is what is found without them. -/
theorem locate_all_findings (territory : Territory) (queries : List SymbolQuery) :
    .ofOutcomes ((queries.map territory.finding).map Finding.outcome) =
      territory.locateAll queries := by
  simp only [locateAll, List.map_map]
  rfl

end Territory

end DebugRecovery
