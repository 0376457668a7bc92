import DebugRecovery.Text.Numeral

/-!
UTF-8 in bytes that need not be UTF-8 throughout. A faulty run is the longest
start of a character that cannot go on, so its length is one to three bytes.
Reading either stops at the first faulty run or puts one replacement character
in the place of each.
-/

set_option autoImplicit false

namespace DebugRecovery.Text.Utf8

inductive Reason where
  | startByte
  | continuationByte
  | endOfData
  deriving DecidableEq, Repr

def Reason.text : Reason → String
  | .startByte => "invalid start byte"
  | .continuationByte => "invalid continuation byte"
  | .endOfData => "unexpected end of data"

/-- What stands at one place: a character or a faulty run, each with the number of bytes that
follow its first one. -/
inductive Piece where
  | character (value : Char) (more : Nat)
  | fault (reason : Reason) (more : Nat)
  deriving DecidableEq, Repr

def Piece.more : Piece → Nat
  | .character _ more => more
  | .fault _ more => more

def isTail (byte : UInt8) : Bool := 0x80 ≤ byte && byte ≤ 0xBF

/-- The second byte that a first byte of a three- or four-byte character admits. -/
def isSecond (first second : UInt8) : Bool :=
  if first == 0xE0 then 0xA0 ≤ second && second ≤ 0xBF
  else if first == 0xED then 0x80 ≤ second && second ≤ 0x9F
  else if first == 0xF0 then 0x90 ≤ second && second ≤ 0xBF
  else if first == 0xF4 then 0x80 ≤ second && second ≤ 0x8F
  else isTail second

def joined (first : Nat) (tails : List UInt8) : Char :=
  Char.ofNat (tails.foldl (fun value byte => value * 64 + byte.toNat % 64) first)

def piece (first : UInt8) (rest : List UInt8) : Piece :=
  if first < 0x80 then .character (Char.ofNat first.toNat) 0
  else if first < 0xC2 then .fault .startByte 0
  else if first < 0xE0 then
    match rest with
    | [] => .fault .endOfData 0
    | second :: _ =>
        if isTail second then .character (joined (first.toNat % 32) [second]) 1
        else .fault .continuationByte 0
  else if first < 0xF0 then
    match rest with
    | [] => .fault .endOfData 0
    | [second] => if isSecond first second then .fault .endOfData 1 else .fault .continuationByte 0
    | second :: third :: _ =>
        if !isSecond first second then .fault .continuationByte 0
        else if !isTail third then .fault .continuationByte 1
        else .character (joined (first.toNat % 16) [second, third]) 2
  else if first < 0xF5 then
    match rest with
    | [] => .fault .endOfData 0
    | [second] => if isSecond first second then .fault .endOfData 1 else .fault .continuationByte 0
    | [second, third] =>
        if !isSecond first second then .fault .continuationByte 0
        else if !isTail third then .fault .continuationByte 1
        else .fault .endOfData 2
    | second :: third :: fourth :: _ =>
        if !isSecond first second then .fault .continuationByte 0
        else if !isTail third then .fault .continuationByte 1
        else if !isTail fourth then .fault .continuationByte 2
        else .character (joined (first.toNat % 8) [second, third, fourth]) 3
  else .fault .startByte 0

/-- The characters of the bytes, faulty runs replaced by U+FFFD. -/
def replaced : List UInt8 → List Char
  | [] => []
  | first :: rest =>
      let here := piece first rest
      let character := match here with
        | .character value _ => value
        | .fault _ _ => '\uFFFD'
      character :: replaced (rest.drop here.more)
termination_by bytes => bytes.length
decreasing_by simp only [List.length_drop, List.length_cons]; omega

/-- The first faulty run: its reason, first byte, place and number of bytes. -/
structure Fault where
  reason : Reason
  byte : UInt8
  start : Nat
  length : Nat
  deriving DecidableEq, Repr

def Fault.message (fault : Fault) : String :=
  let place :=
    if fault.length == 1 then
      let code := String.ofList (hexDigits 2 fault.byte.toNat)
      s!"byte 0x{code} in position {fault.start}"
    else s!"bytes in position {fault.start}-{fault.start + fault.length - 1}"
  s!"'utf-8' codec can't decode {place}: {fault.reason.text}"

def firstFault? (bytes : List UInt8) (start : Nat) : Option Fault :=
  match bytes with
  | [] => none
  | first :: rest =>
      match piece first rest with
      | .fault reason more => some ⟨reason, first, start, more + 1⟩
      | .character _ more => firstFault? (rest.drop more) (start + more + 1)
termination_by bytes.length
decreasing_by simp only [List.length_drop, List.length_cons]; omega

/-- The text that the bytes encode, or the first faulty run. -/
def decode (bytes : ByteArray) : Except Fault String :=
  match String.fromUTF8? bytes with
  | some text => .ok text
  | none => .error ((firstFault? bytes.toList 0).getD ⟨.endOfData, 0, bytes.size, 1⟩)

def encode (text : String) : ByteArray := text.toUTF8

theorem decode_ok_iff (bytes : ByteArray) (text : String) :
    decode bytes = .ok text ↔ bytes = encode text := by
  unfold decode encode String.fromUTF8?
  by_cases valid : bytes.IsValidUTF8
  · simp only [valid, ↓reduceDIte, Except.ok.injEq]
    constructor
    · rintro rfl
      rfl
    · rintro rfl
      rfl
  · simp only [valid, ↓reduceDIte, reduceCtorEq, false_iff]
    rintro rfl
    exact valid text.isValidUTF8

end DebugRecovery.Text.Utf8
