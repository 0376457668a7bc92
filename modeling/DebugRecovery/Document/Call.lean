import DebugRecovery.Document.Save

/-!
Calls on a document. A call enters one record or shows the document; it answers,
or it fails and the document stays as it was. Calls in sequence go on after one
that fails, each with the document that the one before it left.
-/

set_option autoImplicit false

namespace DebugRecovery.Document

/-- To show the document with a binary, the binary is read from the files there are then. -/
inductive Call where
  | struct (layout : StructLayout)
  | prototype (function : Prototype)
  | function (symbol : Symbol Int)
  | global (symbol : Symbol DebugType)
  | view (files : FileTree) (binary : Option Path)

inductive Answer where
  | entered
  | position (number : Nat)
  | shown (json : Json)

abbrev Act := EStateM Abort Document

def replace (entered : Except Failure Document) : Act Answer := fun document =>
  match entered with
  | .error cause => .error (.failure cause) document
  | .ok later => .ok .entered later

def view (files : FileTree) (binary : Option Path) : Act Answer := fun document =>
  match binary with
  | none => .ok (.shown (document.toJson none)) document
  | some path =>
      match subject files path with
      | .error error => .error (.ofFileError error) document
      | .ok subject => .ok (.shown (document.toJson (some subject))) document

def perform (call : Call) : Act Answer := fun document =>
  match call with
  | .struct layout => replace (document.addStruct layout) document
  | .prototype function => .ok (.position document.nextPosition) (document.addPrototype function)
  | .function symbol => replace (document.addFunction symbol) document
  | .global symbol => replace (.ok (document.addGlobal symbol)) document
  | .view files binary => view files binary document

/-- The outcomes of calls in their order, and the document that they leave. -/
structure Transcript where
  outcomes : List (Except Abort Answer)
  document : Document

def Transcript.after (outcome : Except Abort Answer) (rest : Transcript) : Transcript :=
  ⟨outcome :: rest.outcomes, rest.document⟩

/-- One call after the other, failing ones included. -/
def performAll (document : Document) : List Call → Transcript
  | [] => ⟨[], document⟩
  | call :: calls =>
      match perform call document with
      | .error abort later => .after (.error abort) (later.performAll calls)
      | .ok answer later => .after (.ok answer) (later.performAll calls)

end DebugRecovery.Document
