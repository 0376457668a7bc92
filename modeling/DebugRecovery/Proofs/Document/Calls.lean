import DebugRecovery.Document.Call
import DebugRecovery.Proofs.Document
import DebugRecovery.Proofs.Files
import Mathlib.Tactic.ByContra

/-!
# Sequences of calls on a document

What a call does is told once for all kinds of calls. From this follows, for
calls in any sequence, that the taken names are those of the entered structs,
that prototypes keep the positions they were given, and that records only come
to the ends of the lists. A call fails for one of three causes and then changes
nothing; showing the document with a binary that cannot be read is one of them.
-/

set_option autoImplicit false

namespace DebugRecovery.Document

variable {document later : Document} {call : Call} {answer : Answer} {abort : Abort}

/-- What a call that succeeds requires of the document, answers, and leaves. -/
inductive Effect (document : Document) : Call → Answer → Document → Prop where
  | struct (layout : StructLayout) (free : layout.name ∉ document.structNames) :
      Effect document (.struct layout) .entered (document.extended [layout] [] [] [])
  | prototype (function : Prototype) :
      Effect document (.prototype function) (.position document.prototypes.length)
        (document.extended [] [function] [] [])
  | function (symbol : Symbol Int) (typeRef : Option Nat)
      (same : symbol.typeRef = typeRef.map Int.ofNat)
      (issued : ∀ position, typeRef = some position → position < document.prototypes.length) :
      Effect document (.function symbol) .entered
        (document.extended [] [] [symbol.withType typeRef] [])
  | global (symbol : Symbol DebugType) :
      Effect document (.global symbol) .entered (document.extended [] [] [] [symbol])
  | view (files : FileTree) :
      Effect document (.view files none) (.shown (document.toJson none)) document
  | viewWith (files : FileTree) (binary : Path) (subject : Subject)
      (read : Document.subject files binary = .ok subject) :
      Effect document (.view files (some binary)) (.shown (document.toJson (some subject))) document

/-- Why a call fails: the name of its struct is taken, the number of its function is not a position
yet, or its binary cannot be read. -/
inductive Refused (document : Document) : Call → Prop where
  | duplicate (layout : StructLayout) (taken : layout.name ∈ document.structNames) :
      Refused document (.struct layout)
  | unissued (symbol : Symbol Int) (number : Int) (given : symbol.typeRef = some number)
      (outside : number < 0 ∨ document.prototypes.length ≤ number) :
      Refused document (.function symbol)
  | unread (files : FileTree) (binary : Path) (error : FileError)
      (failed : files.read binary = .error error) : Refused document (.view files (some binary))

theorem replace_ok {entered : Except Failure Document}
    (finished : replace entered document = .ok answer later) :
    entered = .ok later ∧ answer = .entered := by
  unfold replace at finished
  split at finished
  · contradiction
  · cases finished
    exact ⟨rfl, rfl⟩

theorem replace_error {entered : Except Failure Document}
    (failed : replace entered document = .error abort later) :
    (∃ cause, entered = .error cause) ∧ later = document := by
  unfold replace at failed
  split at failed
  · cases failed
    exact ⟨⟨_, rfl⟩, rfl⟩
  · contradiction

theorem subject_error_iff (files : FileTree) (binary : Path) (error : FileError) :
    subject files binary = .error error ↔ files.read binary = .error error := by
  unfold subject
  cases files.read binary with
  | error other => simp
  | ok content => simp

theorem view_error {files : FileTree} {binary : Option Path}
    (failed : view files binary document = .error abort later) :
    (∃ path error, binary = some path ∧ files.read path = .error error) ∧ later = document := by
  unfold view at failed
  split at failed
  · contradiction
  · rename_i path
    split at failed
    · rename_i error unread
      cases failed
      exact ⟨⟨path, error, rfl, (subject_error_iff files path error).mp unread⟩, rfl⟩
    · contradiction

theorem perform_unread {files : FileTree} {binary : Path} {error : FileError}
    (unread : files.read binary = .error error) (document : Document) :
    perform (.view files (some binary)) document = .error (.ofFileError error) document := by
  rw [perform, view, (subject_error_iff files binary error).mpr unread]

theorem perform_effect (finished : perform call document = .ok answer later) :
    Effect document call answer later := by
  cases call with
  | struct layout =>
      obtain ⟨inserted, rfl⟩ := replace_ok finished
      obtain ⟨free, rfl⟩ := add_struct_ok_iff.mp inserted
      exact .struct layout free
  | prototype function =>
      have entered : document.addPrototype function = document.extended [] [function] [] [] := by
        simp [addPrototype, extended]
      cases finished
      rw [entered]
      exact .prototype function
  | function symbol =>
      obtain ⟨inserted, rfl⟩ := replace_ok finished
      obtain ⟨typeRef, same, issued, rfl⟩ := add_function_ok_iff.mp inserted
      exact .function symbol typeRef same issued
  | global symbol =>
      have entered : document.addGlobal symbol = document.extended [] [] [] [symbol] := by
        simp [addGlobal, extended]
      cases finished
      rw [entered]
      exact .global symbol
  | view files binary =>
      cases binary with
      | none =>
          cases finished
          exact .view files
      | some path =>
          cases read : subject files path with
          | error error => simp [perform, view, read] at finished
          | ok subject =>
              simp only [perform, view, read] at finished
              cases finished
              exact .viewWith files path subject read

theorem perform_unchanged (failed : perform call document = .error abort later) :
    later = document := by
  cases call with
  | struct layout => exact (replace_error failed).2
  | prototype function => contradiction
  | function symbol => exact (replace_error failed).2
  | global symbol => contradiction
  | view files binary => exact (view_error failed).2

theorem perform_refused (failed : perform call document = .error abort later) :
    Refused document call := by
  cases call with
  | struct layout =>
      obtain ⟨⟨cause, refused⟩, _⟩ := replace_error failed
      by_cases taken : layout.name ∈ document.structNames
      · exact .duplicate layout taken
      · have inserted : document.addStruct layout = .ok _ := add_struct_ok_iff.mpr ⟨taken, rfl⟩
        rw [refused] at inserted
        contradiction
  | prototype function => contradiction
  | function symbol =>
      obtain ⟨⟨cause, refused⟩, _⟩ := replace_error failed
      cases given : symbol.typeRef with
      | none =>
          have inserted : document.addFunction symbol = .ok _ :=
            add_function_ok_iff.mpr ⟨none, given, by simp, rfl⟩
          rw [refused] at inserted
          contradiction
      | some number =>
          refine .unissued symbol number given ?_
          by_contra inside
          have same : symbol.typeRef = (some number.toNat).map Int.ofNat := by
            rw [given, Option.map_some, Int.ofNat_eq_natCast, Int.toNat_of_nonneg (by omega)]
          have issued : ∀ position, some number.toNat = some position →
              position < document.prototypes.length := by
            intro position chosen
            have toNat := Option.some.inj chosen
            omega
          have inserted : document.addFunction symbol = .ok _ :=
            add_function_ok_iff.mpr ⟨some number.toNat, same, issued, rfl⟩
          rw [refused] at inserted
          contradiction
  | global symbol => contradiction
  | view files binary =>
      obtain ⟨⟨path, error, rfl, unread⟩, _⟩ := view_error failed
      exact .unread files path error unread

/-- A call with a cause to fail has no effect to succeed with. -/
theorem effect_not_refused (effect : Effect document call answer later) :
    ¬ Refused document call := by
  intro refused
  cases effect with
  | struct layout free =>
      cases refused with
      | duplicate _ taken => exact free taken
  | prototype function => cases refused
  | function symbol typeRef same issued =>
      cases refused with
      | unissued _ number given outside =>
          cases typeRef with
          | none => simp [same] at given
          | some position =>
              have bound := issued position rfl
              have number : number = position := by simpa [same] using given.symm
              omega
  | global symbol => cases refused
  | view files => cases refused
  | viewWith files binary subject read =>
      cases refused with
      | unread _ _ error failed =>
          rw [(subject_error_iff files binary error).mpr failed] at read
          contradiction

theorem perform_cases (call : Call) (document : Document) :
    (∃ answer later, perform call document = .ok answer later ∧
        Effect document call answer later) ∨
      (∃ abort, perform call document = .error abort document ∧ Refused document call) := by
  cases done : perform call document with
  | ok answer later => exact Or.inl ⟨answer, later, rfl, perform_effect done⟩
  | error abort later =>
      obtain rfl := perform_unchanged done
      exact Or.inr ⟨abort, rfl, perform_refused done⟩

theorem perform_fails_iff (call : Call) (document : Document) :
    (∃ abort, perform call document = .error abort document) ↔ Refused document call := by
  constructor
  · rintro ⟨abort, failed⟩
    exact perform_refused failed
  · intro refused
    rcases perform_cases call document with ⟨answer, later, _, effect⟩ | ⟨abort, failed, _⟩
    · exact absurd refused (effect_not_refused effect)
    · exact ⟨abort, failed⟩

/-- The taken names are those of the structs, which differ, and functions refer to prototypes that
are there. -/
structure Sound (document : Document) : Prop where
  distinct : (document.structs.map StructLayout.name).Nodup
  taken : ∀ name, name ∈ document.structNames ↔ name ∈ document.structs.map StructLayout.name
  issued : ∀ symbol ∈ document.functions, ∀ position, symbol.typeRef = some position →
    position < document.prototypes.length

theorem effect_grows (effect : Effect document call answer later) : document.Grows later := by
  cases effect with
  | struct layout free => exact document.grows_extended [layout] [] [] []
  | prototype function => exact document.grows_extended [] [function] [] []
  | function symbol typeRef same issued =>
      exact document.grows_extended [] [] [symbol.withType typeRef] []
  | global symbol => exact document.grows_extended [] [] [] [symbol]
  | view files => exact document.grows_refl
  | viewWith files binary subject read => exact document.grows_refl

theorem effect_sound (effect : Effect document call answer later) (sound : document.Sound) :
    later.Sound := by
  obtain ⟨distinct, taken, issued⟩ := sound
  cases effect with
  | struct layout free =>
      have fresh : layout.name ∉ document.structs.map StructLayout.name := by
        intro listed
        exact free ((taken layout.name).mpr listed)
      refine ⟨?_, ?_, ?_⟩
      · simp only [extended, List.map_append, List.map_cons, List.map_nil]
        exact List.nodup_append.mpr ⟨distinct, by simp, by simpa using fresh⟩
      · intro name
        simp only [extended, List.map_append, List.mem_append, taken name]
      · simpa [extended] using issued
  | prototype function =>
      refine ⟨by simpa [extended] using distinct, by simpa [extended] using taken, ?_⟩
      intro symbol member position referred
      have bound : position < document.prototypes.length := by
        apply issued symbol _ position referred
        simpa [extended] using member
      simp only [extended, List.length_append, List.length_cons, List.length_nil]
      omega
  | function symbol typeRef same bounded =>
      refine ⟨by simpa [extended] using distinct, by simpa [extended] using taken, ?_⟩
      intro other member position referred
      simp only [extended, List.append_nil]
      simp only [extended, List.mem_append, List.mem_singleton] at member
      rcases member with before | rfl
      · exact issued other before position referred
      · exact bounded position referred
  | global symbol =>
      exact ⟨by simpa [extended] using distinct, by simpa [extended] using taken,
        by simpa [extended] using issued⟩
  | view files => exact ⟨distinct, taken, issued⟩
  | viewWith files binary subject read => exact ⟨distinct, taken, issued⟩

/-- The prototype that a call enters. -/
def Call.prototype? : Call → Option Prototype
  | .prototype entered => some entered
  | _ => none

/-- The prototype that a call enters with the position that it answers. -/
def registration? : Call × Except Abort Answer → Option (Prototype × Nat)
  | (.prototype entered, .ok (.position number)) => some (entered, number)
  | _ => none

theorem effect_registration (effect : Effect document call answer later) :
    later.prototypes = document.prototypes ++ call.prototype?.toList ∧
      registration? (call, .ok answer) =
        call.prototype?.map fun entered => (entered, document.prototypes.length) := by
  cases effect with
  | prototype function => simp [Call.prototype?, registration?, extended]
  | _ => simp [Call.prototype?, registration?, extended]

theorem refused_registration (refused : Refused document call) (abort : Abort) :
    call.prototype? = none ∧ registration? (call, .error abort) = none := by
  cases refused with
  | _ => exact ⟨rfl, rfl⟩

theorem perform_all_sound (calls : List Call) (sound : document.Sound) :
    (document.performAll calls).document.Sound := by
  induction calls generalizing document with
  | nil => exact sound
  | cons call calls induction =>
      rcases perform_cases call document with ⟨answer, later, done, effect⟩ | ⟨abort, failed, _⟩
      · simp only [performAll, done, Transcript.after]
        exact induction (effect_sound effect sound)
      · simp only [performAll, failed, Transcript.after]
        exact induction sound

theorem perform_all_grows (document : Document) (calls : List Call) :
    document.Grows (document.performAll calls).document := by
  induction calls generalizing document with
  | nil => exact document.grows_refl
  | cons call calls induction =>
      rcases perform_cases call document with ⟨answer, later, done, effect⟩ | ⟨abort, failed, _⟩
      · simp only [performAll, done, Transcript.after]
        exact grows_trans (effect_grows effect) (induction later)
      · simp only [performAll, failed, Transcript.after]
        exact induction document

theorem perform_all_append (document : Document) (front back : List Call) :
    (document.performAll (front ++ back)).document =
      ((document.performAll front).document.performAll back).document := by
  induction front generalizing document with
  | nil => rfl
  | cons call calls induction =>
      rcases perform_cases call document with ⟨answer, later, done, _⟩ | ⟨abort, failed, _⟩
      · simp only [List.cons_append, performAll, done, Transcript.after, induction]
      · simp only [List.cons_append, performAll, failed, Transcript.after, induction]

/-- Prototypes stand in the order of their calls, at the positions that the calls answered. -/
theorem perform_all_prototypes (document : Document) (calls : List Call) :
    (document.performAll calls).document.prototypes =
        document.prototypes ++ calls.filterMap Call.prototype? ∧
      (calls.zip (document.performAll calls).outcomes).filterMap registration? =
        (calls.filterMap Call.prototype?).zipIdx document.prototypes.length := by
  induction calls generalizing document with
  | nil => simp [performAll]
  | cons call calls induction =>
      rcases perform_cases call document with ⟨answer, later, done, effect⟩ | ⟨abort, failed, refused⟩
      · obtain ⟨prototypes, registrations⟩ := induction later
        obtain ⟨grown, registered⟩ := effect_registration effect
        simp only [performAll, done, Transcript.after, List.zip_cons_cons, List.filterMap_cons,
          prototypes, registrations, grown, registered]
        cases call.prototype? with
        | none => simp
        | some entered => simp [List.zipIdx_cons]
      · obtain ⟨prototypes, registrations⟩ := induction document
        obtain ⟨nothing, unregistered⟩ := refused_registration refused abort
        simp only [performAll, failed, Transcript.after, List.zip_cons_cons, List.filterMap_cons,
          prototypes, registrations, nothing, unregistered]
        exact ⟨trivial, trivial⟩

theorem empty_sound (is64 : Bool) (imageBase : Int) : (empty is64 imageBase).Sound :=
  ⟨List.nodup_nil, fun _ => Iff.rfl, fun _ member => absurd member List.not_mem_nil⟩

/-- Whatever is called on an empty document, its parts stay in step, prototypes stand in the order of
their calls at the positions answered, further calls only lengthen the lists, and a call fails for
exactly the three causes, with the document as it was. -/
theorem calls_keep_document_sound (is64 : Bool) (imageBase : Int) (calls : List Call) :
    let reached := (empty is64 imageBase).performAll calls
    reached.document.Sound ∧
    reached.document.prototypes = calls.filterMap Call.prototype? ∧
    (calls.zip reached.outcomes).filterMap registration? =
      (calls.filterMap Call.prototype?).zipIdx ∧
    (∀ more, reached.document.Grows ((empty is64 imageBase).performAll (calls ++ more)).document) ∧
    (∀ call, (∃ abort later, perform call reached.document = .error abort later) ↔
      Refused reached.document call) ∧
    (∀ call abort later, perform call reached.document = .error abort later →
      later = reached.document) := by
  intro reached
  obtain ⟨prototypes, registrations⟩ := perform_all_prototypes (empty is64 imageBase) calls
  refine ⟨perform_all_sound calls (empty_sound is64 imageBase), prototypes, registrations, ?_, ?_,
    fun _ _ _ => perform_unchanged⟩
  · intro more
    rw [perform_all_append]
    exact perform_all_grows reached.document more
  · intro call
    rw [← perform_fails_iff]
    constructor
    · rintro ⟨abort, later, failed⟩
      have same := perform_unchanged failed
      exact ⟨abort, by rw [failed, same]⟩
    · rintro ⟨abort, failed⟩
      exact ⟨abort, _, failed⟩

def missingBinary : Call :=
  .view { nodes := [], workingDirectory := [] } (some ⟨.workingDirectory, ["missing.bin"]⟩)

theorem missing_binary_unread (document : Document) : perform missingBinary document =
    .error (.file ⟨.missing, ⟨.workingDirectory, ["missing.bin"]⟩⟩) document := by
  have located : FileTree.locate ⟨[], [], {}⟩ ⟨.workingDirectory, ["missing.bin"]⟩ =
      .ok ["missing.bin"] :=
    FileTree.locate_name FileTree.locate_here rfl rfl (by simp) (by decide) (by decide) (by decide)
  have unread : FileTree.read ⟨[], [], {}⟩ ⟨.workingDirectory, ["missing.bin"]⟩ =
      .error ⟨.missing, ⟨.workingDirectory, ["missing.bin"]⟩⟩ := by
    rw [FileTree.read, located]
    rfl
  exact perform_unread unread document

/-- A call fails that enters no struct and no function: it asks for a binary that is not there. -/
theorem missing_binary_fails :
    perform missingBinary (empty true 0) =
        .error (.file ⟨.missing, ⟨.workingDirectory, ["missing.bin"]⟩⟩) (empty true 0) ∧
      ¬ ∀ call abort later, perform call (empty true 0) = .error abort later →
        (∃ layout, call = .struct layout ∧ layout.name ∈ (empty true 0).structNames) ∨
          (∃ symbol number, call = .function symbol ∧ symbol.typeRef = some number ∧
            (number < 0 ∨ (empty true 0).prototypes.length ≤ number)) := by
  have failed : perform missingBinary (empty true 0) =
      .error (.file ⟨.missing, ⟨.workingDirectory, ["missing.bin"]⟩⟩) (empty true 0) := missing_binary_unread _
  refine ⟨failed, ?_⟩
  intro causes
  rcases causes missingBinary _ _ failed with ⟨layout, same, _⟩ | ⟨symbol, number, same, _⟩
  · cases same
  · cases same

def mixedCalls : List Call :=
  let signature : FunctionSignature := ⟨.struct "S", [], .nearC⟩
  [.struct ⟨"S", [], 4⟩, .struct ⟨"S", [], 8⟩, .prototype ⟨"f", signature⟩,
    .function ⟨"f", 1, 0x10, some 0⟩, .function ⟨"f", 1, 0x10, some 1⟩, .prototype ⟨"g", signature⟩,
    .function ⟨"f", 1, 0x10, some 1⟩, .global ⟨"v", 2, 0, none⟩, missingBinary,
    .function ⟨"h", 1, 0, some (-1)⟩]

theorem mixed_calls_keep_document_sound :
    ((empty true 0).performAll mixedCalls).outcomes.map Except.isOk =
        [true, false, true, true, false, true, true, true, false, false] ∧
      ((empty true 0).performAll mixedCalls).document.Sound ∧
      (mixedCalls.filterMap Call.prototype?).length = 2 := by
  refine ⟨?_, (calls_keep_document_sound true 0 mixedCalls).1, rfl⟩
  simp only [mixedCalls, performAll, missing_binary_unread]
  rfl

end DebugRecovery.Document
