import DebugRecovery.Proofs.Layout
import DebugRecovery.Proofs.Meaning.Alias
import DebugRecovery.Proofs.Meaning.Denotation
import DebugRecovery.Proofs.Source.Native

/-!
# Functions declared through an alias

C lets a function be declared with an alias of a prototype for its type. The
type of the declaration is asked for its result, its arguments and its convention
as it is, and is not followed to the prototype. So such a declaration is accepted
only where the front end tells all of these of the alias too, though what the
alias stands for as a type has that signature. The C front end tells arguments
of prototypes alone, and a function that it reports under an alias is refused.
-/

set_option autoImplicit false

namespace DebugRecovery

open Source Meaning

/-- The declaration with another type. -/
def Source.Declaration.typed (declaration : Declaration) (type : CType) : Declaration :=
  { declaration with type := some type }

variable {declaration : Declaration} {name : String} {prototype synonym : CType}
  {signature : FunctionSignature}

/-- Of a function with a name, the type is all that a prototype still depends on. -/
theorem prototype_of_typed (kind : declaration.kind = .function)
    (named : named? declaration.linkageName = some name) (source : CType) :
    Prototype.ofDeclaration (declaration.typed source) =
      match Meaning.signature source with
      | .error defect => .error (.type defect)
      | .ok signature => .ok ⟨name, signature⟩ := by
  cases built : Meaning.signature source with
  | error defect =>
      simp only [Prototype.ofDeclaration, Source.Declaration.typed, named, kind, built]
  | ok signature =>
      simp only [Prototype.ofDeclaration, Source.Declaration.typed, named, kind, built]

theorem prototype_kind_role : (TypeKind.ofName prototypeKind).role = .function := rfl

theorem reported_arguments_role {source : CType} {arguments : List CType}
    (reported : Reported source) (given : source.arguments = some arguments) :
    source.kind.role = .function := by
  obtain ⟨native, rfl⟩ := reported
  cases native with
  | mk kind spelling size own element pointee result natives convention fields offsets found =>
      rw [NativeType.report] at given ⊢
      dsimp only at given ⊢
      split at given
      · rename_i same
        rw [eq_of_beq same]
        exact prototype_kind_role
      · contradiction

theorem reported_alias_arguments (reported : Reported synonym)
    (role : synonym.kind.role = .synonym) : synonym.arguments = none := by
  cases given : synonym.arguments with
  | none => rfl
  | some arguments =>
      rw [reported_arguments_role reported given] at role
      contradiction

theorem chain_role (chain : Relation.TransGen Names synonym prototype) :
    synonym.kind.role = .synonym := by
  obtain ⟨target, names, _⟩ := Relation.TransGen.head'_iff.mp chain
  exact names_role names

theorem chain_function_type (role : prototype.kind.role = .function)
    (built : Meaning.signature prototype = .ok signature)
    (chain : Relation.TransGen Names synonym prototype) :
    Meaning.type synonym = .ok (.function signature) := by
  rw [chain_type chain.to_reflTransGen]
  apply type_of_denotes
  apply Denotes.function prototype signature role
  exact ((signature_iff_denotes prototype).1 signature).mp built

theorem no_arguments_refused {source : CType} (missing : source.arguments = none) :
    ∃ defect, Meaning.signature source = .error defect := by
  cases translated : Meaning.signature source with
  | error defect => exact ⟨defect, rfl⟩
  | ok signature =>
      obtain ⟨_, arguments, _, _, given, _⟩ := signature_ok translated
      rw [missing] at given
      contradiction

/-- A missing list of arguments is the first defect where the result is that of a function. -/
theorem no_arguments_defect (built : Meaning.signature prototype = .ok signature)
    (missing : synonym.arguments = none) (same : synonym.result = prototype.result) :
    Meaning.signature synonym = .error (.noArguments synonym.spelling) := by
  obtain ⟨result, _, returned, translated, _, _⟩ := signature_ok built
  have denotes : Denotes result signature.returnType :=
    ((type_iff_denotes result).1 _).mp translated
  apply ((signature_iff_denotes synonym).2 _).mpr
  exact .noArguments synonym result signature.returnType (same.trans returned) denotes missing

/-- Under an alias a function is what it is under the prototype itself exactly where the alias
is said to have the parts of its signature. Followed as a type, the alias always has that
signature, and from the C front end no such function is accepted. -/
theorem aliased_function_kept_iff (kind : declaration.kind = .function)
    (named : named? declaration.linkageName = some name)
    (built : Meaning.signature prototype = .ok signature)
    (chain : Relation.TransGen Names synonym prototype) :
    Prototype.ofDeclaration (declaration.typed prototype) = .ok ⟨name, signature⟩ ∧
      (Prototype.ofDeclaration (declaration.typed synonym) =
          Prototype.ofDeclaration (declaration.typed prototype) ↔
        DenotesSignature synonym signature) ∧
      (prototype.kind.role = .function → Meaning.type synonym = .ok (.function signature)) ∧
      (Reported synonym → ∃ defect,
        Prototype.ofDeclaration (declaration.typed synonym) = .error (.type defect) ∧
          (synonym.result = prototype.result → defect = .noArguments synonym.spelling)) := by
  have direct : Prototype.ofDeclaration (declaration.typed prototype) = .ok ⟨name, signature⟩ := by
    rw [prototype_of_typed kind named, built]
  refine ⟨direct, ?_, ?_, ?_⟩
  · rw [direct, prototype_of_typed kind named, ← (signature_iff_denotes synonym).1]
    cases Meaning.signature synonym with
    | error defect => simp
    | ok other => simp
  · intro role
    exact chain_function_type role built chain
  · intro reported
    have missing : synonym.arguments = none := reported_alias_arguments reported (chain_role chain)
    obtain ⟨defect, refused⟩ := no_arguments_refused missing
    refine ⟨defect, ?_, ?_⟩
    · rw [prototype_of_typed kind named, refused]
    · intro same
      have first := no_arguments_defect built missing same
      exact Except.error.inj (refused.symm.trans first)

def aliased : Declaration :=
  { kind := .function, displayName := some "foo(int)", linkageName := some "foo"
    location := "foo.c:2:4", inSystemHeader := false, type := none }

def counting : FunctionSignature := ⟨.primitive .int32, [.primitive .int32], .nearC⟩

def countingType : CType :=
  { bareType .functionProto "int (int)" with
    result := some (bareType .int "int"), arguments := some [bareType .int "int"]
    convention := .known .c }

def toldAlias : CType :=
  { countingType with kind := .typedef, spelling := "fn", canonical := some countingType }

theorem told_alias_kept :
    aliased.kind = .function ∧ named? aliased.linkageName = some "foo" ∧
      Meaning.signature countingType = .ok counting ∧
      Relation.TransGen Names toldAlias countingType ∧ DenotesSignature toldAlias counting ∧
      Prototype.ofDeclaration (aliased.typed toldAlias) = .ok ⟨"foo", counting⟩ := by
  have named : named? aliased.linkageName = some "foo" := by decide
  have built : Meaning.signature countingType = .ok counting := by rfl
  have told : Meaning.signature toldAlias = .ok counting := by rfl
  have chain : Relation.TransGen Names toldAlias countingType := .single ⟨Or.inl rfl, rfl⟩
  have denotes : DenotesSignature toldAlias counting :=
    ((signature_iff_denotes toldAlias).1 counting).mp told
  have kept := aliased_function_kept_iff rfl named built chain
  exact ⟨rfl, named, built, chain, denotes, (kept.2.1.mpr denotes).trans kept.1⟩

def countingNode : NativeType :=
  { bareNode "FUNCTIONPROTO" (-1) with
    spelling := "int (int)", result := some (bareNode "INT" 4), arguments := [bareNode "INT" 4]
    convention := 1 }

def aliasNode : NativeType :=
  { bareNode "TYPEDEF" (-1) with
    spelling := "fn", canonical := some countingNode, result := some (bareNode "INT" 4)
    convention := 1 }

/-- As `typedef int fn(int); fn foo;` is reported. -/
theorem reported_alias_refused :
    Relation.TransGen Names aliasNode.report countingNode.report ∧
      Prototype.ofDeclaration (aliased.typed countingNode.report) = .ok ⟨"foo", counting⟩ ∧
      Prototype.ofDeclaration (aliased.typed aliasNode.report) =
        .error (.type (.noArguments "fn")) := by
  have kind : aliasNode.report.kind = .typedef := rfl
  have target : aliasNode.report.canonical = some countingNode.report := rfl
  exact ⟨.single ⟨Or.inl kind, target⟩, rfl, rfl⟩

end DebugRecovery
