import DebugRecovery.Proofs.Meaning
import Mathlib.Logic.Relation

/-!
# What types denote

A type denotes a debug type by one rule for each role of its kind: a primitive
denotes itself, an alias what its canonical type denotes, an array and a pointer
what is built on their element and on the canonical type of their pointee, a
function its signature, a record a reference by name. Where no rule can be used
the type fails, and the defect is the first on the way through the type. Every
type either denotes or fails, and the translation computes which; it succeeds
exactly when every type that it comes to has what its rule asks for.
-/

set_option autoImplicit false

namespace DebugRecovery

open Source

namespace Meaning

variable {source part : CType} {value : DebugType} {signature : FunctionSignature}
  {defect : TypeDefect}

/-- The front end tells the convention, and debug information has a record for it. -/
def Supported (report : ConventionReport) (recorded : CallingConvention) : Prop :=
  ∃ convention, report = .known convention ∧ convention.recorded? = some recorded

mutual

/-- What a type denotes. -/
inductive Denotes : CType → DebugType → Prop where
  | primitive (source : CType) (kind : Primitive) (role : source.kind.role = .primitive kind) :
      Denotes source (.primitive kind)
  | synonym (source target : CType) (value : DebugType) (role : source.kind.role = .synonym)
      (given : source.canonical = some target) (denotes : Denotes target value) :
      Denotes source value
  | array (source element : CType) (inner : DebugType) (size : Int)
      (role : source.kind.role = .array) (given : source.element = some element)
      (sized : source.size = some size) (denotes : Denotes element inner) :
      Denotes source (.array inner size)
  | function (source : CType) (signature : FunctionSignature) (role : source.kind.role = .function)
      (denotes : DenotesSignature source signature) : Denotes source (.function signature)
  | pointer (source pointee : CType) (target : DebugType) (role : source.kind.role = .pointer)
      (given : source.pointee = some pointee) (denotes : Denotes (canonical pointee) target) :
      Denotes source (.pointer target)
  | record (source : CType) (name : String) (role : source.kind.role = .record)
      (named : Declaration.referenceName? source.declaration = some name) :
      Denotes source (.struct name)

/-- The signature that functions of a type have, whatever the kind of the type. -/
inductive DenotesSignature : CType → FunctionSignature → Prop where
  | parts (source result : CType) (arguments : List CType) (returnType : DebugType)
      (parameters : List DebugType) (recorded : CallingConvention)
      (returned : source.result = some result) (denotes : Denotes result returnType)
      (listed : source.arguments = some arguments)
      (each : List.Forall₂ Denotes arguments parameters)
      (supported : Supported source.convention recorded) :
      DenotesSignature source ⟨returnType, parameters, recorded⟩

end

mutual

/-- The first defect on the way through a type that denotes nothing. -/
inductive Fails : CType → TypeDefect → Prop where
  | endless (source : CType) (role : source.kind.role = .synonym)
      (own : source.canonical = none) : Fails source (.endlessAlias source.spelling)
  | synonym (source target : CType) (defect : TypeDefect) (role : source.kind.role = .synonym)
      (given : source.canonical = some target) (failed : Fails target defect) :
      Fails source defect
  | noElement (source : CType) (role : source.kind.role = .array)
      (missing : source.element = none) : Fails source (.noElement source.spelling)
  | noArraySize (source element : CType) (role : source.kind.role = .array)
      (given : source.element = some element) (missing : source.size = none) :
      Fails source (.noArraySize source.spelling)
  | element (source element : CType) (size : Int) (defect : TypeDefect)
      (role : source.kind.role = .array) (given : source.element = some element)
      (sized : source.size = some size) (failed : Fails element defect) : Fails source defect
  | function (source : CType) (defect : TypeDefect) (role : source.kind.role = .function)
      (failed : FailsSignature source defect) : Fails source defect
  | noPointee (source : CType) (role : source.kind.role = .pointer)
      (missing : source.pointee = none) : Fails source (.noPointee source.spelling)
  | pointee (source pointee : CType) (defect : TypeDefect) (role : source.kind.role = .pointer)
      (given : source.pointee = some pointee) (failed : Fails (canonical pointee) defect) :
      Fails source defect
  | unnamedRecord (source : CType) (role : source.kind.role = .record)
      (nameless : Declaration.referenceName? source.declaration = none) :
      Fails source (.unnamedRecord source.spelling)
  | noRule (source : CType) (role : source.kind.role = .unknown) :
      Fails source (.noRule source.spelling source.kind)

/-- The first defect on the way through the parts of a signature. -/
inductive FailsSignature : CType → TypeDefect → Prop where
  | noResult (source : CType) (missing : source.result = none) :
      FailsSignature source (.noResult source.spelling)
  | result (source result : CType) (defect : TypeDefect) (returned : source.result = some result)
      (failed : Fails result defect) : FailsSignature source defect
  | noArguments (source result : CType) (returnType : DebugType)
      (returned : source.result = some result) (denotes : Denotes result returnType)
      (missing : source.arguments = none) : FailsSignature source (.noArguments source.spelling)
  | argument (source result argument : CType) (front back : List CType) (returnType : DebugType)
      (values : List DebugType) (defect : TypeDefect) (returned : source.result = some result)
      (denotes : Denotes result returnType)
      (listed : source.arguments = some (front ++ argument :: back))
      (before : List.Forall₂ Denotes front values) (failed : Fails argument defect) :
      FailsSignature source defect
  | convention (source result : CType) (arguments : List CType) (returnType : DebugType)
      (parameters : List DebugType) (returned : source.result = some result)
      (denotes : Denotes result returnType) (listed : source.arguments = some arguments)
      (each : List.Forall₂ Denotes arguments parameters)
      (unsupported : ∀ recorded, ¬ Supported source.convention recorded) :
      FailsSignature source (.convention source.spelling source.convention)

end

theorem convention_supported {report : ConventionReport} {recorded : CallingConvention}
    (supported : Supported report recorded) (spelling : String) :
    convention spelling report = .ok recorded := by
  obtain ⟨known, rfl, record⟩ := supported
  simp only [convention, ConventionReport.convention?, Option.bind_some, record]

theorem convention_unsupported {report : ConventionReport}
    (unsupported : ∀ recorded, ¬ Supported report recorded) (spelling : String) :
    convention spelling report = .error (.convention spelling report) := by
  have none : report.convention?.bind Convention.recorded? = none := by
    cases report with
    | absent => rfl
    | unknown number => rfl
    | known convention =>
        apply Option.eq_none_iff_forall_ne_some.mpr
        intro recorded record
        exact unsupported recorded ⟨convention, rfl, record⟩
  simp only [convention, none]

theorem arguments_of_denotes {arguments : List CType} {parameters : List DebugType}
    (values : ∀ part, SignaturePart source part → ∀ value, Denotes part value →
      type part = .ok value)
    (listed : source.arguments = some arguments)
    (each : List.Forall₂ Denotes arguments parameters) : types arguments = .ok parameters := by
  rw [types_ok_iff]
  exact each_imp each fun argument member parameter _ =>
    values argument (.argument arguments argument listed member) parameter

theorem signature_of_denotes
    (values : ∀ part, SignaturePart source part → ∀ value, Denotes part value →
      type part = .ok value)
    (denotes : DenotesSignature source signature) : Meaning.signature source = .ok signature := by
  cases denotes with
  | parts _ result arguments returnType parameters recorded returned denotes listed each supported =>
      have resulting : type result = .ok returnType :=
        values result (.result result returned) returnType denotes
      have given : types arguments = .ok parameters := arguments_of_denotes values listed each
      rw [Meaning.signature, function, returned, listed, optionalType, optionalTypes,
        Option.getD_some, Option.getD_some, resulting, given, convention_supported supported]
      rfl

theorem signature_of_fails
    (values : ∀ part, SignaturePart source part → ∀ value, Denotes part value →
      type part = .ok value)
    (defects : ∀ part, SignaturePart source part → ∀ defect, Fails part defect →
      type part = .error defect)
    (fails : FailsSignature source defect) : Meaning.signature source = .error defect := by
  rw [Meaning.signature, function]
  cases fails with
  | noResult _ missing =>
      rw [missing]
      rfl
  | result _ result _ returned failed =>
      rw [returned, optionalType, Option.getD_some,
        defects result (.result result returned) defect failed]
      rfl
  | noArguments _ result returnType returned denotes missing =>
      rw [returned, missing, optionalType, Option.getD_some,
        values result (.result result returned) returnType denotes]
      rfl
  | argument _ result argument front back returnType before _ returned denotes listed each failed =>
      have member : ∀ other ∈ front ++ argument :: back, SignaturePart source other :=
        fun other inside => .argument (front ++ argument :: back) other listed inside
      have given : types (front ++ argument :: back) = .error defect := by
        rw [types_eq, except_each_error_iff]
        refine ⟨front, argument, back, before, rfl, ?_, ?_⟩
        · exact each_imp each fun other inside value _ =>
            values other (member other (List.mem_append_left _ inside)) value
        · exact defects argument (member argument (by simp)) defect failed
      rw [returned, listed, optionalType, optionalTypes, Option.getD_some, Option.getD_some,
        values result (.result result returned) returnType denotes, given]
      rfl
  | convention _ result arguments returnType parameters returned denotes listed each unsupported =>
      have given : types arguments = .ok parameters := arguments_of_denotes values listed each
      rw [returned, listed, optionalType, optionalTypes, Option.getD_some, Option.getD_some,
        values result (.result result returned) returnType denotes, given,
        convention_unsupported unsupported]
      rfl

theorem type_of_denotes {source : CType} {value : DebugType} (denotes : Denotes source value) :
    type source = .ok value := by
  have values : ∀ part, Leads source part → ∀ inner, Denotes part inner → type part = .ok inner :=
    fun part leads inner further => type_of_denotes further
  cases denotes with
  | primitive _ kind role => rw [type_eq, ofParts, role]
  | synonym _ target _ role given further =>
      rw [type_eq, ofParts, role, given, optionalType,
        values target (leads_canonical role given) value further]
      rfl
  | array _ element inner size role given sized further =>
      rw [type_eq, ofParts, role, given, sized, optionalType,
        values element (leads_element role given) inner further]
      rfl
  | function _ signature role further =>
      have built : Meaning.signature source = .ok signature :=
        signature_of_denotes (fun part made => values part (leads_part role made)) further
      rw [Meaning.signature] at built
      rw [type_eq, ofParts, role, built]
      rfl
  | pointer _ pointee target role given further =>
      rw [type_eq, ofParts, role, given, canonical_type_some,
        values (canonical pointee) (leads_pointee role given) target further]
      rfl
  | record _ name role named =>
      rw [type_eq, ofParts, role, record, named]
termination_by sizeOf source
decreasing_by exact leads_size leads

theorem type_of_fails {source : CType} {defect : TypeDefect} (fails : Fails source defect) :
    type source = .error defect := by
  have defects : ∀ part, Leads source part → ∀ defect, Fails part defect →
      type part = .error defect :=
    fun part leads defect further => type_of_fails further
  cases fails with
  | endless _ role own =>
      rw [type_eq, ofParts, role, own]
      rfl
  | synonym _ target _ role given further =>
      rw [type_eq, ofParts, role, given, optionalType,
        defects target (leads_canonical role given) defect further]
      rfl
  | noElement _ role missing =>
      rw [type_eq, ofParts, role, missing]
      rfl
  | noArraySize _ element role given missing =>
      rw [type_eq, ofParts, role, given, missing]
      rfl
  | element _ element size _ role given sized further =>
      rw [type_eq, ofParts, role, given, sized, optionalType,
        defects element (leads_element role given) defect further]
      rfl
  | function _ _ role further =>
      have built : Meaning.signature source = .error defect :=
        signature_of_fails (fun _ _ _ => type_of_denotes)
          (fun part made => defects part (leads_part role made)) further
      rw [Meaning.signature] at built
      rw [type_eq, ofParts, role, built]
      rfl
  | noPointee _ role missing =>
      rw [type_eq, ofParts, role, missing]
      rfl
  | pointee _ pointee _ role given further =>
      rw [type_eq, ofParts, role, given, canonical_type_some,
        defects (canonical pointee) (leads_pointee role given) defect further]
      rfl
  | unnamedRecord _ role nameless =>
      rw [type_eq, ofParts, role, record, nameless]
  | noRule _ role => rw [type_eq, ofParts, role]
termination_by sizeOf source
decreasing_by exact leads_size leads

theorem denotes_or_fails_signature
    (parts : ∀ part, SignaturePart source part →
      (∃ value, Denotes part value) ∨ ∃ defect, Fails part defect) :
    (∃ signature, DenotesSignature source signature) ∨
      ∃ defect, FailsSignature source defect := by
  cases returned : source.result with
  | none => exact Or.inr ⟨_, .noResult source returned⟩
  | some result =>
      rcases parts result (.result result returned) with ⟨returnType, denotes⟩ | ⟨defect, failed⟩
      · cases listed : source.arguments with
        | none => exact Or.inr ⟨_, .noArguments source result returnType returned denotes listed⟩
        | some arguments =>
            have each := each_or_first fun argument member =>
              parts argument (.argument arguments argument listed member)
            rcases each with ⟨parameters, each⟩ |
              ⟨front, argument, back, before, defect, rfl, each, failed⟩
            · by_cases supported : ∃ recorded, Supported source.convention recorded
              · obtain ⟨recorded, supported⟩ := supported
                exact Or.inl ⟨_, .parts source result arguments returnType parameters recorded
                  returned denotes listed each supported⟩
              · exact Or.inr ⟨_, .convention source result arguments returnType parameters returned
                  denotes listed each (not_exists.mp supported)⟩
            · exact Or.inr ⟨defect, .argument source result argument front back returnType before
                defect returned denotes listed each failed⟩
      · exact Or.inr ⟨defect, .result source result defect returned failed⟩

theorem denotes_or_fails (source : CType) :
    (∃ value, Denotes source value) ∨ ∃ defect, Fails source defect := by
  have parts : ∀ part, Leads source part →
      (∃ value, Denotes part value) ∨ ∃ defect, Fails part defect :=
    fun part leads => denotes_or_fails part
  cases role : source.kind.role with
  | primitive kind => exact Or.inl ⟨_, .primitive source kind role⟩
  | synonym =>
      cases given : source.canonical with
      | none => exact Or.inr ⟨_, .endless source role given⟩
      | some target =>
          rcases parts target (leads_canonical role given) with ⟨value, denotes⟩ | ⟨defect, failed⟩
          · exact Or.inl ⟨value, .synonym source target value role given denotes⟩
          · exact Or.inr ⟨defect, .synonym source target defect role given failed⟩
  | array =>
      cases given : source.element with
      | none => exact Or.inr ⟨_, .noElement source role given⟩
      | some element =>
          cases sized : source.size with
          | none => exact Or.inr ⟨_, .noArraySize source element role given sized⟩
          | some size =>
              rcases parts element (leads_element role given) with ⟨inner, denotes⟩ | ⟨defect, failed⟩
              · exact Or.inl ⟨_, .array source element inner size role given sized denotes⟩
              · exact Or.inr ⟨defect, .element source element size defect role given sized failed⟩
  | function =>
      have signature := denotes_or_fails_signature fun part made =>
        parts part (leads_part role made)
      rcases signature with ⟨signature, denotes⟩ | ⟨defect, failed⟩
      · exact Or.inl ⟨_, .function source signature role denotes⟩
      · exact Or.inr ⟨defect, .function source defect role failed⟩
  | pointer =>
      cases given : source.pointee with
      | none => exact Or.inr ⟨_, .noPointee source role given⟩
      | some pointee =>
          have further := parts (canonical pointee) (leads_pointee role given)
          rcases further with ⟨target, denotes⟩ | ⟨defect, failed⟩
          · exact Or.inl ⟨_, .pointer source pointee target role given denotes⟩
          · exact Or.inr ⟨defect, .pointee source pointee defect role given failed⟩
  | record =>
      cases named : Declaration.referenceName? source.declaration with
      | none => exact Or.inr ⟨_, .unnamedRecord source role named⟩
      | some name => exact Or.inl ⟨_, .record source name role named⟩
  | unknown => exact Or.inr ⟨_, .noRule source role⟩
termination_by sizeOf source
decreasing_by exact leads_size leads

/-- The translation of the source comes to the node: it goes on with it or with one that leads there. -/
def Reaches (source node : CType) : Prop := Relation.ReflTransGen Leads source node

/-- A function of the type has a result, a list of arguments and a convention that is recorded. -/
def Callable (node : CType) : Prop :=
  node.result ≠ none ∧ node.arguments ≠ none ∧ ∃ recorded, Supported node.convention recorded

/-- The type has what the rule for its kind asks for. -/
def Translatable (node : CType) : Prop :=
  match node.kind.role with
  | .primitive _ => True
  | .synonym => True
  | .array => node.element ≠ none ∧ node.size ≠ none
  | .function => Callable node
  | .pointer => node.pointee ≠ none
  | .record => Declaration.referenceName? node.declaration ≠ none
  | .unknown => False

/-- Every alias that the translation comes to has a canonical type other than itself. -/
def Founded (source : CType) : Prop :=
  ∀ node, Reaches source node → node.kind.role = .synonym → node.canonical ≠ none

theorem signature_callable (denotes : DenotesSignature source signature) : Callable source := by
  cases denotes with
  | parts _ result arguments returnType parameters recorded returned denotes listed each supported =>
      rw [Callable, returned, listed]
      exact ⟨Option.some_ne_none _, Option.some_ne_none _, recorded, supported⟩

theorem denotes_translatable (denotes : Denotes source value) : Translatable source := by
  unfold Translatable
  cases denotes with
  | primitive _ kind role => rw [role]; trivial
  | synonym _ target _ role given further => rw [role]; trivial
  | array _ element inner size role given sized further => simp [role, given, sized]
  | function _ signature role further =>
      rw [role]
      exact signature_callable further
  | pointer _ pointee target role given further => simp [role, given]
  | record _ name role named => simp [role, named]

theorem part_denotes_of_signature (denotes : DenotesSignature source signature)
    (made : SignaturePart source part) : ∃ inner, Denotes part inner := by
  cases denotes with
  | parts _ result arguments returnType parameters recorded returned denotes listed each supported =>
      cases made with
      | result _ known =>
          obtain rfl : part = result := Option.some.inj (known.symm.trans returned)
          exact ⟨returnType, denotes⟩
      | argument others _ known member =>
          obtain rfl : others = arguments := Option.some.inj (known.symm.trans listed)
          obtain ⟨inner, _, denotes⟩ := each_item each member
          exact ⟨inner, denotes⟩

theorem part_denotes (denotes : Denotes source value) (leads : Leads source part) :
    ∃ inner, Denotes part inner := by
  unfold Leads at leads
  cases denotes with
  | primitive _ kind role => simp [role] at leads
  | synonym _ target _ role given further =>
      rw [role, given] at leads
      exact ⟨value, Option.some.inj leads ▸ further⟩
  | array _ element inner size role given sized further =>
      rw [role, given] at leads
      exact ⟨inner, Option.some.inj leads ▸ further⟩
  | function _ signature role further =>
      rw [role] at leads
      exact part_denotes_of_signature further leads
  | pointer _ pointee target role given further =>
      rw [role, given] at leads
      obtain ⟨other, same, rfl⟩ := leads
      exact ⟨target, Option.some.inj same ▸ further⟩
  | record _ name role named => simp [role] at leads

theorem reached_denotes {node : CType} (denotes : Denotes source value)
    (reaches : Reaches source node) : ∃ inner, Denotes node inner := by
  induction reaches with
  | refl => exact ⟨value, denotes⟩
  | tail _ leads induction =>
      obtain ⟨inner, further⟩ := induction
      exact part_denotes further leads

theorem denotes_founded (denotes : Denotes source value) : Founded source := by
  intro node reaches role
  obtain ⟨inner, further⟩ := reached_denotes denotes reaches
  cases further with
  | synonym _ target _ _ given _ => simp [given]
  -- Each of the other rules is for another role.
  | _ => simp_all

theorem part_fails_of_signature (fails : FailsSignature source defect) (callable : Callable source) :
    ∃ part, SignaturePart source part ∧ Fails part defect := by
  cases fails with
  | noResult _ missing => exact absurd missing callable.1
  | result _ result _ returned failed => exact ⟨result, .result result returned, failed⟩
  | noArguments _ result returnType returned denotes missing => exact absurd missing callable.2.1
  | argument _ result argument front back returnType values _ returned denotes listed before failed =>
      exact ⟨argument, .argument _ argument listed (by simp), failed⟩
  | convention _ result arguments returnType parameters returned denotes listed each unsupported =>
      obtain ⟨recorded, supported⟩ := callable.2.2
      exact absurd supported (unsupported recorded)

/-- A defect stems from a type that lacks what its rule asks for, or from an alias of itself. -/
theorem fails_not_translatable {source : CType} {defect : TypeDefect} (fails : Fails source defect)
    (founded : Founded source) : ∃ node, Reaches source node ∧ ¬ Translatable node := by
  have here : ¬ Translatable source → ∃ node, Reaches source node ∧ ¬ Translatable node :=
    fun lacking => ⟨source, .refl, lacking⟩
  have further : ∀ part, Leads source part → Fails part defect →
      ∃ node, Reaches source node ∧ ¬ Translatable node := by
    intro part leads failed
    have below : Founded part := fun node reaches => founded node (.head leads reaches)
    obtain ⟨node, reaches, lacking⟩ := fails_not_translatable failed below
    exact ⟨node, .head leads reaches, lacking⟩
  cases fails with
  | endless _ role own => exact absurd own (founded source .refl role)
  | synonym _ target _ role given failed =>
      exact further target (leads_canonical role given) failed
  | noElement _ role missing =>
      apply here
      simp [Translatable, role, missing]
  | noArraySize _ element role given missing =>
      apply here
      simp [Translatable, role, missing]
  | element _ element size _ role given sized failed =>
      exact further element (leads_element role given) failed
  | function _ _ role failed =>
      by_cases callable : Callable source
      · obtain ⟨part, made, failed⟩ := part_fails_of_signature failed callable
        exact further part (leads_part role made) failed
      · apply here
        rw [Translatable, role]
        exact callable
  | noPointee _ role missing =>
      apply here
      simp [Translatable, role, missing]
  | pointee _ pointee _ role given failed =>
      exact further (canonical pointee) (leads_pointee role given) failed
  | unnamedRecord _ role nameless =>
      apply here
      simp [Translatable, role, nameless]
  | noRule _ role =>
      apply here
      simp [Translatable, role]
termination_by sizeOf source
decreasing_by exact leads_size leads

theorem denotes_iff_translatable (source : CType) :
    (∃ value, Denotes source value) ↔
      Founded source ∧ ∀ node, Reaches source node → Translatable node := by
  constructor
  · rintro ⟨value, denotes⟩
    refine ⟨denotes_founded denotes, fun node reaches => ?_⟩
    obtain ⟨inner, further⟩ := reached_denotes denotes reaches
    exact denotes_translatable further
  · rintro ⟨founded, translatable⟩
    rcases denotes_or_fails source with denotes | ⟨defect, fails⟩
    · exact denotes
    · obtain ⟨node, reaches, lacking⟩ := fails_not_translatable fails founded
      exact absurd (translatable node reaches) lacking

theorem type_iff_denotes (source : CType) :
    (∀ value, type source = .ok value ↔ Denotes source value) ∧
      ∀ defect, type source = .error defect ↔ Fails source defect :=
  except_iff_of_total (fun _ => type_of_denotes) (fun _ => type_of_fails) (denotes_or_fails source)

theorem signature_iff_denotes (source : CType) :
    (∀ signature, Meaning.signature source = .ok signature ↔ DenotesSignature source signature) ∧
      ∀ defect, Meaning.signature source = .error defect ↔ FailsSignature source defect := by
  have values : ∀ part, SignaturePart source part → ∀ value, Denotes part value →
      type part = .ok value := fun _ _ _ => type_of_denotes
  have defects : ∀ part, SignaturePart source part → ∀ defect, Fails part defect →
      type part = .error defect := fun _ _ _ => type_of_fails
  apply except_iff_of_total
  · exact fun _ => signature_of_denotes values
  · exact fun _ => signature_of_fails values defects
  · exact denotes_or_fails_signature fun part _ => denotes_or_fails part

/-- A type is translated to what it denotes, and its signature likewise, or the translation ends with
the first defect on the way. It succeeds exactly when every type that it comes to, by way of
canonical types, elements, canonical pointees, results and arguments, has what its rule asks for. A
tree of types has no alias that is its own canonical type; with one the translation never ends. -/
theorem types_translated_as_denoted (source : CType) :
    (∀ value, type source = .ok value ↔ Denotes source value) ∧
    (∀ defect, type source = .error defect ↔ Fails source defect) ∧
    (∀ signature, Meaning.signature source = .ok signature ↔ DenotesSignature source signature) ∧
    (∀ defect, Meaning.signature source = .error defect ↔ FailsSignature source defect) ∧
    ((∃ value, type source = .ok value) ↔
      Founded source ∧ ∀ node, Reaches source node → Translatable node) := by
  have translated := type_iff_denotes source
  have signed := signature_iff_denotes source
  refine ⟨translated.1, translated.2, signed.1, signed.2, ?_⟩
  rw [← denotes_iff_translatable]
  exact exists_congr translated.1

end Meaning

end DebugRecovery
