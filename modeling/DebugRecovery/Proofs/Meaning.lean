import DebugRecovery.Layout
import DebugRecovery.Proofs.Each

/-!
# References of debug types

A debug type refers to structs by their names, at any depth. The names are those
of the records that the translation of its C type comes to: it follows an alias
to its canonical type, an array to its element, a pointer to the canonical type
of its pointee, and a function to its result and its arguments.
-/

set_option autoImplicit false

namespace DebugRecovery

open Source

mutual

/-- The names of the structs that a type refers to, one for each reference. -/
def DebugType.references : DebugType → List String
  | .primitive _ => []
  | .pointer target => target.references
  | .array element _ => element.references
  | .struct name => [name]
  | .function signature => signature.references

def FunctionSignature.references : FunctionSignature → List String
  | ⟨returnType, parameters, _⟩ => returnType.references ++ typesReferences parameters

def typesReferences : List DebugType → List String
  | [] => []
  | type :: types => type.references ++ typesReferences types

end

theorem mem_types_references_iff {name : String} (types : List DebugType) :
    name ∈ typesReferences types ↔ ∃ type ∈ types, name ∈ type.references := by
  induction types with
  | nil => simp [typesReferences]
  | cons type types induction => simp [typesReferences, induction]

theorem mem_signature_references_iff {name : String} (signature : FunctionSignature) :
    name ∈ signature.references ↔
      name ∈ signature.returnType.references ∨
        ∃ parameter ∈ signature.parameters, name ∈ parameter.references := by
  obtain ⟨returnType, parameters, convention⟩ := signature
  rw [FunctionSignature.references, List.mem_append, mem_types_references_iff]

namespace Meaning

variable {source part : CType} {name : String}

/-- A signature of the type is made of the part. -/
inductive SignaturePart (source : CType) : CType → Prop where
  | result (result : CType) (given : source.result = some result) : SignaturePart source result
  | argument (arguments : List CType) (argument : CType) (given : source.arguments = some arguments)
      (member : argument ∈ arguments) : SignaturePart source argument

/-- A type right below the source in its tree. -/
inductive Part (source : CType) : CType → Prop where
  | canonical (part : CType) (given : source.canonical = some part) : Part source part
  | element (part : CType) (given : source.element = some part) : Part source part
  | pointee (part : CType) (given : source.pointee = some part) : Part source part
  | signature (part : CType) (made : SignaturePart source part) : Part source part

/-- The translation of the source goes on with the part. -/
def Leads (source part : CType) : Prop :=
  match source.kind.role with
  | .synonym => source.canonical = some part
  | .array => source.element = some part
  | .pointer => ∃ pointee, source.pointee = some pointee ∧ part = canonical pointee
  | .function => SignaturePart source part
  | _ => False

theorem leads_canonical (role : source.kind.role = .synonym)
    (given : source.canonical = some part) : Leads source part := by
  simpa only [Leads, role] using given

theorem leads_element (role : source.kind.role = .array) (given : source.element = some part) :
    Leads source part := by
  simpa only [Leads, role] using given

theorem leads_pointee {pointee : CType} (role : source.kind.role = .pointer)
    (given : source.pointee = some pointee) : Leads source (canonical pointee) := by
  simp only [Leads, role]
  exact ⟨pointee, given, rfl⟩

theorem leads_part (role : source.kind.role = .function) (made : SignaturePart source part) :
    Leads source part := by
  simpa only [Leads, role] using made

/-- The translation of the source comes to a record of the name. -/
inductive Mentions (name : String) : CType → Prop where
  | record (source : CType) (role : source.kind.role = .record)
      (named : Declaration.referenceName? source.declaration = some name) : Mentions name source
  | part (source part : CType) (leads : Leads source part) (mentions : Mentions name part) :
      Mentions name source

theorem mentions_iff (name : String) (source : CType) :
    Mentions name source ↔
      (source.kind.role = .record ∧ Declaration.referenceName? source.declaration = some name) ∨
        ∃ part, Leads source part ∧ Mentions name part := by
  constructor
  · intro mentions
    cases mentions with
    | record _ role named => exact Or.inl ⟨role, named⟩
    | part _ part leads mentions => exact Or.inr ⟨part, leads, mentions⟩
  · rintro (⟨role, named⟩ | ⟨part, leads, mentions⟩)
    · exact .record source role named
    · exact .part source part leads mentions

theorem part_size (below : Part source part) : sizeOf part < sizeOf source := by
  obtain ⟨kind, spelling, own, element, size, pointee, declaration, result, arguments, report,
    fields, offsets⟩ := source
  cases below with
  | canonical given =>
      obtain rfl : own = some part := given
      simp only [CType.mk.sizeOf_spec, Option.some.sizeOf_spec]
      omega
  | element given =>
      obtain rfl : element = some part := given
      simp only [CType.mk.sizeOf_spec, Option.some.sizeOf_spec]
      omega
  | pointee given =>
      obtain rfl : pointee = some part := given
      simp only [CType.mk.sizeOf_spec, Option.some.sizeOf_spec]
      omega
  | signature made =>
      cases made with
      | result _ given =>
          obtain rfl : result = some part := given
          simp only [CType.mk.sizeOf_spec, Option.some.sizeOf_spec]
          omega
      | argument others _ given member =>
          obtain rfl : arguments = some others := given
          have smaller := List.sizeOf_lt_of_mem member
          simp only [CType.mk.sizeOf_spec, Option.some.sizeOf_spec]
          omega

theorem canonical_size (source : CType) : sizeOf (canonical source) ≤ sizeOf source := by
  cases own : source.canonical with
  | none =>
      have same : canonical source = source := by rw [canonical, own, Option.getD_none]
      exact Nat.le_of_eq (congrArg sizeOf same)
  | some target =>
      rw [canonical, own, Option.getD_some]
      exact Nat.le_of_lt (part_size (.canonical target own))

theorem leads_size (leads : Leads source part) : sizeOf part < sizeOf source := by
  unfold Leads at leads
  split at leads
  · exact part_size (.canonical part leads)
  · exact part_size (.element part leads)
  · obtain ⟨pointee, given, rfl⟩ := leads
    exact Nat.lt_of_le_of_lt (canonical_size pointee) (part_size (.pointee pointee given))
  · exact part_size (.signature part leads)
  · contradiction

theorem type_eq (source : CType) :
    type source = ofParts source.kind source.spelling source.size source.declaration
      source.convention ⟨optionalType source.canonical, optionalType source.element,
        canonicalType source.pointee, optionalType source.result,
        optionalTypes source.arguments⟩ := by
  obtain ⟨kind, spelling, own, element, size, pointee, declaration, result, arguments, report,
    fields, offsets⟩ := source
  rw [type]

theorem types_eq (sources : List CType) : types sources = sources.mapM type := by
  induction sources with
  | nil => rfl
  | cons source sources induction =>
      rw [types, induction, List.mapM_cons]
      rfl

theorem types_ok_iff {sources : List CType} {values : List DebugType} :
    types sources = .ok values ↔
      List.Forall₂ (fun source value => type source = .ok value) sources values := by
  rw [types_eq, except_each_iff]

theorem signature_ok {signature : FunctionSignature}
    (translated : Meaning.signature source = .ok signature) :
    ∃ result arguments, source.result = some result ∧ type result = .ok signature.returnType ∧
      source.arguments = some arguments ∧
      List.Forall₂ (fun argument parameter => type argument = .ok parameter) arguments
        signature.parameters := by
  unfold Meaning.signature function at translated
  obtain ⟨returnType, returned, translated⟩ := except_bind_ok translated
  obtain ⟨parameters, given, translated⟩ := except_bind_ok translated
  obtain ⟨convention, _, translated⟩ := except_bind_ok translated
  cases translated
  cases result : source.result with
  | none =>
      rw [result] at returned
      contradiction
  | some target =>
      cases arguments : source.arguments with
      | none =>
          rw [arguments] at given
          contradiction
      | some targets =>
          simp only [result, optionalType, Option.getD_some] at returned
          simp only [arguments, optionalTypes, Option.getD_some] at given
          exact ⟨target, targets, rfl, returned, rfl, types_ok_iff.mp given⟩

/-- The debug type is what the rule for the kind of the source makes of the types that it leads to. -/
inductive Formed (source : CType) : DebugType → Prop where
  | primitive (kind : Primitive) (role : source.kind.role = .primitive kind) :
      Formed source (.primitive kind)
  | synonym (target : CType) (value : DebugType) (role : source.kind.role = .synonym)
      (given : source.canonical = some target) (translated : type target = .ok value) :
      Formed source value
  | array (element : CType) (inner : DebugType) (size : Int) (role : source.kind.role = .array)
      (given : source.element = some element) (sized : source.size = some size)
      (translated : type element = .ok inner) : Formed source (.array inner size)
  | function (signature : FunctionSignature) (role : source.kind.role = .function)
      (built : Meaning.signature source = .ok signature) : Formed source (.function signature)
  | pointer (pointee : CType) (target : DebugType) (role : source.kind.role = .pointer)
      (given : source.pointee = some pointee)
      (translated : type (canonical pointee) = .ok target) : Formed source (.pointer target)
  | record (name : String) (role : source.kind.role = .record)
      (named : Declaration.referenceName? source.declaration = some name) :
      Formed source (.struct name)

theorem type_formed {value : DebugType} (translated : type source = .ok value) :
    Formed source value := by
  rw [type_eq] at translated
  unfold ofParts at translated
  cases role : source.kind.role with
  | primitive kind =>
      rw [role] at translated
      rw [← Except.ok.inj translated]
      exact .primitive kind role
  | synonym =>
      rw [role] at translated
      cases given : source.canonical with
      | none =>
          rw [given] at translated
          contradiction
      | some target =>
          rw [given] at translated
          exact .synonym target value role given translated
  | array =>
      rw [role] at translated
      cases given : source.element with
      | none =>
          rw [given] at translated
          contradiction
      | some element =>
          cases sized : source.size with
          | none =>
              rw [given, sized] at translated
              contradiction
          | some size =>
              rw [given, sized] at translated
              cases further : type element with
              | error defect =>
                  simp [array, optionalType, further, Except.map] at translated
              | ok inner =>
                  simp only [array, optionalType, further, Except.map,
                    Except.ok.injEq] at translated
                  rw [← translated]
                  exact .array element inner size role given sized further
  | function =>
      rw [role] at translated
      cases built : Meaning.signature source with
      | error defect =>
          rw [Meaning.signature] at built
          simp [built, Except.map] at translated
      | ok signature =>
          have formed := Formed.function signature role built
          rw [Meaning.signature] at built
          simp only [built, Except.map, Except.ok.injEq] at translated
          rw [← translated]
          exact formed
  | pointer =>
      rw [role] at translated
      cases given : source.pointee with
      | none =>
          rw [given] at translated
          contradiction
      | some pointee =>
          rw [given, canonical_type_some] at translated
          cases further : type (canonical pointee) with
          | error defect => simp [pointer, further, Except.map] at translated
          | ok target =>
              simp only [pointer, further, Except.map, Except.ok.injEq] at translated
              rw [← translated]
              exact .pointer pointee target role given further
  | record =>
      rw [role] at translated
      cases named : Declaration.referenceName? source.declaration with
      | none => simp [record, named] at translated
      | some name =>
          simp only [record, named, Except.ok.injEq] at translated
          rw [← translated]
          exact .record name role named
  | unknown =>
      rw [role] at translated
      contradiction

/-- What holds of a translation once it holds of those that it goes on with holds of all. -/
theorem translation_induction {motive : CType → DebugType → Prop}
    (step : ∀ source value, Formed source value →
      (∀ part inner, Leads source part → type part = .ok inner → motive part inner) →
      motive source value)
    {source : CType} {value : DebugType} (translated : type source = .ok value) :
    motive source value := by
  apply step source value (type_formed translated)
  intro part inner leads further
  have smaller := leads_size leads
  exact translation_induction step further
termination_by sizeOf source

/-- A signature refers to what the types refer to that it is made of. -/
theorem signature_references_of_parts {signature : FunctionSignature}
    (translated : Meaning.signature source = .ok signature)
    (parts : ∀ part, SignaturePart source part → ∀ value, type part = .ok value →
      (name ∈ value.references ↔ Mentions name part)) :
    name ∈ signature.references ↔ ∃ part, SignaturePart source part ∧ Mentions name part := by
  obtain ⟨result, arguments, returned, returnType, given, each⟩ := signature_ok translated
  rw [mem_signature_references_iff]
  constructor
  · rintro (inResult | ⟨parameter, member, inParameter⟩)
    · have made := SignaturePart.result result returned
      exact ⟨result, made, (parts result made _ returnType).mp inResult⟩
    · obtain ⟨argument, inside, translation⟩ := each_value each member
      have made := SignaturePart.argument arguments argument given inside
      exact ⟨argument, made, (parts argument made parameter translation).mp inParameter⟩
  · rintro ⟨part, made, mentions⟩
    have isPart := made
    cases made with
    | result _ known =>
        obtain rfl : part = result := Option.some.inj (known.symm.trans returned)
        exact Or.inl ((parts part isPart _ returnType).mpr mentions)
    | argument others _ known member =>
        obtain rfl : others = arguments := Option.some.inj (known.symm.trans given)
        obtain ⟨parameter, inside, translation⟩ := each_item each member
        exact Or.inr ⟨parameter, inside, (parts part isPart parameter translation).mpr mentions⟩

/-- A debug type refers to the names of the records that its translation came to. -/
theorem type_references_iff {source : CType} {value : DebugType}
    (translated : type source = .ok value) : name ∈ value.references ↔ Mentions name source := by
  apply translation_induction (motive := fun source value =>
    name ∈ value.references ↔ Mentions name source) _ translated
  intro source value formed induction
  rw [mentions_iff]
  cases formed with
  | primitive kind role => simp [DebugType.references, Leads, role]
  | synonym target value role given further =>
      rw [induction target value (leads_canonical role given) further]
      simp [Leads, role, given]
  | array element inner size role given sized further =>
      rw [DebugType.references, induction element inner (leads_element role given) further]
      simp [Leads, role, given]
  | function signature role built =>
      have parts : ∀ part, SignaturePart source part → ∀ value, type part = .ok value →
          (name ∈ value.references ↔ Mentions name part) := by
        intro part made value further
        exact induction part value (leads_part role made) further
      rw [DebugType.references, signature_references_of_parts built parts]
      simp [Leads, role]
  | pointer pointee target role given further =>
      rw [DebugType.references,
        induction (canonical pointee) target (leads_pointee role given) further]
      simp [Leads, role, given]
  | record own role named =>
      simp [DebugType.references, Leads, role, named, eq_comm]

end Meaning

end DebugRecovery
