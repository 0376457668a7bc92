import DebugRecovery.Proofs.Layout
import DebugRecovery.Proofs.Meaning
import DebugRecovery.Source.Native

/-!
# Missing information and debug types

A front end has negative numbers, empty names and invalid kinds for what it
cannot tell. In its report the numbers and names are left out, and every type
that a translation comes to from a reported type is reported too. So none of
these marks is found in what a translation gives: a type of an invalid kind,
which may stand where the report does not look, has no debug type at all.
-/

set_option autoImplicit false

namespace DebugRecovery

open Source Meaning

mutual

/-- At no depth an array of negative size or a reference without a name. -/
def DebugType.Proper : DebugType → Prop
  | .primitive _ => True
  | .pointer target => target.Proper
  | .array element size => element.Proper ∧ 0 ≤ size
  | .struct name => name ≠ ""
  | .function signature => signature.Proper

def FunctionSignature.Proper : FunctionSignature → Prop
  | ⟨returnType, parameters, _⟩ => returnType.Proper ∧ typesProper parameters

def typesProper : List DebugType → Prop
  | [] => True
  | type :: types => type.Proper ∧ typesProper types

end

theorem types_proper_iff (types : List DebugType) :
    typesProper types ↔ ∀ type ∈ types, type.Proper := by
  induction types with
  | nil => simp [typesProper]
  | cons type types induction => simp [typesProper, induction]

theorem signature_proper_iff (signature : FunctionSignature) :
    signature.Proper ↔
      signature.returnType.Proper ∧ ∀ parameter ∈ signature.parameters, parameter.Proper := by
  obtain ⟨returnType, parameters, convention⟩ := signature
  rw [FunctionSignature.Proper, types_proper_iff]

structure Prototype.Proper (prototype : Prototype) : Prop where
  name : prototype.name ≠ ""
  signature : prototype.signature.Proper

structure StructMember.Proper (field : StructMember) : Prop where
  name : field.name ≠ ""
  type : field.type.Proper
  offset : 0 ≤ field.offset

structure StructLayout.Proper (layout : StructLayout) : Prop where
  name : layout.name ≠ ""
  size : 0 ≤ layout.size
  fields : ∀ field ∈ layout.fields, field.Proper

namespace Source

theorem named_nonempty {given : Option String} {name : String} (named : named? given = some name) :
    name ≠ "" := by
  intro empty
  unfold named? at named
  split at named
  · contradiction
  · rename_i marked
    rw [empty] at named
    exact marked named

theorem nonnegative_of_some {number size : Int} (reported : nonnegative? number = some size) :
    0 ≤ size := by
  unfold nonnegative? at reported
  split at reported
  · contradiction
  · have same := Option.some.inj reported
    omega

/-- The type is one that the front end reports. -/
def Reported (source : CType) : Prop := ∃ native : NativeType, source = native.report

def ReportedDeclaration (declaration : Declaration) : Prop :=
  ∃ native : NativeCursor, declaration = native.report

theorem report_types_eq (natives : List NativeType) :
    reportTypes natives = natives.map NativeType.report := by
  induction natives with
  | nil => rfl
  | cons native natives induction => rw [reportTypes, induction, List.map_cons]

theorem report_cursors_eq (natives : List NativeCursor) :
    reportCursors natives = natives.map NativeCursor.report := by
  induction natives with
  | nil => rfl
  | cons native natives induction => rw [reportCursors, induction, List.map_cons]

theorem reported_of_option {native : Option NativeType} {source : CType}
    (given : reportOption native = some source) : Reported source := by
  cases native with
  | none => contradiction
  | some native => exact ⟨native, (Option.some.inj given).symm⟩

theorem reported_of_valid {native : Option NativeType} {source : CType}
    (given : reportValid native = some source) : Reported source := by
  cases native with
  | none => contradiction
  | some native =>
      rw [reportValid] at given
      split at given
      · contradiction
      · exact ⟨native, (Option.some.inj given).symm⟩

theorem reported_size {source : CType} (reported : Reported source) {size : Int}
    (given : source.size = some size) : 0 ≤ size := by
  obtain ⟨native, rfl⟩ := reported
  cases native
  exact nonnegative_of_some given

theorem reported_offset {source : CType} (reported : Reported source) {field : String}
    {bits : Int} (given : source.offset? field = some bits) : 0 ≤ bits := by
  obtain ⟨native, rfl⟩ := reported
  cases native
  rw [CType.offset?, NativeType.report] at given
  obtain ⟨front, back, listed, _⟩ := List.lookup_eq_some_iff.mp given
  have member : (field, bits) ∈ front ++ (field, bits) :: back := by simp
  rw [← listed] at member
  exact of_decide_eq_true (List.mem_filter.mp member).2

theorem reported_canonical {source : CType} (reported : Reported source) :
    Reported (canonical source) := by
  cases own : source.canonical with
  | none =>
      rw [canonical, own, Option.getD_none]
      exact reported
  | some target =>
      obtain ⟨native, rfl⟩ := reported
      rw [canonical, own, Option.getD_some]
      cases native
      exact reported_of_option own

theorem reported_part {source part : CType} (reported : Reported source)
    (made : SignaturePart source part) : Reported part := by
  obtain ⟨native, rfl⟩ := reported
  cases native with
  | mk kind spelling size own element pointee result arguments convention fields offsets found =>
      cases made with
      | result _ given => exact reported_of_valid given
      | argument listed _ given member =>
          rw [NativeType.report] at given
          dsimp only at given
          split at given
          · rw [← Option.some.inj given, report_types_eq] at member
            obtain ⟨native, _, same⟩ := List.mem_map.mp member
            exact ⟨native, same.symm⟩
          · contradiction

theorem reported_lead {source part : CType} (reported : Reported source)
    (leads : Leads source part) : Reported part := by
  unfold Leads at leads
  split at leads
  · obtain ⟨native, rfl⟩ := reported
    cases native
    exact reported_of_option leads
  · obtain ⟨native, rfl⟩ := reported
    cases native
    exact reported_of_valid leads
  · obtain ⟨pointee, given, rfl⟩ := leads
    apply reported_canonical
    obtain ⟨native, rfl⟩ := reported
    cases native
    exact reported_of_valid given
  · exact reported_part reported leads
  · contradiction

theorem reported_member {source : CType} (reported : Reported source) {members : List Declaration}
    (given : source.fields = some members) {member : Declaration} (inside : member ∈ members) :
    ReportedDeclaration member := by
  obtain ⟨native, rfl⟩ := reported
  cases native
  rw [NativeType.report] at given
  dsimp only at given
  split at given
  · rw [← Option.some.inj given, report_cursors_eq] at inside
    obtain ⟨native, _, same⟩ := List.mem_map.mp inside
    exact ⟨native, same.symm⟩
  · contradiction

theorem reported_declared_type {declaration : Declaration}
    (reported : ReportedDeclaration declaration) {source : CType}
    (typed : declaration.type = some source) : Reported source := by
  obtain ⟨native, rfl⟩ := reported
  cases native
  exact reported_of_valid typed

theorem signature_proper_of_parts {source : CType} {signature : FunctionSignature}
    (translated : Meaning.signature source = .ok signature)
    (parts : ∀ part, SignaturePart source part → ∀ value, type part = .ok value → value.Proper) :
    signature.Proper := by
  obtain ⟨result, arguments, returned, returnType, given, each⟩ := signature_ok translated
  rw [signature_proper_iff]
  constructor
  · exact parts result (.result result returned) _ returnType
  · intro parameter member
    obtain ⟨argument, inside, further⟩ := each_value each member
    exact parts argument (.argument arguments argument given inside) parameter further

theorem type_proper {source : CType} {value : DebugType} (reported : Reported source)
    (translated : type source = .ok value) : value.Proper := by
  revert reported
  apply translation_induction (motive := fun source value => Reported source → value.Proper) _
    translated
  intro source value formed induction reported
  have further : ∀ part inner, Leads source part → type part = .ok inner → inner.Proper := by
    intro part inner leads translated
    exact induction part inner leads translated (reported_lead reported leads)
  cases formed with
  | primitive kind role => trivial
  | synonym target value role given translated =>
      exact further target value (leads_canonical role given) translated
  | array element inner size role given sized translated =>
      have inside := further element inner (leads_element role given) translated
      exact ⟨inside, reported_size reported sized⟩
  | function signature role built =>
      apply signature_proper_of_parts built
      intro part made value translated
      exact further part value (leads_part role made) translated
  | pointer pointee target role given translated =>
      exact further (canonical pointee) target (leads_pointee role given) translated
  | record name role named =>
      obtain ⟨declaration, _, known⟩ := Option.bind_eq_some_iff.mp named
      exact named_nonempty known

theorem signature_proper {source : CType} {signature : FunctionSignature}
    (reported : Reported source) (translated : Meaning.signature source = .ok signature) :
    signature.Proper := by
  apply signature_proper_of_parts translated
  intro part made value further
  exact type_proper (reported_part reported made) further

theorem prototype_proper {declaration : Declaration} {prototype : Prototype}
    (reported : ReportedDeclaration declaration)
    (accepted : Prototype.ofDeclaration declaration = .ok prototype) : prototype.Proper := by
  have declares := Prototype.of_declaration_ok_iff.mp accepted
  obtain ⟨source, typed, translated⟩ := declares.typed
  constructor
  · exact named_nonempty declares.named
  · exact signature_proper (reported_declared_type reported typed) translated

theorem member_proper {structType : CType} {declaration : Declaration} {field : StructMember}
    (reportedStruct : Reported structType) (reported : ReportedDeclaration declaration)
    (declares : StructMember.Declares structType declaration field) : field.Proper := by
  obtain ⟨source, typed, translated⟩ := declares.typed
  have positive := reported_offset reportedStruct declares.placed
  constructor
  · exact named_nonempty declares.named
  · exact type_proper (reported_declared_type reported typed) translated
  · omega

theorem layout_proper {declaration : Declaration} {layout : StructLayout}
    (reported : ReportedDeclaration declaration)
    (accepted : StructLayout.ofDeclaration declaration = .ok layout) : layout.Proper := by
  have defines := StructLayout.of_declaration_ok_iff.mp accepted
  obtain ⟨structType, members, typed, given, sized, each⟩ := defines.typed
  have reportedStruct := reported_declared_type reported typed
  constructor
  · exact named_nonempty defines.named
  · exact reported_size reportedStruct sized
  · intro field inside
    obtain ⟨member, listed, declares⟩ := each_value each inside
    exact member_proper reportedStruct (reported_member reportedStruct given listed) declares

/-- Whatever nodes the front end hands out, what becomes of them has no negative size or offset and no
empty name, at any depth. -/
theorem reports_translate_properly (native : NativeType) (cursor : NativeCursor) :
    (∀ value, Meaning.type native.report = .ok value → value.Proper) ∧
      (∀ signature, Meaning.signature native.report = .ok signature → signature.Proper) ∧
      (∀ prototype, Prototype.ofDeclaration cursor.report = .ok prototype → prototype.Proper) ∧
      (∀ layout, StructLayout.ofDeclaration cursor.report = .ok layout → layout.Proper) := by
  have reported : Reported native.report := ⟨native, rfl⟩
  have declared : ReportedDeclaration cursor.report := ⟨cursor, rfl⟩
  refine ⟨?_, ?_, ?_, ?_⟩
  · intro value translated
    exact type_proper reported translated
  · intro signature translated
    exact signature_proper reported translated
  · intro prototype accepted
    exact prototype_proper declared accepted
  · intro layout accepted
    exact layout_proper declared accepted

def nowhere : Location := ⟨none, 0, 0⟩

/-- A node without anything but its kind and its size. -/
def bareNode (kind : String) (size : Int) : NativeType :=
  ⟨kind, "", size, none, none, none, none, [], -1, [], [], none⟩

def bareCursor (kind name : String) (type : NativeType) : NativeCursor :=
  ⟨kind, name, name, some type, nowhere, false, true⟩

def nodeReference : NativeType :=
  { bareNode "RECORD" (-2) with
    declaration := some (bareCursor "STRUCT_DECL" "Node" (bareNode "INVALID" (-1))) }

def nodePointer : NativeType := { bareNode "POINTER" 8 with pointee := some nodeReference }

def callbackNode : NativeType :=
  { bareNode "FUNCTIONPROTO" (-1) with
    result := some (bareNode "VOID" (-1)), arguments := [nodePointer], convention := 1 }

def callbackCursor : NativeCursor := bareCursor "FUNCTION_DECL" "visit" callbackNode

def nodeCursor : NativeCursor :=
  bareCursor "STRUCT_DECL" "Node"
    { bareNode "RECORD" 16 with
      fields := [bareCursor "FIELD_DECL" "next" nodePointer,
        bareCursor "FIELD_DECL" "data"
          { bareNode "CONSTANTARRAY" 8 with element := some (bareNode "CHAR_S" 1) }]
      offsets := [("gone", -1), ("next", 0), ("data", 64)] }

def callbackSignature : FunctionSignature :=
  ⟨.primitive .void, [.pointer (.struct "Node")], .nearC⟩

def nodeLayout : StructLayout :=
  ⟨"Node", [⟨"next", .pointer (.struct "Node"), 0⟩, ⟨"data", .array (.primitive .signedChar) 8, 8⟩],
    16⟩

theorem marked_nodes_translate_properly :
    (Meaning.type callbackNode.report = .ok (.function callbackSignature) ∧
        (DebugType.function callbackSignature).Proper) ∧
      (Meaning.signature callbackNode.report = .ok callbackSignature ∧ callbackSignature.Proper) ∧
      (Prototype.ofDeclaration callbackCursor.report = .ok ⟨"visit", callbackSignature⟩ ∧
        Prototype.Proper ⟨"visit", callbackSignature⟩) ∧
      (StructLayout.ofDeclaration nodeCursor.report = .ok nodeLayout ∧ nodeLayout.Proper) := by
  have callback := reports_translate_properly callbackNode callbackCursor
  have node := reports_translate_properly callbackNode nodeCursor
  obtain ⟨type, signature, prototype⟩ :
      Meaning.type callbackNode.report = .ok (.function callbackSignature) ∧
        Meaning.signature callbackNode.report = .ok callbackSignature ∧
        Prototype.ofDeclaration callbackCursor.report = .ok ⟨"visit", callbackSignature⟩ :=
    ⟨rfl, rfl, rfl⟩
  have layout : StructLayout.ofDeclaration nodeCursor.report = .ok nodeLayout := rfl
  refine ⟨⟨type, ?_⟩, ⟨signature, ?_⟩, ⟨prototype, ?_⟩, ⟨layout, ?_⟩⟩
  · exact callback.1 _ type
  · exact callback.2.1 _ signature
  · exact callback.2.2.1 _ prototype
  · exact node.2.2.2 _ layout

end Source

end DebugRecovery
