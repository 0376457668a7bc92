import DebugRecovery.Json.Value

/-!
The types of debug information. A type is a primitive, a pointer, an array with
its size in bytes, a function, or a struct known by its name alone, so that no
type contains itself. Each form has its own JSON object.
-/

set_option autoImplicit false

namespace DebugRecovery

inductive Primitive where
  | void
  | bool8
  | signedChar
  | unsignedChar
  | wideChar
  | char16
  | char32
  | short
  | unsignedShort
  | int32
  | uint32
  | long
  | unsignedLong
  | int64
  | uint64
  | int128
  | uint128
  | float16
  | float32
  | float64
  | float80
  | float128
  deriving DecidableEq, Repr

def Primitive.key : Primitive → String
  | .void => "void"
  | .bool8 => "bool8"
  | .signedChar => "signed_char"
  | .unsignedChar => "unsigned_char"
  | .wideChar => "wchar"
  | .char16 => "char16"
  | .char32 => "char32"
  | .short => "short"
  | .unsignedShort => "unsigned_short"
  | .int32 => "int32"
  | .uint32 => "uint32"
  | .long => "long"
  | .unsignedLong => "unsigned_long"
  | .int64 => "int64"
  | .uint64 => "uint64"
  | .int128 => "int128"
  | .uint128 => "uint128"
  | .float16 => "float16"
  | .float32 => "float32"
  | .float64 => "float64"
  | .float80 => "float80"
  | .float128 => "float128"

inductive CallingConvention where
  | nearC
  | nearFast
  | nearStdcall
  | thiscall
  deriving DecidableEq, Repr

def CallingConvention.key : CallingConvention → String
  | .nearC => "near_c"
  | .nearFast => "near_fast"
  | .nearStdcall => "near_stdcall"
  | .thiscall => "thiscall"

mutual

inductive DebugType where
  | primitive (kind : Primitive)
  | pointer (target : DebugType)
  | array (element : DebugType) (size : Int)
  | struct (name : String)
  | function (signature : FunctionSignature)

structure FunctionSignature where
  returnType : DebugType
  parameters : List DebugType
  convention : CallingConvention

end

structure Prototype where
  name : String
  signature : FunctionSignature

/-- A member of a struct, `offset` bytes from its start. -/
structure StructMember where
  name : String
  type : DebugType
  offset : Int

structure StructLayout where
  name : String
  fields : List StructMember
  size : Int

mutual

def DebugType.toJson : DebugType → Json
  | .primitive kind => .object [("kind", .string "primitive"), ("primitive", .string kind.key)]
  | .pointer target => .object [("kind", .string "pointer"), ("target", target.toJson)]
  | .array element size =>
      .object [("kind", .string "array"), ("element", element.toJson), ("size", .integer size)]
  | .struct name => .object [("kind", .string "struct"), ("name", .string name)]
  | .function signature =>
      .object [("kind", .string "function"), ("signature", signature.toJson)]

def FunctionSignature.toJson : FunctionSignature → Json
  | ⟨returnType, parameters, convention⟩ =>
      .object [("return_type", returnType.toJson), ("parameters", .array (typesToJson parameters)),
        ("calling_convention", .string convention.key)]

def typesToJson : List DebugType → List Json
  | [] => []
  | type :: types => type.toJson :: typesToJson types

end

def StructMember.toJson (field : StructMember) : Json :=
  .object [("name", .string field.name), ("type", field.type.toJson),
    ("offset", .integer field.offset)]

def StructLayout.toJson (layout : StructLayout) : Json :=
  .object [("name", .string layout.name), ("size", .integer layout.size),
    ("fields", .array (layout.fields.map StructMember.toJson))]

end DebugRecovery
