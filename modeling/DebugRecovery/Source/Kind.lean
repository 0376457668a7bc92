import DebugRecovery.DebugType
import DebugRecovery.Text.Capital

/-!
The kinds of C types, declarations, calling conventions and diagnostics that a
front end reports, and what each means for debug information.
-/

set_option autoImplicit false

namespace DebugRecovery.Source

/-- Kinds of types; `other` is any kind that no debug type stands for. -/
inductive TypeKind where
  | void
  | bool
  | charU
  | uchar
  | char16
  | char32
  | ushort
  | uint
  | ulong
  | ulonglong
  | uint128
  | charS
  | schar
  | wchar
  | short
  | int
  | long
  | longlong
  | int128
  | half
  | float16
  | float
  | double
  | longdouble
  | float128
  | typedef
  | elaborated
  | constantArray
  | functionProto
  | pointer
  | record
  | other
  deriving DecidableEq, Repr

namespace TypeKind

def all : List TypeKind :=
  [.void, .bool, .charU, .uchar, .char16, .char32, .ushort, .uint, .ulong, .ulonglong, .uint128,
    .charS, .schar, .wchar, .short, .int, .long, .longlong, .int128, .half, .float16, .float,
    .double, .longdouble, .float128, .typedef, .elaborated, .constantArray, .functionProto,
    .pointer, .record, .other]

def label : TypeKind → String
  | .void => "VOID"
  | .bool => "BOOL"
  | .charU => "CHAR_U"
  | .uchar => "UCHAR"
  | .char16 => "CHAR16"
  | .char32 => "CHAR32"
  | .ushort => "USHORT"
  | .uint => "UINT"
  | .ulong => "ULONG"
  | .ulonglong => "ULONGLONG"
  | .uint128 => "UINT128"
  | .charS => "CHAR_S"
  | .schar => "SCHAR"
  | .wchar => "WCHAR"
  | .short => "SHORT"
  | .int => "INT"
  | .long => "LONG"
  | .longlong => "LONGLONG"
  | .int128 => "INT128"
  | .half => "HALF"
  | .float16 => "FLOAT16"
  | .float => "FLOAT"
  | .double => "DOUBLE"
  | .longdouble => "LONGDOUBLE"
  | .float128 => "FLOAT128"
  | .typedef => "TYPEDEF"
  | .elaborated => "ELABORATED"
  | .constantArray => "CONSTANTARRAY"
  | .functionProto => "FUNCTIONPROTO"
  | .pointer => "POINTER"
  | .record => "RECORD"
  | .other => "OTHER"

/-- The kind of a name in any case; every unknown name is of the kind `other`. -/
def ofName (name : String) : TypeKind :=
  let wanted := Text.capitalized name
  (all.find? fun kind => kind.label == wanted).getD .other

/-- The primitive that a type of this kind becomes. -/
def primitive? : TypeKind → Option Primitive
  | .void => some .void
  | .bool => some .bool8
  | .charS => some .signedChar
  | .charU => some .unsignedChar
  | .schar => some .signedChar
  | .uchar => some .unsignedChar
  | .wchar => some .wideChar
  | .char16 => some .char16
  | .char32 => some .char32
  | .short => some .short
  | .ushort => some .unsignedShort
  | .int => some .int32
  | .uint => some .uint32
  | .long => some .long
  | .ulong => some .unsignedLong
  | .longlong => some .int64
  | .ulonglong => some .uint64
  | .int128 => some .int128
  | .uint128 => some .uint128
  | .half => some .float16
  | .float16 => some .float16
  | .float => some .float32
  | .double => some .float64
  | .longdouble => some .float80
  | .float128 => some .float128
  | _ => none

/-- What a type of this kind becomes. -/
inductive Role where
  | primitive (kind : Primitive)
  | synonym
  | array
  | function
  | pointer
  | record
  | unknown
  deriving DecidableEq, Repr

def role (kind : TypeKind) : Role :=
  match kind with
  | .typedef => .synonym
  | .elaborated => .synonym
  | .constantArray => .array
  | .functionProto => .function
  | .pointer => .pointer
  | .record => .record
  | _ =>
      match kind.primitive? with
      | some primitive => .primitive primitive
      | none => .unknown

end TypeKind

inductive DeclarationKind where
  | function
  | struct
  | variable
  | other
  deriving DecidableEq, Repr

/-- Calling conventions with the numbers that front ends give them. -/
inductive Convention where
  | default
  | c
  | x86Stdcall
  | x86Fastcall
  | x86Thiscall
  | x86Pascal
  | aapcs
  | aapcsVfp
  | x86Regcall
  | intelOclBicc
  | win64
  | x86_64SysV
  | x86Vectorcall
  | swift
  | preserveMost
  | preserveAll
  | aarch64Vectorcall
  | swiftAsync
  | aarch64SvePcs
  | m68kRtd
  | invalid
  | unexposed
  deriving DecidableEq, Repr

namespace Convention

def all : List Convention :=
  [.default, .c, .x86Stdcall, .x86Fastcall, .x86Thiscall, .x86Pascal, .aapcs, .aapcsVfp,
    .x86Regcall, .intelOclBicc, .win64, .x86_64SysV, .x86Vectorcall, .swift, .preserveMost,
    .preserveAll, .aarch64Vectorcall, .swiftAsync, .aarch64SvePcs, .m68kRtd, .invalid, .unexposed]

def number : Convention → Int
  | .default => 0
  | .c => 1
  | .x86Stdcall => 2
  | .x86Fastcall => 3
  | .x86Thiscall => 4
  | .x86Pascal => 5
  | .aapcs => 6
  | .aapcsVfp => 7
  | .x86Regcall => 8
  | .intelOclBicc => 9
  | .win64 => 10
  | .x86_64SysV => 11
  | .x86Vectorcall => 12
  | .swift => 13
  | .preserveMost => 14
  | .preserveAll => 15
  | .aarch64Vectorcall => 16
  | .swiftAsync => 17
  | .aarch64SvePcs => 18
  | .m68kRtd => 19
  | .invalid => 100
  | .unexposed => 200

def label : Convention → String
  | .default => "DEFAULT"
  | .c => "C"
  | .x86Stdcall => "X86_STDCALL"
  | .x86Fastcall => "X86_FASTCALL"
  | .x86Thiscall => "X86_THISCALL"
  | .x86Pascal => "X86_PASCAL"
  | .aapcs => "AAPCS"
  | .aapcsVfp => "AAPCS_VFP"
  | .x86Regcall => "X86_REGCALL"
  | .intelOclBicc => "INTEL_OCL_BICC"
  | .win64 => "WIN64"
  | .x86_64SysV => "X86_64_SYSV"
  | .x86Vectorcall => "X86_VECTORCALL"
  | .swift => "SWIFT"
  | .preserveMost => "PRESERVE_MOST"
  | .preserveAll => "PRESERVE_ALL"
  | .aarch64Vectorcall => "AARCH64_VECTORCALL"
  | .swiftAsync => "SWIFT_ASYNC"
  | .aarch64SvePcs => "AARCH64_SVEPCS"
  | .m68kRtd => "M68K_RTD"
  | .invalid => "INVALID"
  | .unexposed => "UNEXPOSED"

def ofNumber? (number : Int) : Option Convention :=
  all.find? fun convention => convention.number == number

/-- The recorded convention; both 64-bit defaults are recorded as fast calls. -/
def recorded? : Convention → Option CallingConvention
  | .c => some .nearC
  | .x86Fastcall => some .nearFast
  | .x86Stdcall => some .nearStdcall
  | .x86Thiscall => some .thiscall
  | .win64 => some .nearFast
  | .x86_64SysV => some .nearFast
  | _ => none

end Convention

/-- Severities of diagnostics in ascending order. -/
inductive Severity where
  | ignored
  | note
  | warning
  | error
  | fatal
  deriving DecidableEq, Repr

def Severity.rank : Severity → Nat
  | .ignored => 0
  | .note => 1
  | .warning => 2
  | .error => 3
  | .fatal => 4

def Severity.ofRank? (rank : Int) : Option Severity :=
  [Severity.ignored, .note, .warning, .error, .fatal].find? fun severity => severity.rank == rank

end DebugRecovery.Source
