import DebugRecovery.Text.Numeral

/-!
Kinds of segments and sections. The numbers that the format leaves to processors
have names of their own on each machine; a number without a name is shown as it
is. The kind of a section tells what its contents have to be.
-/

set_option autoImplicit false

namespace DebugRecovery.Linkable

def segmentLoad : Nat := 1
def segmentDynamic : Nat := 2

def kindNull : Nat := 0
def kindSymbols : Nat := 2
def kindStrings : Nat := 3
def kindDynamic : Nat := 6
def kindNoBits : Nat := 8
def kindDynamicSymbols : Nat := 11

/-- The machines on which kinds of sections have names of their own. -/
inductive Machine where
  | mips
  | arm
  | x64
  | arm64
  | riscv
  | other
  deriving DecidableEq, Repr

namespace Machine

def ofCode : Nat → Machine
  | 8 => .mips
  | 40 => .arm
  | 62 => .x64
  | 183 => .arm64
  | 243 => .riscv
  | _ => .other

/-- The names of the kinds from 0x70000000 on. -/
def kindNames : Machine → List (Nat × String)
  | .x64 => [(0x70000001, "AMD64_UNWIND")]
  | .arm64 => [(0x70000003, "AARCH64_ATTRIBUTES")]
  | .riscv => [(0x70000003, "RISCV_ATTRIBUTES")]
  | .arm =>
      [(0x70000001, "ARM_EXIDX"), (0x70000002, "ARM_PREEMPTMAP"), (0x70000003, "ARM_ATTRIBUTES"),
        (0x70000004, "ARM_DEBUGOVERLAY")]
  | .mips =>
      [(0x70000000, "MIPS_LIBLIST"), (0x70000001, "MIPS_MSYM"), (0x70000002, "MIPS_CONFLICT"),
        (0x70000003, "MIPS_GPTAB"), (0x70000004, "MIPS_UCODE"), (0x70000005, "MIPS_DEBUG"),
        (0x70000006, "MIPS_REGINFO"), (0x70000007, "MIPS_PACKAGE"), (0x70000008, "MIPS_PACKSYM"),
        (0x70000009, "MIPS_RELD"), (0x7000000B, "MIPS_IFACE"), (0x7000000C, "MIPS_CONTENT"),
        (0x7000000D, "MIPS_OPTIONS"), (0x70000010, "MIPS_SHDR"), (0x70000011, "MIPS_FDESC"),
        (0x70000012, "MIPS_EXTSYM"), (0x70000013, "MIPS_DENSE"), (0x70000014, "MIPS_PDESC"),
        (0x70000015, "MIPS_LOCSYM"), (0x70000016, "MIPS_AUXSYM"), (0x70000017, "MIPS_OPTSYM"),
        (0x70000018, "MIPS_LOCSTR"), (0x70000019, "MIPS_LINE"), (0x7000001A, "MIPS_RFDESC"),
        (0x7000001B, "MIPS_DELTASYM"), (0x7000001C, "MIPS_DELTAINST"),
        (0x7000001D, "MIPS_DELTACLASS"), (0x7000001E, "MIPS_DWARF"),
        (0x7000001F, "MIPS_DELTADECL"), (0x70000020, "MIPS_SYMBOL_LIB"),
        (0x70000021, "MIPS_EVENTS"), (0x70000022, "MIPS_TRANSLATE"), (0x70000023, "MIPS_PIXIE"),
        (0x70000024, "MIPS_XLATE"), (0x70000025, "MIPS_XLATE_DEBUG"), (0x70000026, "MIPS_WHIRL"),
        (0x70000027, "MIPS_EH_REGION"), (0x70000028, "MIPS_XLATE_OLD"),
        (0x70000029, "MIPS_PDR_EXCEPTION"), (0x7000002A, "MIPS_ABIFLAGS")]
  | .other => []

end Machine

/-- The names of the kinds that are the same on all machines. -/
def commonKindNames : List (Nat × String) :=
  [(0, "NULL"), (1, "PROGBITS"), (2, "SYMTAB"), (3, "STRTAB"), (4, "RELA"), (5, "HASH"),
    (6, "DYNAMIC"), (7, "NOTE"), (8, "NOBITS"), (9, "REL"), (10, "SHLIB"), (11, "DYNSYM"),
    (14, "INIT_ARRAY"), (15, "FINI_ARRAY"), (16, "PREINIT_ARRAY"), (17, "GROUP"),
    (18, "SYMTAB_SHNDX"), (19, "RELR"), (20, "NUM"), (0x60000000, "LOOS"),
    (0x6FFFFFF3, "SUNW_LDYNSYM"), (0x6FFFFFF5, "GNU_ATTRIBUTES"), (0x6FFFFFF6, "GNU_HASH"),
    (0x6FFFFFF7, "GNU_LIBLIST"), (0x6FFFFFFC, "SUNW_syminfo"), (0x6FFFFFFD, "GNU_verdef"),
    (0x6FFFFFFE, "GNU_verneed"), (0x6FFFFFFF, "GNU_versym"), (0x80000000, "LOUSER"),
    (0xFFFFFFFF, "HIUSER")]

def Machine.kindLabel (machine : Machine) (kind : Nat) : String :=
  match (commonKindNames ++ machine.kindNames).lookup kind with
  | some name => "SHT_" ++ name
  | none => Text.decimal kind

/-- What a section has to contain or to link to. -/
inductive Content where
  | free
  | symbols
  | symbolNotes
  | stringNotes
  | relocations (entryLength : Nat)
  | packedRelocations
  | dynamic
  | attributes
  | hash
  | filteredHash
  deriving DecidableEq, Repr

/-- The contents that kinds ask for on all machines, given the width of an address. A relocation
holds two addresses, and a third one for its addend. -/
def commonContents (word : Nat) : List (Nat × Content) :=
  [(2, .symbols), (4, .relocations (3 * word)), (5, .hash), (6, .dynamic),
    (9, .relocations (2 * word)), (11, .symbols), (19, .packedRelocations), (0x6FFFFFF3, .symbols),
    (0x6FFFFFF6, .filteredHash), (0x6FFFFFFC, .symbolNotes), (0x6FFFFFFD, .stringNotes),
    (0x6FFFFFFE, .stringNotes), (0x6FFFFFFF, .symbolNotes)]

def attributesKind : Nat := 0x70000003

def Machine.content (machine : Machine) (word kind : Nat) : Content :=
  if kind == attributesKind && (machine == .arm || machine == .riscv) then .attributes
  else ((commonContents word).lookup kind).getD .free

end DebugRecovery.Linkable
