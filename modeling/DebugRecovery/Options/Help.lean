import DebugRecovery.Options.Flag

/-!
The texts about the use of the command line. A console line has 78 columns; a
usage that does not fit goes on under its first flag.
-/

set_option autoImplicit false

namespace DebugRecovery.Options

def usageFlags : String := "[-h] [-c CONFIG] [-o OUTPUT] [-d OPTION] [-v]"

def usageOperands : String := "BINARY SOURCE"

def lineWidth : Nat := 78

def usage (program : String) : String :=
  let opening := "usage: " ++ program ++ " "
  let line := opening ++ usageFlags ++ " " ++ usageOperands
  if line.length ≤ lineWidth then line ++ "\n"
  else
    opening ++ usageFlags ++ "\n" ++ String.ofList (List.replicate opening.length ' ') ++
      usageOperands ++ "\n"

def misuseText (program : String) (misuse : Misuse) : String :=
  usage program ++ program ++ ": error: " ++ misuse.message ++ "\n"

def purpose : String :=
  "Reconstruct debug info for a stripped binary from a C " ++
    "source file and a table of byte signatures"

def operandHelp : List String :=
  ["positional arguments:",
    "  BINARY                Input binary (PE or ELF)",
    "  SOURCE                Input C source file"]

def flagHelp : List String :=
  ["options:",
    "  -h, --help            show this help message and exit",
    "  -c CONFIG, --config CONFIG",
    "                        Symbol signature table (JSON)",
    "  -o OUTPUT, --output OUTPUT",
    "                        Output file (default: <BINARY>.debuginfo.json)",
    "  -d OPTION, --coptions OPTION",
    "                        Option passed to libclang, e.g. -d -Iinclude or",
    "                        -d=-DWIN32 (repeatable)",
    "  -v, --verbose         Enable verbose output with debug logs"]

/-- The last line holds blanks alone. -/
def examples : List String :=
  ["Examples:",
    "  # Structs and prototypes only (no signature table)",
    "  python main.py game.exe game.c",
    "",
    "  # Locate functions and globals with a signature table",
    "  python main.py game.exe game.c -c signatures.json",
    "",
    "  # Custom output path and include directories for libclang",
    "  python main.py game.exe game.c -c signatures.json -o out/game.json -d -Iinclude -d -DWIN32",
    "",
    "  # Using .env file for configuration",
    "  echo 'SYMBOL_CONFIG_PATH=signatures.json' > .env",
    "  python main.py game.exe game.c --verbose",
    "        "]

/-- What a request for help prints. -/
def help (program : String) : String :=
  usage program ++ "\n" ++
    "\n".intercalate ([purpose, ""] ++ operandHelp ++ [""] ++ flagHelp ++ [""] ++ examples) ++ "\n"

end DebugRecovery.Options
