/-!
The journal of a run: entries in the order in which they arise, each with a
level, the channel it is filed under and its text.
-/

set_option autoImplicit false

namespace DebugRecovery

inductive Level where
  | debug
  | info
  | warning
  | error
  | critical
  deriving DecidableEq, Repr

def Level.rank : Level → Nat
  | .debug => 10
  | .info => 20
  | .warning => 30
  | .error => 40
  | .critical => 50

def Level.label : Level → String
  | .debug => "DEBUG"
  | .info => "INFO"
  | .warning => "WARNING"
  | .error => "ERROR"
  | .critical => "CRITICAL"

structure Entry where
  level : Level
  channel : String
  text : String
  deriving DecidableEq, Repr

abbrev Journal := List Entry

/-- The short form of an entry, as a console shows it. -/
def Entry.line (entry : Entry) : String := s!"{entry.level.label}: {entry.text}"

def Journal.atLeast (journal : Journal) (level : Level) : Journal :=
  journal.filter fun entry => level.rank ≤ entry.level.rank

namespace Channel

def commandLine : String := "sigsym_reconstructor.main"
def run : String := "sigsym_reconstructor.application.reconstructor"
def signature : String := "sigsym_reconstructor.domain.services.matching.pattern_compiler"
def resolution : String := "sigsym_reconstructor.domain.services.matching.signature_resolver"
def location : String := "sigsym_reconstructor.domain.services.mapping.symbol_finder"
def types : String := "sigsym_reconstructor.domain.services.translation.type_translator"
def functions : String := "sigsym_reconstructor.domain.services.translation.function_builder"
def structs : String := "sigsym_reconstructor.domain.services.translation.struct_builder"
def image : String := "sigsym_reconstructor.infrastructure.binary_image"
def source : String := "sigsym_reconstructor.infrastructure.clang_frontend"
def symbols : String := "sigsym_reconstructor.infrastructure.config.symbol_config"
def document : String := "sigsym_reconstructor.infrastructure.debug_info_writer"
def logging : String := "sigsym_reconstructor.infrastructure.logging.logger_setup"
def environment : String := "dotenv.main"

end Channel

end DebugRecovery
