import DebugRecovery.Options
import DebugRecovery.Proofs.Each

/-!
# Compiler options among the operands

On a line of operands and compiler options every option stands behind a flag of
its own, which takes it whatever it looks like: as a flag, as a value that is
glued to one, as the separator, or as nothing. Wherever the options stand, the
line is read as its operands and its options, both in their order. Only an
option that is the separator alone is lost: it comes out vacant.
-/

set_option autoImplicit false

namespace DebugRecovery.Options

/-- A text that no dash opens. -/
def IsOperand (text : String) : Prop := text.toList.head? ≠ some '-'

/-- One of the two forms of the flag for a compiler option. -/
def IsCoptionFlag (token : String) : Prop := token = "-d" ∨ token = "--coptions"

instance (text : String) : Decidable (IsOperand text) := inferInstanceAs (Decidable (_ ≠ _))

instance (token : String) : Decidable (IsCoptionFlag token) := inferInstanceAs (Decidable (_ ∨ _))

/-- A line of operands and of pairs of a flag and a compiler option, whatever the option is. -/
inductive Mixed : List String → List String → List String → Prop where
  | done : Mixed [] [] []
  | operand {text : String} {line operands values : List String} (plain : IsOperand text)
      (mixed : Mixed line operands values) : Mixed (text :: line) (text :: operands) values
  | coption {flag value : String} {line operands values : List String}
      (flagged : IsCoptionFlag flag) (mixed : Mixed line operands values) :
      Mixed (flag :: value :: line) operands (value :: values)

/-- The arguments that such a line consists of. -/
inductive Said : List Argument → List String → List String → Prop where
  | done : Said [] [] []
  | operand {text : String} {arguments : List Argument} {operands values : List String}
      (plain : IsOperand text) (said : Said arguments operands values) :
      Said (.plain text :: arguments) (text :: operands) values
  | coption {value : String} {arguments : List Argument} {operands values : List String}
      (said : Said arguments operands values) :
      Said (.flagged .long (.parameter .coption) (some value.toList) :: arguments) operands
        (value :: values)

variable {text token value : String} {line operands values rest : List String}
  {arguments others : List Argument}

theorem is_coption_iff (token : String) : isCoption token = true ↔ IsCoptionFlag token := by
  simp only [isCoption, Bool.or_eq_true, beq_iff_eq]
  rfl

theorem operand_not_separator (plain : IsOperand text) : text ≠ separatorText := by
  rintro rfl
  exact plain rfl

theorem operand_not_flag (plain : IsOperand text) : isCoption text = false := by
  apply Bool.eq_false_iff.mpr
  intro flag
  rcases (is_coption_iff text).mp flag with rfl | rfl
  · exact plain rfl
  · exact plain rfl

theorem coption_flag_taken (flagged : IsCoptionFlag token) :
    isCoption token = true ∧ token ≠ separatorText := by
  rcases flagged with rfl | rfl
  · decide
  · decide

theorem attached_characters (value : String) :
    (attached value).toList = "--coptions".toList ++ '=' :: value.toList := by
  simp [attached, Flag.long]

theorem attached_not_separator (value : String) : attached value ≠ separatorText := by
  intro same
  have characters := congrArg String.toList same
  rw [attached_characters] at characters
  exact absurd (congrArg List.length characters) (by simp [separatorText])

theorem of_text_operand (plain : IsOperand text) : Argument.ofText text = .ok (.plain text) := by
  unfold IsOperand at plain
  unfold Argument.ofText
  split
  · rename_i opened
    rw [opened] at plain
    contradiction
  · rename_i opened
    rw [opened] at plain
    contradiction
  · rfl

theorem of_text_attached (value : String) :
    Argument.ofText (attached value) =
      .ok (.flagged .long (.parameter .coption) (some value.toList)) := by
  have cut : Argument.cutAtEquals ("--coptions".toList ++ '=' :: value.toList) =
      ("--coptions".toList, some value.toList) := rfl
  have form : Flag.ofLong? (String.ofList "--coptions".toList) = some (.parameter .coption) := by
    rw [String.ofList_toList]
    exact Flag.of_long_long (.parameter .coption)
  rw [Argument.ofText, attached_characters]
  change Argument.ofLong (attached value) ("--coptions".toList ++ '=' :: value.toList) = _
  rw [Argument.ofLong, cut]
  simp only [form]

theorem of_texts_cons {argument : Argument} (ordinary : text ≠ separatorText)
    (first : Argument.ofText text = .ok argument) (further : Argument.ofTexts rest = .ok arguments) :
    Argument.ofTexts (text :: rest) = .ok (argument :: arguments) := by
  rw [Argument.ofTexts, if_neg ordinary, first, further]
  rfl

theorem said_of_mixed (mixed : Mixed line operands values) :
    ∃ arguments, Argument.ofTexts (attach line) = .ok arguments ∧
      Said arguments operands values := by
  induction mixed with
  | done => exact ⟨[], rfl, .done⟩
  | @operand text line operands values plain _ induction =>
      obtain ⟨arguments, read, said⟩ := induction
      refine ⟨_, ?_, .operand plain said⟩
      rw [attach_other text line (operand_not_flag plain) (operand_not_separator plain)]
      exact of_texts_cons (operand_not_separator plain) (of_text_operand plain) read
  | @coption flag value line operands values flagged _ induction =>
      obtain ⟨arguments, read, said⟩ := induction
      obtain ⟨taken, ordinary⟩ := coption_flag_taken flagged
      refine ⟨_, ?_, .coption said⟩
      rw [attach_flag flag value line taken ordinary]
      exact of_texts_cons (attached_not_separator value) (of_text_attached value) read

def filledPath (text : String) : Slot Path := .filled (.ofText text)

/-- A compiler option as it is read: the separator is none. -/
def coptionSlot (value : String) : Slot String := .ofText id value

theorem operand_slot (previous : Previous) (plain : IsOperand text) :
    Reading.slot previous text = filledPath text := by
  have differs : (text == separatorText) = false := beq_false_of_ne (operand_not_separator plain)
  unfold Reading.slot
  split
  · rfl
  · simp only [Slot.ofText, differs, Bool.false_eq_true, ↓reduceIte, filledPath]

theorem use_coption (value : String) (reading : Reading) :
    reading.useAll [.set .coption value] =
      .ok { reading with coptions := reading.coptions ++ [coptionSlot value] } := rfl

/-- Reading goes on behind what was read before, as long as there is room for the operands. -/
theorem read_said (said : Said arguments operands values) (previous : Previous) (reading : Reading)
    (room : reading.operands.length + operands.length ≤ operandCount) :
    Reading.readAll previous reading arguments =
      .ok { reading with
        operands := reading.operands ++ operands.map filledPath
        coptions := reading.coptions ++ values.map coptionSlot } := by
  induction said generalizing previous reading with
  | done => simp [Reading.readAll]
  | @operand text arguments operands values plain _ induction =>
      have vacancy : reading.isFull = false := by
        simp only [List.length_cons] at room
        simp only [Reading.isFull, decide_eq_false_iff_not]
        omega
      rw [Reading.readAll, vacancy, if_neg Bool.false_ne_true, Reading.addOperand,
        operand_slot previous plain, induction]
      · simp
      · simp only [List.length_append, List.length_cons, List.length_nil] at room ⊢
        omega
  | @coption value arguments operands values _ induction =>
      have cluster : Cluster.ofArgument .long (.parameter .coption) (some value.toList) =
          .ok ⟨[.set .coption value], none⟩ := by
        simp only [Cluster.ofArgument, Cluster.ofGlued, String.ofList_toList]
      rw [Reading.readAll.eq_def]
      simp only [cluster, use_coption, except_ok_bind]
      rw [induction .other { reading with coptions := reading.coptions ++ [coptionSlot value] } room]
      simp

theorem coption_slots_filled_iff (values : List String) :
    values.map coptionSlot = values.map .filled ↔ separatorText ∉ values := by
  have one : ∀ value, coptionSlot value = .filled value ↔ value ≠ separatorText := by
    intro value
    simp only [coptionSlot, Slot.ofText, beq_iff_eq]
    split
    · rename_i same
      simp [same]
    · rename_i differs
      simp [differs]
  simp only [List.map_inj_left, one]
  exact ⟨fun all member => all _ member rfl, fun absent value member same =>
    absent (same ▸ member)⟩

/-- A line of two operands with compiler options among them is read as these operands and these
options, each behind the flag that takes it, exactly when none of the options is the separator
alone. Where one is, everything else is read as before. -/
theorem coptions_kept_iff {binary source : String} (mixed : Mixed line [binary, source] values) :
    ∃ options, ofTokens line = .ok options ∧ options.binary = .filled (.ofText binary) ∧
      options.source = .filled (.ofText source) ∧ options.symbols = none ∧ options.output = none ∧
      options.verbose = false ∧ options.coptions = values.map coptionSlot ∧
      (options.coptions = values.map .filled ↔ separatorText ∉ values) := by
  obtain ⟨arguments, read, said⟩ := said_of_mixed mixed
  have gathered := read_said said .other {} (Nat.le_refl _)
  refine ⟨⟨filledPath binary, filledPath source, none, none, values.map coptionSlot, false⟩, ?_, rfl,
    rfl, rfl, rfl, rfl, rfl, coption_slots_filled_iff values⟩
  simp only [ofTokens, read, Except.mapError, except_ok_bind, gathered]
  rfl

/-- Options that look like flags, hold a separator or are empty. -/
theorem flags_kept_as_options :
    Mixed ["-d", "-d", "a.bin", "--coptions", "-x=-- ", "a.c", "-d", "--coptions", "-d", ""]
        ["a.bin", "a.c"] ["-d", "-x=-- ", "--coptions", ""] ∧
      ∃ options,
        ofTokens ["-d", "-d", "a.bin", "--coptions", "-x=-- ", "a.c", "-d", "--coptions", "-d", ""] =
          .ok options ∧
        options.binary = .filled (.ofText "a.bin") ∧ options.source = .filled (.ofText "a.c") ∧
        options.coptions =
          [.filled "-d", .filled "-x=-- ", .filled "--coptions", .filled ""] := by
  have mixed :
      Mixed ["-d", "-d", "a.bin", "--coptions", "-x=-- ", "a.c", "-d", "--coptions", "-d", ""]
        ["a.bin", "a.c"] ["-d", "-x=-- ", "--coptions", ""] :=
    .coption (by decide) (.operand (by decide) (.coption (by decide) (.operand (by decide)
      (.coption (by decide) (.coption (by decide) .done)))))
  obtain ⟨options, read, binary, source, _, _, _, _, kept⟩ := coptions_kept_iff mixed
  exact ⟨mixed, options, read, binary, source, kept.mpr (by decide)⟩

/-- An option that is the separator alone is taken by its flag and comes out vacant. -/
theorem separator_option_lost :
    Mixed ["-d", "--", "a.bin", "a.c"] ["a.bin", "a.c"] ["--"] ∧
      ofTokens ["-d", "--", "a.bin", "a.c"] =
        .ok ⟨.filled (.ofText "a.bin"), .filled (.ofText "a.c"), none, none, [.vacant], false⟩ ∧
      ([.vacant] : List (Slot String)) ≠ [.filled "--"] := by
  refine ⟨.coption (by decide) (.operand (by decide) (.operand (by decide) .done)), ?_, by decide⟩
  decide +kernel

end DebugRecovery.Options
