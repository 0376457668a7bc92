import DebugRecovery.Proofs.Files
import DebugRecovery.Program

/-!
# What a plan has settled

The inputs of a plan are files. Where no plan is made, a value is bad, an argument
is vacant or a file cannot be seen. Whether a plan has an output is told later, when
the output is needed.
-/

set_option autoImplicit false

namespace DebugRecovery.Program

variable {files : FileTree} {options : Options} {settings : Settings} {abort : Abort}

/-- Why a file that has to be seen cannot be: the working directory is gone, the settings file in it
may not be read, or the way to a file is denied or has too long a name. -/
inductive Unseen (files : FileTree) : FileError → Prop where
  | nowhere (error : FileError) (gone : files.currentPath = .error error) : Unseen files error
  | unread (path : Path) (place : Place) (content : ByteArray)
      (named : Settings.defaultFile files = .ok path) (located : files.locate path = .ok place)
      (stands : files.node? place = some (.file content))
      (closed : files.limits.closed .read place = true) : Unseen files ⟨.denied, path⟩
  | hidden (path : Path) (problem : FileProblem) (lost : files.locate path = .error problem)
      (hidden : problem = .denied ∨ problem = .nameTooLong) : Unseen files ⟨problem, path⟩

/-- What keeps settings from being made: a bad value, or a file that cannot be seen. -/
inductive Unmade (files : FileTree) : Abort → Prop where
  | bad (abort : Abort) (value : abort.isBadValue = true) : Unmade files abort
  | unseen (error : FileError) (unseen : Unseen files error) : Unmade files (.file error)

theorem unmade_of_lost {error : FileError} {path : Path}
    (failed : files.find? path = .error error) : Unmade files (.file error) := by
  obtain ⟨rfl, lost, hidden⟩ := FileTree.find_error failed
  exact .unseen error (.hidden error.path error.problem lost hidden)

theorem complete_error_bad {environment : Settings.Environment}
    {declared : String × Option String}
    (failed : Settings.complete environment declared = .error abort) :
    abort.isBadValue = true := by
  unfold Settings.complete at failed
  split at failed
  · split at failed
    · cases failed
      rfl
    split at failed
    · cases failed
      rfl
    · contradiction
  · contradiction

theorem complete_all_error_bad {environment : Settings.Environment}
    {declarations : Settings.Declarations}
    (failed : declarations.foldlM Settings.complete environment = .error abort) :
    abort.isBadValue = true := by
  induction declarations generalizing environment with
  | nil => contradiction
  | cons declared declarations induction =>
      rw [List.foldlM_cons] at failed
      rcases except_bind_error failed with here | ⟨_, _, later⟩
      · exact complete_error_bad here
      · exact induction later

theorem completion_error {environment : Settings.Environment} {path : Path}
    (named : Settings.defaultFile files = .ok path)
    (failed : (Settings.completion files environment path).environment = .error abort) :
    Unmade files abort := by
  unfold Settings.completion at failed
  split at failed
  · rename_i error lost
    cases failed
    exact unmade_of_lost lost
  · contradiction
  rename_i node found
  split at failed
  · contradiction
  split at failed
  · rename_i content
    obtain ⟨place, located, stands⟩ := FileTree.find_some_iff.mp found
    split at failed
    · rename_i error unread
      cases failed
      rw [FileTree.read, located] at unread
      simp only [stands] at unread
      split at unread
      · rename_i closed
        cases unread
        exact .unseen _ (.unread path place content named located stands closed)
      · contradiction
    split at failed
    · cases failed
      exact .bad _ rfl
    · exact .bad _ (complete_all_error_bad failed)
  · contradiction

theorem of_environment_error_bad {environment : Settings.Environment}
    (failed : Settings.ofEnvironment environment = .error abort) : abort.isBadValue = true := by
  unfold Settings.ofEnvironment at failed
  split at failed
  · cases failed
    rfl
  · contradiction

theorem load_error {environment : Settings.Environment}
    (failed : (Settings.loadDefault files environment).settings = .error abort) :
    Unmade files abort := by
  unfold Settings.loadDefault at failed
  split at failed
  · rename_i error unnamed
    cases failed
    refine .unseen error (.nowhere error ?_)
    cases gone : files.currentPath with
    | error other =>
        rw [Settings.defaultFile, gone] at unnamed
        cases unnamed
        rfl
    | ok directory =>
        rw [Settings.defaultFile, gone] at unnamed
        contradiction
  · rename_i path named
    rcases except_bind_error failed with incomplete | ⟨completed, _, refused⟩
    · exact completion_error named incomplete
    · exact .bad _ (of_environment_error_bad refused)

theorem file_at_ok {path place : Path} {otherwise : String}
    (found : Settings.fileAt files path otherwise = .ok place) :
    place = path ∧ files.isFile path = .ok true := by
  unfold Settings.fileAt at found
  split at found
  · contradiction
  · rename_i file
    cases found
    exact ⟨rfl, file⟩
  · contradiction

theorem file_at_error {path : Path} {otherwise : String}
    (failed : Settings.fileAt files path otherwise = .error abort) : Unmade files abort := by
  unfold Settings.fileAt at failed
  split at failed
  · rename_i error unseen
    cases failed
    exact unmade_of_lost (FileTree.find_of_is_file_error unseen)
  · contradiction
  · cases failed
    exact .bad _ rfl

theorem input_ok {label : String} {path : Option Path} {place : Path}
    (found : Settings.input files label path = .ok place) : files.isFile place = .ok true := by
  unfold Settings.input at found
  split at found
  · contradiction
  · obtain ⟨rfl, file⟩ := file_at_ok found
    exact file

theorem input_error {label : String} {path : Option Path}
    (failed : Settings.input files label path = .error abort) : Unmade files abort := by
  unfold Settings.input at failed
  split at failed
  · cases failed
    exact .bad _ rfl
  · exact file_at_error failed

theorem symbols_input_ok {path : Option Path} {done : Unit}
    (found : Settings.symbolsInput files path = .ok done) :
    ∀ place, path = some place → files.isFile place = .ok true := by
  rintro place rfl
  obtain ⟨_, found, _⟩ := except_bind_ok found
  obtain ⟨_, found, _⟩ := except_bind_ok found
  exact (file_at_ok found).2

theorem symbols_input_error {path : Option Path}
    (failed : Settings.symbolsInput files path = .error abort) : Unmade files abort := by
  cases path with
  | none => contradiction
  | some path =>
      rcases except_bind_error failed with failed | ⟨_, _, failed⟩
      · rcases except_bind_error failed with failed | ⟨_, _, failed⟩
        · exact file_at_error failed
        · contradiction
      · contradiction

theorem output_path_error (failed : settings.outputPath = .error abort) :
    ∃ detail, abort = .value detail := by
  unfold Settings.outputPath at failed
  split at failed
  · contradiction
  · cases failed
    exact ⟨_, rfl⟩
  split at failed
  · contradiction
  · cases failed
    exact ⟨_, rfl⟩

/-- On the command line an input or an option for the front end is a separator. -/
def HasVacant (options : Options) : Prop :=
  options.binary = .vacant ∨ options.source = .vacant ∨ options.symbols = some .vacant ∨
    .vacant ∈ options.coptions

/-- What keeps a plan from being made: the settings are not made, or an argument is vacant. -/
inductive Unsettling (files : FileTree) (options : Options) : Abort → Prop where
  | unmade (abort : Abort) (unmade : Unmade files abort) : Unsettling files options abort
  | vacant (need : Need) (lacking : HasVacant options) : Unsettling files options (.vacant need)

theorem filled_error {Value : Type} {need : Need} {slot : Options.Slot Value}
    (failed : filled need slot = .error abort) : slot = .vacant ∧ abort = .vacant need := by
  cases slot with
  | vacant =>
      cases failed
      exact ⟨rfl, rfl⟩
  | filled value => contradiction

theorem check_filled_error {Value : Type} {need : Need} {slot : Option (Options.Slot Value)}
    (failed : checkFilled need slot = .error abort) :
    slot = some .vacant ∧ abort = .vacant need := by
  cases slot with
  | none => contradiction
  | some slot =>
      cases slot with
      | vacant =>
          cases failed
          exact ⟨rfl, rfl⟩
      | filled value => contradiction

theorem given_error (failed : given options = .error abort) : Unsettling files options abort := by
  rcases except_bind_error failed with failed | ⟨coptions, _, failed⟩
  · obtain ⟨front, slot, back, _, slots, _, vacant⟩ := except_each_error failed
    obtain ⟨rfl, rfl⟩ := filled_error vacant
    refine .vacant _ ?_
    simp [HasVacant, slots]
  · contradiction

theorem inputs_error (failed : inputs files options settings = .error abort) :
    Unsettling files options abort := by
  rcases except_bind_error failed with vacant | ⟨_, _, failed⟩
  · obtain ⟨slot, rfl⟩ := check_filled_error vacant
    exact .vacant _ (Or.inl (Option.some.inj slot))
  rcases except_bind_error failed with missing | ⟨_, _, failed⟩
  · exact .unmade _ (input_error missing)
  rcases except_bind_error failed with vacant | ⟨_, _, failed⟩
  · obtain ⟨slot, rfl⟩ := check_filled_error vacant
    exact .vacant _ (Or.inr (Or.inl (Option.some.inj slot)))
  rcases except_bind_error failed with missing | ⟨_, _, failed⟩
  · exact .unmade _ (input_error missing)
  rcases except_bind_error failed with vacant | ⟨_, _, failed⟩
  · obtain ⟨slot, rfl⟩ := check_filled_error vacant
    exact .vacant _ (Or.inr (Or.inr (Or.inl slot)))
  rcases except_bind_error failed with missing | ⟨_, _, failed⟩
  · exact .unmade _ (symbols_input_error missing)
  · contradiction

theorem output_error (failed : output options settings = .error abort) :
    options.output = some .vacant ∧ abort = .vacant .directory ∨
      ∃ detail, abort = .value detail := by
  rcases except_bind_error failed with vacant | ⟨_, _, failed⟩
  · exact Or.inl (check_filled_error vacant)
  · exact Or.inr (output_path_error failed)

theorem plan_error {loaded : Except Abort Settings}
    (unmade : ∀ cause, loaded = .error cause → Unmade files cause)
    (failed : plan files options loaded = .error abort) : Unsettling files options abort := by
  rcases except_bind_error failed with unloaded | ⟨settings, _, failed⟩
  · exact .unmade _ (unmade abort unloaded)
  rcases except_bind_error failed with ungiven | ⟨given, _, failed⟩
  · exact given_error ungiven
  rcases except_bind_error failed with missing | ⟨_, _, failed⟩
  · exact inputs_error missing
  · contradiction

/-- The inputs of a plan are files, and where it has no output, that is vacant or has no name. -/
structure Settled (files : FileTree) (options : Options) (plan : Plan) : Prop where
  binary : files.isFile plan.binary = .ok true
  source : files.isFile plan.source = .ok true
  symbols : ∀ path, plan.settings.symbols = some path → files.isFile path = .ok true
  output : ∀ abort, plan.output = .error abort →
    options.output = some .vacant ∧ abort = .vacant .directory ∨ ∃ detail, abort = .value detail

theorem plan_ok {loaded : Except Abort Settings} {settled : Plan}
    (planned : plan files options loaded = .ok settled) : Settled files options settled := by
  obtain ⟨settings, _, planned⟩ := except_bind_ok planned
  obtain ⟨given, _, planned⟩ := except_bind_ok planned
  obtain ⟨⟨binary, source⟩, found, planned⟩ := except_bind_ok planned
  cases planned
  obtain ⟨_, _, found⟩ := except_bind_ok found
  obtain ⟨binary, binaryFile, found⟩ := except_bind_ok found
  obtain ⟨_, _, found⟩ := except_bind_ok found
  obtain ⟨source, sourceFile, found⟩ := except_bind_ok found
  obtain ⟨_, _, found⟩ := except_bind_ok found
  obtain ⟨_, symbolsFile, found⟩ := except_bind_ok found
  cases found
  exact ⟨input_ok binaryFile, input_ok sourceFile, symbols_input_ok symbolsFile,
    fun abort failed => output_error failed⟩

theorem check_filled_ok {Value : Type} {need : Need} {slot : Option (Options.Slot Value)}
    (full : slot ≠ some .vacant) : checkFilled need slot = .ok () := by
  cases slot with
  | none => rfl
  | some slot =>
      cases slot with
      | vacant => contradiction
      | filled value => rfl

theorem file_at_of_file {path : Path} {otherwise : String} (file : files.isFile path = .ok true) :
    Settings.fileAt files path otherwise = .ok path := by
  rw [Settings.fileAt, file]

/-- When no argument is vacant and the inputs are files, they are found. -/
theorem inputs_of_files {binary source : Path} (full : ¬ HasVacant options)
    (named : settings.binary = some binary) (also : settings.source = some source)
    (binaryFile : files.isFile binary = .ok true) (sourceFile : files.isFile source = .ok true)
    (symbolsFile : ∀ path, settings.symbols = some path → files.isFile path = .ok true) :
    inputs files options settings = .ok (binary, source) := by
  simp only [HasVacant, not_or] at full
  obtain ⟨first, second, third, _⟩ := full
  have tabulated : Settings.symbolsInput files settings.symbols = .ok () := by
    cases told : settings.symbols with
    | none => rfl
    | some path =>
        simp only [Settings.symbolsInput, Option.mapM_some, file_at_of_file (symbolsFile path told)]
        rfl
  rw [inputs, named, also, tabulated, check_filled_ok (by simpa using first),
    check_filled_ok (by simpa using second), check_filled_ok third]
  simp only [Settings.input, file_at_of_file binaryFile, file_at_of_file sourceFile, except_ok_bind]

theorem plan_of_inputs {told : Settings.Given} {binary source : Path}
    (asked : given options = .ok told)
    (found : inputs files options (settings.override told) = .ok (binary, source)) :
    plan files options (.ok settings) =
      .ok ⟨settings.override told, binary, source, output options (settings.override told)⟩ := by
  simp only [plan, asked, found, except_ok_bind]

end DebugRecovery.Program
