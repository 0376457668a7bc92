import DebugRecovery.Abort
import DebugRecovery.Proofs.Each

/-!
# Ways through a tree of files

A path is entered part by part, and what keeps it from leading anywhere is told
by the first part that cannot be entered. Putting a node where no directory
stands leaves every way as it was, since only directories are walked through. A
write is not opened, or it takes all it was given, or it takes the first bytes
and then fails. So a path that could be written leads to the same place
afterwards, and what is read there is what was written.
-/

set_option autoImplicit false

namespace DebugRecovery

namespace Abort

variable {told : String → Failure} {error : FileError}

theorem of_file_failure_asked (asked : ofUnasked? error.problem = none) :
    ofFileFailure told error = .failure (told error.message) := by
  rw [ofFileFailure, asked, Option.getD_none]

theorem of_file_failure_zero (zero : error.problem = .zeroInPath) :
    ofFileFailure told error = .value "embedded null byte" := by
  rw [ofFileFailure, zero]
  rfl

theorem of_file_failure_deep (deep : error.problem = .tooDeep) :
    ofFileFailure told error = .endless := by
  rw [ofFileFailure, deep]
  rfl

theorem of_file_failure_short {shortage : Shortage} (short : error.problem = .short shortage) :
    ofFileFailure told error = .failure (told error.message) := by
  refine of_file_failure_asked ?_
  rw [short]
  rfl

end Abort

namespace FileTree

variable {tree later : FileTree} {path : Path} {place : Place} {node : Node}
  {content kept more taken : ByteArray} {target : Target} {error : FileError}

theorem node_put_same (inner : place ≠ []) : (tree.put place node).node? place = some node := by
  have named : place.isEmpty = false := by simpa using inner
  simp [node?, put, named, Association.lookup_put_same]

theorem node_put_other {wanted : Place} (different : wanted ≠ place) :
    (tree.put place node).node? wanted = tree.node? wanted := by
  unfold node?
  split
  · rfl
  · rw [put, Association.lookup_put_other _ _ _ _ different]

theorem node_put_directory {wanted : Place} (free : tree.node? place ≠ some .directory)
    (directory : tree.node? wanted = some .directory) :
    (tree.put place node).node? wanted = some .directory := by
  have different : wanted ≠ place := by
    rintro rfl
    exact free directory
  rw [node_put_other different, directory]

theorem enter_ok_iff {part : String} {reached : Place} :
    tree.enter place part = .ok reached ↔
      tree.node? place = some .directory ∧ tree.limits.closed .search place = false ∧
        Path.isLongName part = false ∧ reached = if part == ".." then place.drop 1 else part :: place := by
  unfold enter
  cases tree.node? place with
  | none => simp
  | some node =>
      cases node with
      | file content => simp
      | device => simp
      | directory =>
          cases tree.limits.closed .search place with
          | true => simp
          | false =>
              cases Path.isLongName part with
              | true => simp
              | false =>
                  simp only [Bool.false_eq_true, if_false, Except.ok.injEq, true_and]
                  exact eq_comm

/-- What is told of a part that cannot be entered. -/
def IsObstacle (problem : FileProblem) : Prop :=
  problem = .missing ∨ problem = .notDirectory ∨ problem = .denied ∨ problem = .nameTooLong

theorem enter_error {part : String} {problem : FileProblem}
    (failed : tree.enter place part = .error problem) : IsObstacle problem := by
  unfold enter at failed
  repeat' split at failed
  all_goals cases failed
  all_goals simp [IsObstacle]

theorem walk_error {start : Place} {parts : List String} {problem : FileProblem}
    (failed : tree.walk start parts = .error problem) : IsObstacle problem := by
  induction parts generalizing start with
  | nil => contradiction
  | cons part parts induction =>
      rcases except_bind_error failed with failed | ⟨reached, _, failed⟩
      · exact enter_error failed
      · exact induction failed

/-- Only a zero in a path is not left to the way that the path takes. -/
theorem locate_error {problem : FileProblem} (failed : tree.locate path = .error problem) :
    path.hasZero = true ∧ problem = .zeroInPath ∨ path.hasZero = false ∧ IsObstacle problem := by
  unfold locate at failed
  split at failed
  · rename_i marked
    cases failed
    exact Or.inl ⟨marked, rfl⟩
  · rename_i unmarked
    refine Or.inr ⟨by simpa using unmarked, ?_⟩
    split at failed
    · cases failed
      simp [IsObstacle]
    · exact walk_error failed

theorem unmarked_of_located (located : tree.locate path = .ok place) : path.hasZero = false := by
  unfold locate at located
  split at located
  · contradiction
  · rename_i unmarked
    simpa using unmarked

theorem obstacle_asked {problem : FileProblem} (obstacle : IsObstacle problem) :
    Abort.ofUnasked? problem = none := by
  rcases obstacle with rfl | rfl | rfl | rfl <;> rfl

/-- Only directories are walked through. -/
theorem walk_of_directories (limits : later.limits = tree.limits)
    (directories : ∀ place, tree.node? place = some .directory →
      later.node? place = some .directory)
    {start reached : Place} {parts : List String} (walked : tree.walk start parts = .ok reached) :
    later.walk start parts = .ok reached := by
  induction parts generalizing start with
  | nil => exact walked
  | cons part parts induction =>
      obtain ⟨middle, entered, walked⟩ := except_bind_ok walked
      obtain ⟨directory, searched, short, same⟩ := enter_ok_iff.mp entered
      have again : later.enter start part = .ok middle :=
        enter_ok_iff.mpr ⟨directories _ directory, by rw [limits, searched], short, same⟩
      rw [walk, again]
      exact induction walked

theorem locate_of_directories (same : later.workingDirectory = tree.workingDirectory)
    (limits : later.limits = tree.limits)
    (directories : ∀ place, tree.node? place = some .directory →
      later.node? place = some .directory)
    {reached : Place} (located : tree.locate path = .ok reached) :
    later.locate path = .ok reached := by
  unfold locate at located ⊢
  split at located
  · contradiction
  · rename_i unmarked
    rw [if_neg unmarked]
    split at located
    · contradiction
    · rename_i short
      rw [if_neg short, same]
      exact walk_of_directories limits directories located

/-- A path ends at a place of its last name, unless that goes up. -/
theorem locate_child {name : String} (located : tree.locate (path.child name) = .ok place)
    (proper : name ≠ "..") : place.head? = some name := by
  have walked : ∀ parts start, tree.walk start (parts ++ [name]) = .ok place →
      place.head? = some name := by
    intro parts
    induction parts with
    | nil =>
        intro start reached
        obtain ⟨_, entered, same⟩ := except_bind_ok reached
        obtain ⟨_, _, _, rfl⟩ := enter_ok_iff.mp entered
        cases same
        simp [proper]
    | cons part parts induction =>
        intro start reached
        obtain ⟨middle, _, further⟩ := except_bind_ok reached
        exact induction middle further
  unfold locate at located
  split at located
  · contradiction
  split at located
  · contradiction
  · exact walked _ _ located

theorem walk_append {start middle : Place} {front back : List String}
    (walked : tree.walk start front = .ok middle) :
    tree.walk start (front ++ back) = tree.walk middle back := by
  induction front generalizing start with
  | nil =>
      cases walked
      rfl
  | cons part front induction =>
      obtain ⟨next, entered, further⟩ := except_bind_ok walked
      rw [List.cons_append, walk, entered]
      exact induction further

/-- The way goes on from where a path leads. -/
theorem locate_onward {further : List String} (located : tree.locate path = .ok place)
    (clean : Path.hasZero ⟨path.anchor, path.parts ++ further⟩ = false)
    (short : Path.isLong ⟨path.anchor, path.parts ++ further⟩ = false) :
    tree.locate ⟨path.anchor, path.parts ++ further⟩ = tree.walk place further := by
  unfold locate at located ⊢
  rw [clean, short]
  split at located
  · contradiction
  split at located
  · contradiction
  · exact walk_append located

theorem locate_further {name : String} {reached : Place} (located : tree.locate path = .ok place)
    (entered : tree.enter place name = .ok reached) (unmarked : name.contains '\x00' = false)
    (short : (path.child name).isLong = false) :
    tree.locate (path.child name) = .ok reached := by
  have clean : (path.child name).hasZero = false := by
    have clean := unmarked_of_located located
    rw [Path.hasZero] at clean
    simp only [Path.hasZero, Path.child, List.any_append, List.any_cons, List.any_nil, clean,
      unmarked, Bool.or_false]
  rw [Path.child] at clean short ⊢
  rw [locate_onward located clean short, walk, entered]
  rfl

/-- Behind a missing place nothing can be reached. -/
theorem locate_beyond {name : String} {further : List String}
    (located : tree.locate path = .ok place) (free : tree.node? place = none)
    (clean : Path.hasZero ⟨path.anchor, path.parts ++ name :: further⟩ = false)
    (short : Path.isLong ⟨path.anchor, path.parts ++ name :: further⟩ = false) :
    tree.locate ⟨path.anchor, path.parts ++ name :: further⟩ = .error .missing := by
  have lost : tree.enter place name = .error .missing := by
    rw [enter, free]
  rw [locate_onward located clean short, walk, lost]
  rfl

/-- A name in a directory that a path leads to. -/
theorem locate_name {name : String} (located : tree.locate path = .ok place)
    (directory : tree.node? place = some .directory)
    (searched : tree.limits.closed .search place = false)
    (unmarked : name.contains '\x00' = false) (short : Path.isLongName name = false)
    (shortPath : (path.child name).isLong = false) (proper : name ≠ "..") :
    tree.locate (path.child name) = .ok (name :: place) :=
  locate_further located (enter_ok_iff.mpr ⟨directory, searched, short, by simp [proper]⟩)
    unmarked shortPath

/-- A path without parts leads to where it starts. -/
theorem locate_here : tree.locate ⟨.workingDirectory, []⟩ = .ok tree.workingDirectory := by
  have short : Path.isLong ⟨.workingDirectory, []⟩ = false := by decide
  simp [locate, Path.hasZero, short, walk]

theorem locate_root : tree.locate ⟨.root, []⟩ = .ok [] := by
  have short : Path.isLong ⟨.root, []⟩ = false := by decide
  simp [locate, Path.hasZero, short, walk]

theorem locate_put {reached : Place} (free : tree.node? place ≠ some .directory)
    (located : tree.locate path = .ok reached) :
    (tree.put place node).locate path = .ok reached := by
  have same : (tree.put place node).workingDirectory = tree.workingDirectory := rfl
  refine locate_of_directories same rfl ?_ located
  intro wanted directory
  exact node_put_directory free directory

theorem read_ok_iff (tree : FileTree) (path : Path) (content : ByteArray) :
    tree.read path = .ok content ↔
      ∃ place, tree.locate path = .ok place ∧ tree.limits.closed .read place = false ∧
        (tree.node? place = some (.file content) ∨
          tree.node? place = some .device ∧ content = .empty) := by
  unfold read
  cases tree.locate path with
  | error problem => simp
  | ok place =>
      simp only [Except.ok.injEq, exists_eq_left']
      cases tree.node? place with
      | none => simp
      | some node =>
          cases tree.limits.closed .read place with
          | true => simp
          | false => cases node <;> simp [eq_comm]

/-- What can be read neither for a zero in its path nor for another reason. -/
theorem read_error {error : FileError} (failed : tree.read path = .error error) :
    path.hasZero = true ∧ error = ⟨.zeroInPath, path⟩ ∨
      path.hasZero = false ∧ Abort.ofUnasked? error.problem = none := by
  unfold read at failed
  split at failed
  · rename_i problem lost
    cases failed
    rcases locate_error lost with ⟨marked, rfl⟩ | ⟨unmarked, obstacle⟩
    · exact Or.inl ⟨marked, rfl⟩
    · exact Or.inr ⟨unmarked, obstacle_asked obstacle⟩
  · rename_i place located
    refine Or.inr ⟨unmarked_of_located located, ?_⟩
    repeat' split at failed
    all_goals cases failed
    all_goals rfl

theorem read_of_zero (marked : path.hasZero = true) :
    tree.read path = .error ⟨.zeroInPath, path⟩ := by
  have lost : tree.locate path = .error .zeroInPath := by simp [locate, marked]
  rw [read, lost]

/-- The path leads to a file with the content, whoever may read it. -/
def Contains (tree : FileTree) (path : Path) (content : ByteArray) : Prop :=
  ∃ place, tree.locate path = .ok place ∧ tree.node? place = some (.file content)

theorem is_file_iff (tree : FileTree) (path : Path) :
    tree.isFile path = .ok true ↔ ∃ content, tree.Contains path content := by
  unfold isFile find? Contains
  cases tree.locate path with
  | error problem =>
      dsimp only
      split <;> simp [Except.map]
  | ok place =>
      simp only [Except.ok.injEq, exists_eq_left', Except.map]
      cases tree.node? place with
      | none => simp
      | some node => cases node <;> simp

/-- What is not there is no problem; being denied a look or asking for too long a name is one. -/
theorem find_error {error : FileError} (failed : tree.find? path = .error error) :
    error.path = path ∧ tree.locate path = .error error.problem ∧
      (error.problem = .denied ∨ error.problem = .nameTooLong) := by
  unfold find? at failed
  split at failed
  · contradiction
  · rename_i problem lost
    split at failed
    · contradiction
    · rename_i present
      cases failed
      refine ⟨rfl, lost, ?_⟩
      rcases locate_error lost with ⟨_, rfl⟩ | ⟨_, rfl | rfl | other⟩
      · exact absurd rfl present
      · exact absurd rfl present
      · exact absurd rfl present
      · exact other

theorem find_of_is_file_error {error : FileError} (failed : tree.isFile path = .error error) :
    tree.find? path = .error error := by
  unfold isFile at failed
  cases found : tree.find? path with
  | error other =>
      rw [found] at failed
      cases failed
      rfl
  | ok node =>
      rw [found] at failed
      contradiction

theorem find_some_iff :
    tree.find? path = .ok (some node) ↔
      ∃ place, tree.locate path = .ok place ∧ tree.node? place = some node := by
  unfold find?
  cases tree.locate path with
  | error problem =>
      dsimp only
      split <;> simp
  | ok place => simp

/-- A directory that is there is not made again. -/
theorem ensure_directory_there (located : tree.locate path = .ok place)
    (directory : tree.node? place = some .directory) :
    ensureDirectory path tree = .ok () tree := by
  have unmade : makeDirectory path tree = .error ⟨.exists, path⟩ tree := by
    simp only [makeDirectory, located, directory]
  have there : tree.isDirectory path = .ok true := by
    simp only [isDirectory, find?, located, directory, Except.map]
  simp [ensureDirectory, unmade, there]

theorem ensure_directory_new (located : tree.locate path = .ok place)
    (free : tree.node? place = none)
    (granted : tree.limits.closed .write (place.drop 1) = false) :
    ensureDirectory path tree = .ok () (tree.put place .directory) := by
  have made : makeDirectory path tree = .ok () (tree.put place .directory) := by
    simp only [makeDirectory, located, free, granted, Bool.false_eq_true, if_false]
  simp only [ensureDirectory, made]

theorem ensure_directory_missing (lost : tree.locate path = .error .missing) :
    ensureDirectory path tree = .error ⟨.missing, path⟩ tree := by
  have unmade : makeDirectory path tree = .error ⟨.missing, path⟩ tree := by
    simp only [makeDirectory, lost]
  simp [ensureDirectory, unmade]

theorem ensure_directory_taken (located : tree.locate path = .ok place)
    (taken : tree.node? place = some (.file content)) :
    ensureDirectory path tree = .error ⟨.exists, path⟩ tree := by
  have unmade : makeDirectory path tree = .error ⟨.exists, path⟩ tree := by
    simp only [makeDirectory, located, taken]
  have other : tree.isDirectory path = .ok false := by
    simp only [isDirectory, find?, located, taken]
    rfl
  simp [ensureDirectory, unmade, other]

theorem make_directories_at_failed {anchor : Anchor} {waiting : Nat} {part : String}
    {above : List String}
    (failed : ensureDirectory ⟨anchor, (part :: above).reverse⟩ tree = .error error later)
    (other : error.problem ≠ .missing) :
    makeDirectoriesAt anchor waiting (part :: above) tree = .error error later := by
  simp only [makeDirectoriesAt, failed, bne_iff_ne, ne_eq, other, not_false_eq_true, if_true]

theorem make_directories_at_once {anchor : Anchor} {waiting : Nat} {part : String}
    {above : List String}
    (made : ensureDirectory ⟨anchor, (part :: above).reverse⟩ tree = .ok () later) :
    makeDirectoriesAt anchor waiting (part :: above) tree = .ok () later := by
  simp only [makeDirectoriesAt, made]

/-- The directories above are made first when the path leads nowhere without them. -/
theorem make_directories_at_above {anchor : Anchor} {waiting : Nat} {part : String}
    {above : List String} {ready : FileTree}
    (lost : tree.locate ⟨anchor, (part :: above).reverse⟩ = .error .missing)
    (reached : tree.limits.reaches .directory (waiting + 1) = true)
    (higher : makeDirectoriesAt anchor (waiting + 1) above tree = .ok () ready)
    (made : ensureDirectory ⟨anchor, (part :: above).reverse⟩ ready = .ok () later) :
    makeDirectoriesAt anchor waiting (part :: above) tree = .ok () later := by
  simp only [makeDirectoriesAt, ensure_directory_missing lost, bne_self_eq_false,
    Bool.false_eq_true, if_false, reached, Bool.not_true, higher, made]

theorem taken_all_iff {limits : Limits} {held : ByteArray} :
    limits.taken place held more = (taken, none) ↔
      taken = more ∧ ∀ room, limits.room place = some room → more.size ≤ room.size - held.size := by
  unfold Limits.taken
  cases limits.room place with
  | none => simp [eq_comm]
  | some room =>
      dsimp only
      split
      · rename_i fits
        simp [fits, eq_comm]
      · rename_i short
        simp [short]

/-- The bytes are the first ones of others, but not all of them. -/
def IsStart (front whole : ByteArray) : Prop := ∃ more, more ≠ .empty ∧ whole = front ++ more

theorem start_further {front whole : ByteArray} (start : IsStart front whole) (more : ByteArray) :
    IsStart front (whole ++ more) := by
  obtain ⟨others, filled, rfl⟩ := start
  refine ⟨others ++ more, ?_, ByteArray.append_assoc⟩
  simp [ByteArray.append_eq_empty_iff, filled]

theorem taken_start {limits : Limits} {held : ByteArray} {shortage : Shortage}
    (short : limits.taken place held more = (taken, some shortage)) : IsStart taken more := by
  unfold Limits.taken at short
  split at short
  · cases short
  · dsimp only at short
    split at short
    · cases short
    · rename_i room _ lacking
      cases short
      refine ⟨more.extract (room.size - held.size) more.size, ?_, ?_⟩
      · simp [← ByteArray.size_eq_zero_iff]
        omega
      · simp

theorem room_of_short {limits : Limits} {held : ByteArray} {shortage : Shortage}
    (short : limits.taken place held more = (taken, some shortage)) :
    ∃ room, limits.room place = some room := by
  unfold Limits.taken at short
  split at short
  · cases short
  · rename_i room given
    exact ⟨room, given⟩

/-- What can be written to at a place: a file, a new one among them, or a device. -/
inductive Takes (tree : FileTree) (place : Place) : Target → Prop where
  | file (content : ByteArray) (stands : tree.node? place = some (.file content))
      (granted : tree.limits.closed .write place = false) : Takes tree place (.file content)
  | new (free : tree.node? place = none)
      (granted : tree.limits.closed .write (place.drop 1) = false) :
      Takes tree place (.file .empty)
  | device (stands : tree.node? place = some .device)
      (granted : tree.limits.closed .write place = false) : Takes tree place .device

theorem open_ok_iff :
    tree.openToWrite path = .ok (place, target) ↔
      tree.locate path = .ok place ∧ Takes tree place target := by
  constructor
  · intro opened
    unfold openToWrite at opened
    split at opened
    · contradiction
    rename_i reached located
    split at opened
    · contradiction
    · rename_i content stands
      split at opened
      · contradiction
      · rename_i granted
        cases opened
        exact ⟨located, .file content stands (by simpa using granted)⟩
    · rename_i stands
      split at opened
      · contradiction
      · rename_i granted
        cases opened
        exact ⟨located, .device stands (by simpa using granted)⟩
    · rename_i free
      split at opened
      · contradiction
      · rename_i granted
        cases opened
        exact ⟨located, .new free (by simpa using granted)⟩
  · rintro ⟨located, takes⟩
    cases takes <;> simp_all [openToWrite]

theorem takes_not_directory (takes : Takes tree place target) :
    tree.node? place ≠ some .directory := by
  cases takes <;> simp_all

theorem open_error {error : FileError} (failed : tree.openToWrite path = .error error) :
    path.hasZero = true ∧ error = ⟨.zeroInPath, path⟩ ∨
      path.hasZero = false ∧ Abort.ofUnasked? error.problem = none := by
  unfold openToWrite at failed
  split at failed
  · rename_i problem lost
    cases failed
    rcases locate_error lost with ⟨marked, rfl⟩ | ⟨unmarked, obstacle⟩
    · exact Or.inl ⟨marked, rfl⟩
    · exact Or.inr ⟨unmarked, obstacle_asked obstacle⟩
  · rename_i place located
    refine Or.inr ⟨unmarked_of_located located, ?_⟩
    repeat' split at failed
    all_goals cases failed
    all_goals rfl

/-- The ways in which a write ends. -/
inductive Written (tree : FileTree) (path : Path) (keep : ByteArray → ByteArray)
    (more : ByteArray) : EStateM.Result FileError FileTree Unit → Prop where
  | unopened (error : FileError) (failed : tree.openToWrite path = .error error) :
      Written tree path keep more (.error error tree)
  | short (place : Place) (target : Target) (taken : ByteArray) (shortage : Shortage)
      (located : tree.locate path = .ok place) (takes : Takes tree place target)
      (lacking : tree.limits.taken place (target.kept keep) more = (taken, some shortage)) :
      Written tree path keep more (.error ⟨.short shortage, path⟩
        (target.holding tree place (target.kept keep ++ taken)))
  | whole (place : Place) (target : Target) (located : tree.locate path = .ok place)
      (takes : Takes tree place target)
      (fits : tree.limits.taken place (target.kept keep) more = (more, none)) :
      Written tree path keep more (.ok ()
        (target.holding tree place (target.kept keep ++ more)))

theorem write_written (tree : FileTree) (path : Path) (keep : ByteArray → ByteArray)
    (more : ByteArray) : Written tree path keep more (write path keep more tree) := by
  unfold write
  split
  · rename_i error failed
    exact .unopened error failed
  · rename_i place target opened
    obtain ⟨located, takes⟩ := open_ok_iff.mp opened
    rcases outcome : tree.limits.taken place (target.kept keep) more with ⟨taken, shortage⟩
    simp only [outcome]
    cases shortage with
    | some shortage => exact .short place target taken shortage located takes outcome
    | none =>
        obtain ⟨rfl, _⟩ := taken_all_iff.mp outcome
        exact .whole place target located takes outcome

theorem write_ok_iff {keep : ByteArray → ByteArray} :
    write path keep more tree = .ok () later ↔
      ∃ place target, tree.locate path = .ok place ∧ Takes tree place target ∧
        tree.limits.taken place (target.kept keep) more = (more, none) ∧
        later = target.holding tree place (target.kept keep ++ more) := by
  constructor
  · intro done
    have written := write_written tree path keep more
    rw [done] at written
    cases written with
    | whole place target located takes fits => exact ⟨place, target, located, takes, fits, rfl⟩
  · rintro ⟨place, target, located, takes, fits, rfl⟩
    simp only [write, open_ok_iff.mpr ⟨located, takes⟩, fits]

/-- There is always room for nothing. -/
theorem append_nothing_ok (located : tree.locate path = .ok place)
    (takes : Takes tree place target) : ∃ later, append path .empty tree = .ok () later := by
  have fits : tree.limits.taken place (target.kept id) .empty = (.empty, none) :=
    taken_all_iff.mpr ⟨rfl, by simp⟩
  exact ⟨_, write_ok_iff.mpr ⟨place, target, located, takes, fits, rfl⟩⟩

theorem kept_nothing (target : Target) : target.kept (fun _ => .empty) = .empty := by
  cases target <;> rfl

theorem overwrite_of_roomy (located : tree.locate path = .ok place)
    (takes : Takes tree place target) (roomy : tree.limits.room place = none)
    (content : ByteArray) :
    overwrite path content tree = .ok () (target.holding tree place content) := by
  have fits : tree.limits.taken place (target.kept fun _ => .empty) content = (content, none) :=
    taken_all_iff.mpr ⟨rfl, by simp [roomy]⟩
  refine write_ok_iff.mpr ⟨place, target, located, takes, fits, ?_⟩
  rw [kept_nothing, ByteArray.empty_append]

/-- A file takes as much as there is room for. -/
theorem overwrite_of_short {room : Room} (located : tree.locate path = .ok place)
    (takes : Takes tree place (.file kept)) (given : tree.limits.room place = some room)
    (lacking : room.size < content.size) :
    overwrite path content tree = .error ⟨.short room.shortage, path⟩
      (tree.put place (.file (content.extract 0 room.size))) := by
  have taken : tree.limits.taken place .empty content =
      (content.extract 0 room.size, some room.shortage) := by
    simp [Limits.taken, given, Nat.not_le.mpr lacking]
  have opened := open_ok_iff.mpr ⟨located, takes⟩
  simp [overwrite, write, opened, Target.kept, taken, Target.holding]

end FileTree

end DebugRecovery
