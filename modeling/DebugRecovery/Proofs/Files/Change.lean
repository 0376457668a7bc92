import DebugRecovery.Proofs.Files

/-!
# What a change of the files leaves

Directories are made and files are written, but nothing is taken away: whatever
is at a place stays of its kind, what is denied stays denied, and a file differs
only where one was written, be it in part. So a path that leads somewhere leads
there after any change, and what is read is the same unless it was written.
Making directories changes no file at all, even when it fails half-way.
-/

set_option autoImplicit false

namespace DebugRecovery.FileTree

variable {before between after tree : FileTree} {changed wider : Place → Prop} {path : Path}
  {place : Place} {content : ByteArray} {target : Target}

/-- From one tree to the other, nothing has changed its kind, and files have been made or written at
places of `changed` only. -/
structure Spares (changed : Place → Prop) (before after : FileTree) : Prop where
  workingDirectory : after.workingDirectory = before.workingDirectory
  limits : after.limits = before.limits
  directories : ∀ place, before.node? place = some .directory → after.node? place = some .directory
  devices : ∀ place, before.node? place = some .device → after.node? place = some .device
  files : ∀ place content, before.node? place = some (.file content) →
    ∃ later, after.node? place = some (.file later)
  same : ∀ place, ¬ changed place → ∀ content,
    after.node? place = some (.file content) ↔ before.node? place = some (.file content)

theorem spares_refl (changed : Place → Prop) (tree : FileTree) : Spares changed tree tree where
  workingDirectory := rfl
  limits := rfl
  directories := fun _ directory => directory
  devices := fun _ device => device
  files := fun _ content file => ⟨content, file⟩
  same := fun _ _ _ => Iff.rfl

theorem spares_trans (first : Spares changed before between)
    (second : Spares changed between after) : Spares changed before after where
  workingDirectory := second.workingDirectory.trans first.workingDirectory
  limits := second.limits.trans first.limits
  directories := fun place directory => second.directories place (first.directories place directory)
  devices := fun place device => second.devices place (first.devices place device)
  files := fun place content file => by
    obtain ⟨later, still⟩ := first.files place content file
    exact second.files place later still
  same := fun place free content =>
    (second.same place free content).trans (first.same place free content)

theorem spares_wider (spared : Spares changed before after)
    (within : ∀ place, changed place → wider place) : Spares wider before after where
  workingDirectory := spared.workingDirectory
  limits := spared.limits
  directories := spared.directories
  devices := spared.devices
  files := spared.files
  same := fun place free => spared.same place fun inside => free (within place inside)

/-- A path leads where it led before. -/
theorem locate_spared (spared : Spares changed before after)
    (located : before.locate path = .ok place) : after.locate path = .ok place :=
  locate_of_directories spared.workingDirectory spared.limits spared.directories located

/-- The path leads to none of the places. -/
def Avoids (tree : FileTree) (path : Path) (changed : Place → Prop) : Prop :=
  ∀ place, tree.locate path = .ok place → ¬ changed place

theorem avoids_of_located (located : before.locate path = .ok place) (apart : ¬ changed place) :
    before.Avoids path changed := by
  intro other reached
  rw [located] at reached
  cases reached
  exact apart

theorem avoids_earlier (spared : Spares changed before after) (apart : after.Avoids path wider) :
    before.Avoids path wider :=
  fun place located => apart place (locate_spared spared located)

theorem read_spared (spared : Spares changed before after) (apart : before.Avoids path changed)
    (opened : before.read path = .ok content) : after.read path = .ok content := by
  obtain ⟨place, located, readable, stands⟩ := (read_ok_iff before path content).mp opened
  refine (read_ok_iff after path content).mpr ⟨place, locate_spared spared located, ?_, ?_⟩
  · rw [spared.limits, readable]
  rcases stands with file | ⟨device, empty⟩
  · exact Or.inl ((spared.same place (apart place located) content).mpr file)
  · exact Or.inr ⟨spared.devices place device, empty⟩

/-- What can be read afterwards, and not only from a file that was made since, was the same before
unless it was written. -/
theorem read_earlier (spared : Spares changed before after) (apart : before.Avoids path changed)
    (file : before.isFile path = .ok true) (opened : after.read path = .ok content) :
    before.read path = .ok content := by
  obtain ⟨held, place, located, stands⟩ := (is_file_iff before path).mp file
  have kept := (spared.same place (apart place located) held).mpr stands
  obtain ⟨reached, again, readable, found⟩ := (read_ok_iff after path content).mp opened
  rw [locate_spared spared located] at again
  cases again
  rw [spared.limits] at readable
  rcases found with same | ⟨device, _⟩
  · rw [kept] at same
    cases same
    exact (read_ok_iff before path content).mpr ⟨place, located, readable, Or.inl stands⟩
  · rw [kept] at device
    cases device

theorem put_directory_spares (changed : Place → Prop) (free : tree.node? place = none) :
    Spares changed tree (tree.put place .directory) := by
  have kept : ∀ wanted node, tree.node? wanted = some node →
      (tree.put place .directory).node? wanted = some node := by
    intro wanted node stands
    have different : wanted ≠ place := by
      rintro rfl
      rw [free] at stands
      contradiction
    rw [node_put_other different, stands]
  constructor
  case workingDirectory => rfl
  case limits => rfl
  case directories => exact fun wanted directory => kept wanted _ directory
  case devices => exact fun wanted device => kept wanted _ device
  case files => exact fun wanted content file => ⟨content, kept wanted _ file⟩
  case same =>
    intro wanted _ content
    refine ⟨fun file => ?_, kept wanted _⟩
    by_cases here : wanted = place
    · subst here
      have inner : wanted ≠ [] := by
        rintro rfl
        contradiction
      rw [node_put_same inner] at file
      cases file
    · rwa [node_put_other here] at file

/-- Whatever goes to a target, only a file at its place can differ afterwards. -/
theorem holding_spares (content : ByteArray) (takes : Takes tree place target)
    (listed : changed place) : Spares changed tree (target.holding tree place content) := by
  have free := takes_not_directory takes
  have inner : place ≠ [] := by
    rintro rfl
    exact free rfl
  cases target with
  | device => exact spares_refl changed tree
  | file held =>
      have unlike : tree.node? place ≠ some .device := by
        cases takes <;> simp_all
      constructor
      case workingDirectory => rfl
      case limits => rfl
      case directories => exact fun wanted directory => node_put_directory free directory
      case devices =>
        intro wanted device
        have different : wanted ≠ place := by
          rintro rfl
          exact unlike device
        rw [Target.holding, node_put_other different, device]
      case files =>
        intro wanted old file
        by_cases here : wanted = place
        · subst here
          exact ⟨content, node_put_same inner⟩
        · exact ⟨old, by rw [Target.holding, node_put_other here, file]⟩
      case same =>
        intro wanted unlisted old
        have here : wanted ≠ place := by
          rintro rfl
          exact unlisted listed
        rw [Target.holding, node_put_other here]

/-- The tree after a step, however it ends. -/
def leftBy {Error Value : Type} : EStateM.Result Error FileTree Value → FileTree
  | .ok _ later => later
  | .error _ later => later

theorem make_directory_spares (changed : Place → Prop) (path : Path) (tree : FileTree) :
    Spares changed tree (leftBy (makeDirectory path tree)) := by
  unfold makeDirectory
  split
  · exact spares_refl changed tree
  split
  · exact spares_refl changed tree
  · rename_i free
    split
    · exact spares_refl changed tree
    · exact put_directory_spares changed free

theorem ensure_directory_spares (changed : Place → Prop) (path : Path) (tree : FileTree) :
    Spares changed tree (leftBy (ensureDirectory path tree)) := by
  have made := make_directory_spares changed path tree
  unfold ensureDirectory
  split
  · rename_i done later finished
    rwa [finished] at made
  · rename_i error later failed
    rw [failed] at made
    split
    · exact made
    · split <;> exact made

theorem make_directories_at_spares (changed : Place → Prop) (anchor : Anchor) (waiting : Nat)
    (parts : List String) (tree : FileTree) :
    Spares changed tree (leftBy (makeDirectoriesAt anchor waiting parts tree)) := by
  induction parts generalizing tree waiting with
  | nil => exact ensure_directory_spares changed ⟨anchor, []⟩ tree
  | cons part above induction =>
      unfold makeDirectoriesAt
      have tried := ensure_directory_spares changed ⟨anchor, (part :: above).reverse⟩ tree
      dsimp only
      split
      · rename_i done later finished
        rwa [finished] at tried
      · rename_i error later failed
        rw [failed] at tried
        have higher := induction (waiting + 1) later
        split
        · exact tried
        split
        · exact tried
        split
        · rename_i made ready done
          rw [done] at higher
          exact spares_trans (spares_trans tried higher) (ensure_directory_spares changed _ ready)
        · exact spares_trans tried higher

theorem make_directories_spares (changed : Place → Prop) (path : Path) (tree : FileTree) :
    Spares changed tree (leftBy (makeDirectories path tree)) :=
  make_directories_at_spares changed path.anchor 0 path.parts.reverse tree

/-- A write changes the place that the path leads to, if it changes anything. -/
theorem write_spares (path : Path) (keep : ByteArray → ByteArray) (more : ByteArray)
    (tree : FileTree) :
    Spares (fun place => tree.locate path = .ok place) tree (leftBy (write path keep more tree)) := by
  have written := write_written tree path keep more
  generalize write path keep more tree = result at written
  cases written with
  | unopened error failed => exact spares_refl _ tree
  | short place target taken shortage located takes lacking =>
      exact holding_spares (target.kept keep ++ taken) takes located
  | whole place target located takes fits =>
      exact holding_spares (target.kept keep ++ more) takes located

theorem append_ok_spares {more : ByteArray} {later : FileTree}
    (written : append path more tree = .ok () later) :
    ∃ place, later.locate path = .ok place ∧ Spares (· = place) tree later := by
  obtain ⟨place, target, located, takes, _, rfl⟩ := write_ok_iff.mp written
  have spared : Spares (· = place) tree (target.holding tree place (target.kept id ++ more)) :=
    holding_spares _ takes rfl
  exact ⟨place, locate_spared spared located, spared⟩

theorem append_nothing_error {error : FileError} {later : FileTree}
    (failed : append path .empty tree = .error error later) : later = tree := by
  have written := write_written tree path id .empty
  unfold append at failed
  rw [failed] at written
  cases written with
  | unopened error unopened => rfl
  | short place target taken shortage located takes lacking =>
      obtain ⟨rest, filled, split⟩ := taken_start lacking
      exact absurd (ByteArray.append_eq_empty_iff.mp split.symm).2 filled

end DebugRecovery.FileTree
