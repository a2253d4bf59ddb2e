import MappedTables.Proofs.Storage.Created

namespace MappedTables
namespace FileSystem

/-!
What becomes of places and files.

The objects of segments come and go at single places.  What makes or removes one
changes what that place leads to and nothing else: no other place leads
elsewhere, no directory comes or goes, and every file that was there holds what
it held.  So a path that could be followed before can be followed afterwards and
ends at the same place.
-/

/-- Every place that leads to a file leads to one that was made. -/
def Numbered (files : FileSystem) : Prop :=
  forall place id, files.entryAt? place = some (.file id) -> id < files.nextFile

/-- No file that was there holds anything else, and paths start where they started. -/
structure Keeps (before after : FileSystem) : Prop where
  file_eq : forall id, id < before.nextFile -> after.file id = before.file id
  nextFile_le : before.nextFile <= after.nextFile
  workingDirectory_eq : after.workingDirectory = before.workingDirectory

/-- Nothing is left of what happened: every place leads where it led, and every file that was
there holds what it held. -/
structure Untouched (before after : FileSystem) : Prop extends Keeps before after where
  entryAt?_eq : after.entryAt? = before.entryAt?

/-- At most one place leads elsewhere. -/
structure AlikeBut (place : Place) (before after : FileSystem) : Prop extends
    Keeps before after where
  entryAt?_eq : forall other, other ≠ place -> after.entryAt? other = before.entryAt? other

/-- What can become of the files when the object of a segment is made or removed. -/
inductive Change (before after : FileSystem) : Prop where
  | nothing (untouched : before.Untouched after)
  | made (place : Place) (alike : before.AlikeBut place after)
      (free : before.entryAt? place = none)
      (present : after.entryAt? place = some (.file before.nextFile))
      (grown : before.nextFile < after.nextFile)
  | removed (place : Place) (id : FileId) (alike : before.AlikeBut place after)
      (present : before.entryAt? place = some (.file id))
      (gone : after.entryAt? place = none)

/-- What can become of a place. -/
inductive Turn (before after : FileSystem) (place : Place) : Prop where
  | kept (same : after.entryAt? place = before.entryAt? place)
  | taken (free : before.entryAt? place = none)
      (present : after.entryAt? place = some (.file before.nextFile))
      (grown : before.nextFile < after.nextFile)
  | opened (present : after.entryAt? place = some .directory)
  | freed (id : FileId) (present : before.entryAt? place = some (.file id))
      (gone : after.entryAt? place = none)

variable {before between after files : FileSystem}

theorem Keeps.refl (files : FileSystem) : files.Keeps files where
  file_eq _ _ := rfl
  nextFile_le := Nat.le_refl _
  workingDirectory_eq := rfl

theorem Keeps.trans (first : before.Keeps between) (second : between.Keeps after) :
    before.Keeps after where
  file_eq id made :=
    (second.file_eq id (Nat.lt_of_lt_of_le made first.nextFile_le)).trans (first.file_eq id made)
  nextFile_le := Nat.le_trans first.nextFile_le second.nextFile_le
  workingDirectory_eq := second.workingDirectory_eq.trans first.workingDirectory_eq

theorem Untouched.refl (files : FileSystem) : files.Untouched files where
  toKeeps := Keeps.refl files
  entryAt?_eq := rfl

theorem Change.keeps (change : before.Change after) : before.Keeps after := by
  cases change with
  | nothing untouched => exact untouched.toKeeps
  | made place alike free present grown => exact alike.toKeeps
  | removed place id alike present gone => exact alike.toKeeps

/-- Directories neither come nor go. -/
theorem Change.directory_iff (change : before.Change after) (place : Place) :
    after.entryAt? place = some .directory <-> before.entryAt? place = some .directory := by
  cases change with
  | nothing untouched => rw [untouched.entryAt?_eq]
  | made changed alike free present grown =>
      by_cases same : place = changed
      · rw [same, free, present]
        simp
      · rw [alike.entryAt?_eq place same]
  | removed changed id alike present gone =>
      by_cases same : place = changed
      · rw [same, present, gone]
        simp
      · rw [alike.entryAt?_eq place same]

theorem Change.turn (change : before.Change after) (place : Place) :
    Turn before after place := by
  cases change with
  | nothing untouched => exact .kept (congrFun untouched.entryAt?_eq place)
  | made changed alike free present grown =>
      by_cases same : place = changed
      · rw [same]
        exact .taken free present grown
      · exact .kept (alike.entryAt?_eq place same)
  | removed changed id alike present gone =>
      by_cases same : place = changed
      · rw [same]
        exact .freed id present gone
      · exact .kept (alike.entryAt?_eq place same)

/-- Whatever becomes of the places, none of them leads to a file that was never made. -/
theorem Numbered.of_turns (numbered : before.Numbered)
    (later : before.nextFile <= after.nextFile)
    (turns : forall place, Turn before after place) : after.Numbered := by
  intro place id leads
  cases turns place with
  | kept same =>
      rw [same] at leads
      exact Nat.lt_of_lt_of_le (numbered place id leads) later
  | taken free present grown =>
      rw [present] at leads
      cases leads
      exact grown
  | opened present =>
      rw [present] at leads
      cases leads
  | freed other present gone =>
      rw [gone] at leads
      cases leads

/-- A path leads to the same end before and after. -/
theorem Change.locate_eq_ok_iff (change : before.Change after) {text : String}
    {target : Target} : after.locate text = .ok target <-> before.locate text = .ok target := by
  have here := change.keeps.workingDirectory_eq
  constructor
  · exact locate_of_directories (fun place => (change.directory_iff place).mp) here.symm
  · exact locate_of_directories (fun place => (change.directory_iff place).mpr) here

/-! ## Paths when nothing is left -/

/-- What a path leads to depends on the places only. -/
theorem Untouched.find_eq (untouched : before.Untouched after) (text : String) :
    after.find text = before.find text := by
  have places := untouched.entryAt?_eq
  have here := untouched.workingDirectory_eq
  have same : { after with file := before.file, nextFile := before.nextFile } = before := by
    cases before
    cases after
    cases places
    cases here
    rfl
  calc after.find text
      = { after with file := before.file, nextFile := before.nextFile }.find text := rfl
    _ = before.find text := by rw [same]

/-- A path to a file ends in a name that the file has in its directory. -/
theorem find_eq_file_iff {text : String} {id : FileId} :
    files.find text = .ok (.file id) <->
      exists directory name, files.locate text = .ok ⟨directory, .name name, false⟩ ∧
        files.lookUp directory name = .ok (some (.file id)) := by
  unfold find
  rw [Outcome.bind_eq_ok_iff]
  constructor
  · rintro ⟨⟨directory, last, slash⟩, located, rest⟩
    cases last with
    | here => cases rest
    | name name =>
        rcases Outcome.bind_eq_ok_iff.mp rest with ⟨entry, looked, rest⟩
        cases entry with
        | none => cases rest
        | some entry =>
            cases entry with
            | directory => cases rest
            | file other =>
                cases slash with
                | true => cases rest
                | false =>
                    cases rest
                    exact ⟨directory, name, located, looked⟩
  · rintro ⟨directory, name, located, looked⟩
    refine ⟨_, located, ?_⟩
    simp only [looked, Outcome.ok_bind]
    rfl

theorem entryAt?_of_lookUp {directory : Place} {name : String} {entry : Option Entry}
    (looked : files.lookUp directory name = .ok entry) :
    files.entryAt? (directory ++ [name]) = entry ∧ name.utf8ByteSize <= Path.nameLimit := by
  unfold lookUp at looked
  by_cases long : Path.nameLimit < name.utf8ByteSize
  · rw [if_pos long] at looked
    cases looked
  · rw [if_neg long] at looked
    exact ⟨Except.ok.inj looked, Nat.not_lt.mp long⟩

theorem lookUp_of_short {directory : Place} {name : String}
    (short : name.utf8ByteSize <= Path.nameLimit) :
    files.lookUp directory name = .ok (files.entryAt? (directory ++ [name])) :=
  if_neg (Nat.not_lt.mpr short)

theorem Numbered.lt_of_find (numbered : files.Numbered) {text : String} {id : FileId}
    (found : files.find text = .ok (.file id)) : id < files.nextFile := by
  rcases find_eq_file_iff.mp found with ⟨directory, name, _, looked⟩
  exact numbered _ id (entryAt?_of_lookUp looked).1

/-- The file that a path leads to holds what it held. -/
theorem Untouched.fileAt?_eq (untouched : before.Untouched after) (numbered : before.Numbered)
    (text : String) : after.fileAt? text = before.fileAt? text := by
  unfold fileAt?
  rw [untouched.find_eq]
  cases found : before.find text with
  | error fault => rfl
  | ok entry =>
      cases entry with
      | directory => rfl
      | file id => exact congrArg some (untouched.file_eq id (numbered.lt_of_find found))

/-! ## Making and removing -/

theorem addFile_keeps (files : FileSystem) (place : Place) (stored : StoredFile) :
    files.Keeps (files.addFile place stored).2 where
  file_eq _ made := file_setFile_of_ne _ _ _ _ (Nat.ne_of_lt made)
  nextFile_le := Nat.le_succ _
  workingDirectory_eq := rfl

/-- A new file is made at a free place. -/
theorem addFile_change {place : Place} (free : files.entryAt? place = none)
    (stored : StoredFile) : files.Change (files.addFile place stored).2 :=
  .made place ⟨addFile_keeps files place stored, fun _ other => if_neg other⟩ free (if_pos rfl)
    (Nat.lt_succ_self _)

theorem setEntry_keeps (files : FileSystem) (place : Place) (entry : Option Entry) :
    files.Keeps (files.setEntry place entry) where
  file_eq _ _ := rfl
  nextFile_le := Nat.le_refl _
  workingDirectory_eq := rfl

theorem setEntry_none_change {place : Place} {id : FileId}
    (present : files.entryAt? place = some (.file id)) :
    files.Change (files.setEntry place none) :=
  .removed place id ⟨setEntry_keeps files place none, fun _ other => if_neg other⟩ present
    (if_pos rfl)

/-- Making a file at a free place and removing it leaves nothing behind. -/
theorem addFile_setEntry_none_untouched {place : Place} (free : files.entryAt? place = none)
    (stored : StoredFile) :
    files.Untouched ((files.addFile place stored).2.setEntry place none) where
  toKeeps := (addFile_keeps files place stored).trans (setEntry_keeps _ place none)
  entryAt?_eq := by
    funext other
    by_cases same : other = place
    · rw [same, free]
      exact if_pos rfl
    · exact (if_neg same).trans (if_neg same)

/-- What removing a file does. -/
theorem remove_eq_ok_iff {text : String} :
    files.remove text = .ok after <->
      exists directory name id, files.locate text = .ok ⟨directory, .name name, false⟩ ∧
        files.lookUp directory name = .ok (some (.file id)) ∧
        after = files.setEntry (directory ++ [name]) none := by
  unfold remove
  rw [Outcome.bind_eq_ok_iff]
  constructor
  · rintro ⟨⟨directory, last, slash⟩, located, rest⟩
    cases last with
    | here => cases rest
    | name name =>
        rcases Outcome.bind_eq_ok_iff.mp rest with ⟨entry, looked, rest⟩
        cases entry with
        | none => cases rest
        | some entry =>
            cases entry with
            | directory => cases rest
            | file id =>
                cases slash with
                | true => cases rest
                | false =>
                    cases rest
                    exact ⟨directory, name, id, located, looked, rfl⟩
  · rintro ⟨directory, name, id, located, looked, rfl⟩
    refine ⟨_, located, ?_⟩
    simp only [looked, Outcome.ok_bind]
    rfl

theorem remove_change {text : String} (removed : files.remove text = .ok after) :
    files.Change after := by
  rcases remove_eq_ok_iff.mp removed with ⟨directory, name, id, _, looked, rfl⟩
  exact setEntry_none_change (entryAt?_of_lookUp looked).1

/-! ## Paths that end at a known place -/

section Located

variable {text : String} {directory : Place} {name : String} {id : FileId}

/-- A path that ends at a place leads to what is there. -/
theorem find_of_located (located : files.locate text = .ok ⟨directory, .name name, false⟩)
    (short : name.utf8ByteSize <= Path.nameLimit)
    (present : files.entryAt? (directory ++ [name]) = some (.file id)) :
    files.find text = .ok (.file id) :=
  find_eq_file_iff.mpr
    ⟨directory, name, located, by rw [lookUp_of_short short, present]⟩

/-- A path that ends at a free place leads nowhere. -/
theorem find_of_free (located : files.locate text = .ok ⟨directory, .name name, false⟩)
    (short : name.utf8ByteSize <= Path.nameLimit)
    (free : files.entryAt? (directory ++ [name]) = none) :
    files.find text = .error (.os .noEntry) := by
  unfold find
  rw [located, Outcome.ok_bind]
  simp only [lookUp_of_short short, free, Outcome.ok_bind]
  rfl

/-- The file at a path is what the path leads to. -/
theorem fileAt?_eq_some_iff {stored : StoredFile} :
    files.fileAt? text = some stored <->
      exists id, files.find text = .ok (.file id) ∧ files.file id = stored := by
  unfold fileAt?
  split
  case h_1 id found => simp [found]
  case h_2 other =>
    refine ⟨nofun, ?_⟩
    rintro ⟨id, found, _⟩
    exact absurd found (other id)

/-- Opening for reading asks for more than that there is a file. -/
theorem findReadable_of_find (found : files.find text = .ok (.file id)) :
    files.findReadable text =
      if (files.file id).isReadable = true then .ok (.file id)
      else .error (.os .accessDenied) := by
  unfold findReadable
  rw [found, Outcome.ok_bind]
  by_cases readable : (files.file id).isReadable = true
  · simp only [readable, Bool.not_true, Bool.false_eq_true, if_false, if_true]
    rfl
  · simp only [readable, Bool.not_false, if_true]
    rfl

/-- Nothing is created where there is a file. -/
theorem create_of_present {permissions : Nat}
    (located : files.locate text = .ok ⟨directory, .name name, false⟩)
    (short : name.utf8ByteSize <= Path.nameLimit)
    (present : files.entryAt? (directory ++ [name]) = some (.file id)) :
    files.create text permissions = .error (.os .fileExists) := by
  unfold create
  rw [located, Outcome.ok_bind]
  simp only [lookUp_of_short short, present, Outcome.ok_bind]
  rfl

end Located

/-! ## Permissions -/

/-- Whether the owner may read a file is as requested. -/
theorem isReadable_grantedPermissions (requested : Nat) :
    (grantedPermissions requested).testBit 8 = requested.testBit 8 := by
  have first : Nat.testBit 0o7777 8 = true := by decide
  have second : Nat.testBit (0o7777 - 0o022) 8 = true := by decide
  rw [grantedPermissions, Nat.testBit_and, Nat.testBit_and, first, second, Bool.and_true,
    Bool.and_true]

/-- Writing to a file does not change whether its owner may read it. -/
theorem isReadable_permissionsAfterWriting (permissions : Nat) :
    (permissionsAfterWriting permissions).testBit 8 = permissions.testBit 8 := by
  have first : Nat.testBit 0o1777 8 = true := by decide
  have second : Nat.testBit 0o3777 8 = true := by decide
  unfold permissionsAfterWriting
  by_cases special : permissions &&& 0o2010 = 0o2010
  · rw [if_pos special, Nat.testBit_and, first, Bool.and_true]
  · rw [if_neg special, Nat.testBit_and, second, Bool.and_true]

theorem isReadable_setContent (files : FileSystem) (id : FileId) (content : Bytes) :
    ((files.setContent id content).file id).isReadable = (files.file id).isReadable := by
  rw [setContent, file_setFile_self]
  exact isReadable_permissionsAfterWriting _

end FileSystem
end MappedTables
