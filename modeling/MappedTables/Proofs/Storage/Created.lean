import MappedTables.Proofs.Outcome
import MappedTables.Storage.FileSystem

namespace MappedTables
namespace FileSystem

/-!
A file that was just created.

Creating makes a place lead to a new file that led nowhere before.  The names in
front of the last lead to directories, so following them is not affected, and
the path that was created is the path under which the file is found.
-/

/-- A place that led nowhere is none through which a name was followed. -/
theorem enter_of_directories {files after : FileSystem}
    (kept : forall place, files.entryAt? place = some .directory ->
      after.entryAt? place = some .directory)
    {directory reached : Place} {name : String}
    (entered : files.enter directory name = .ok reached) :
    after.enter directory name = .ok reached := by
  unfold enter at *
  by_cases dot : name = "."
  · simp only [dot, if_true] at entered ⊢
    exact entered
  · by_cases dots : name = ".."
    · simp only [dots, if_true] at entered ⊢
      exact entered
    · simp only [dot, dots, if_false] at entered ⊢
      rcases Outcome.bind_eq_ok_iff.mp entered with ⟨entry, looked, rest⟩
      unfold lookUp at looked ⊢
      by_cases long : Path.nameLimit < name.utf8ByteSize
      · rw [if_pos long] at looked
        cases looked
      · rw [if_neg long] at looked ⊢
        cases looked
        cases found : files.entryAt? (directory ++ [name]) with
        | none =>
            rw [found] at rest
            cases rest
        | some entry =>
            cases entry with
            | file id =>
                rw [found] at rest
                cases rest
            | directory =>
                rw [found] at rest
                rw [kept _ found]
                exact rest

theorem foldlM_enter_of_directories {files after : FileSystem}
    (kept : forall place, files.entryAt? place = some .directory ->
      after.entryAt? place = some .directory)
    {names : List String} {start reached : Place}
    (entered : names.foldlM files.enter start = .ok reached) :
    names.foldlM after.enter start = .ok reached := by
  induction names generalizing start with
  | nil => exact entered
  | cons name rest ih =>
      rw [List.foldlM_cons] at entered ⊢
      rcases Outcome.bind_eq_ok_iff.mp entered with ⟨directory, first, others⟩
      rw [enter_of_directories kept first, Outcome.ok_bind]
      exact ih others

/-- A path that could be followed up to its last name still can be. -/
theorem locate_of_directories {files after : FileSystem}
    (kept : forall place, files.entryAt? place = some .directory ->
      after.entryAt? place = some .directory)
    (here : after.workingDirectory = files.workingDirectory) {text : String} {target : Target}
    (located : files.locate text = .ok target) : after.locate text = .ok target := by
  unfold locate at *
  rcases Outcome.bind_eq_ok_iff.mp located with ⟨path, read, rest⟩
  rw [read, Outcome.ok_bind, here]
  cases last : path.names.getLast? with
  | none =>
      simp only [last] at rest ⊢
      exact rest
  | some name =>
      simp only [last] at rest ⊢
      rcases Outcome.bind_eq_ok_iff.mp rest with ⟨directory, followed, final⟩
      rw [foldlM_enter_of_directories kept followed, Outcome.ok_bind]
      by_cases dots : name = "." ∨ name = ".."
      · rw [if_pos dots] at final ⊢
        rcases Outcome.bind_eq_ok_iff.mp final with ⟨reached, entered, same⟩
        rw [enter_of_directories kept entered]
        exact same
      · rw [if_neg dots] at final ⊢
        exact final

/-- Creating adds a file at a free place. -/
theorem create_eq_ok_iff {files after : FileSystem} {text : String} {permissions : Nat}
    {id : FileId} :
    files.create text permissions = .ok (id, after) <->
      id = files.nextFile ∧ exists directory name,
        files.locate text = .ok ⟨directory, .name name, false⟩ ∧
        files.lookUp directory name = .ok none ∧
        after = (files.addFile (directory ++ [name])
          { permissions := grantedPermissions permissions }).2 := by
  unfold create
  rw [Outcome.bind_eq_ok_iff]
  constructor
  · rintro ⟨⟨directory, last, slash⟩, located, rest⟩
    cases last with
    | here => cases rest
    | name name =>
        cases slash with
        | true => cases rest
        | false =>
            rcases Outcome.bind_eq_ok_iff.mp rest with ⟨entry, looked, made⟩
            cases entry with
            | some entry => cases made
            | none =>
                have added := Except.ok.inj made
                exact ⟨(congrArg Prod.fst added).symm, directory, name, located, looked,
                  (congrArg Prod.snd added).symm⟩
  · rintro ⟨rfl, directory, name, located, looked, rfl⟩
    refine ⟨_, located, ?_⟩
    simp only [looked, Outcome.ok_bind]
    rfl

theorem lookUp_eq_none_iff {files : FileSystem} {directory : Place} {name : String} :
    files.lookUp directory name = .ok none <->
      name.utf8ByteSize <= Path.nameLimit ∧ files.entryAt? (directory ++ [name]) = none := by
  unfold lookUp
  by_cases long : Path.nameLimit < name.utf8ByteSize
  · rw [if_pos long]
    constructor
    · intro impossible
      cases impossible
    · rintro ⟨short, _⟩
      omega
  · rw [if_neg long, Except.ok.injEq]
    constructor
    · intro nothing
      exact ⟨Nat.not_lt.mp long, nothing⟩
    · rintro ⟨_, nothing⟩
      exact nothing

/-- A file made at a free place is found under the path that leads there. -/
theorem find_of_addFile {files : FileSystem} {text : String} {directory : Place} {name : String}
    (located : files.locate text = .ok ⟨directory, .name name, false⟩)
    (looked : files.lookUp directory name = .ok none) (stored : StoredFile) :
    (files.addFile (directory ++ [name]) stored).2.find text = .ok (.file files.nextFile) := by
  rcases lookUp_eq_none_iff.mp looked with ⟨short, free⟩
  have leads := entryAt?_setEntry_self
    (({ files with nextFile := files.nextFile + 1 } : FileSystem).setFile files.nextFile stored)
    (directory ++ [name]) (some (.file files.nextFile))
  have kept : forall place, files.entryAt? place = some .directory ->
      (files.addFile (directory ++ [name]) stored).2.entryAt? place = some .directory := by
    intro place present
    have apart : place ≠ directory ++ [name] := by
      rintro rfl
      rw [free] at present
      cases present
    exact (entryAt?_setEntry_of_ne _ _ _ _ apart).trans present
  have located' : (files.addFile (directory ++ [name]) stored).2.locate text =
      .ok ⟨directory, .name name, false⟩ :=
    locate_of_directories kept rfl located
  unfold addFile at located' ⊢
  unfold find
  rw [located', Outcome.ok_bind]
  simp only [lookUp, if_neg (Nat.not_lt.mpr short), leads, Outcome.ok_bind]
  rfl

/-- A file made at a free place shows what it was made with, if it may be read. -/
theorem read_addFile {files : FileSystem} {text : String} {directory : Place} {name : String}
    (located : files.locate text = .ok ⟨directory, .name name, false⟩)
    (looked : files.lookUp directory name = .ok none) {stored : StoredFile}
    (readable : stored.isReadable = true) :
    (files.addFile (directory ++ [name]) stored).2.read text = .ok stored := by
  have found := find_of_addFile located looked stored
  have same : (files.addFile (directory ++ [name]) stored).2.file files.nextFile = stored := by
    simp [addFile]
  unfold read findReadable
  rw [found, Outcome.ok_bind]
  simp only [same, readable, Bool.not_true, Bool.false_eq_true, if_false]
  exact congrArg Except.ok same

/-- Replacing the content of a file changes neither what paths lead to nor other files. -/
theorem find_setContent (files : FileSystem) (id : FileId) (content : Bytes) (text : String) :
    (files.setContent id content).find text = files.find text := rfl

theorem content_setContent (files : FileSystem) (id : FileId) (content : Bytes) :
    ((files.setContent id content).file id).content = content := by
  rw [setContent, file_setFile_self]

/-- What writing a file does: the file that is there gets another content, or a new one is
made at a free place. -/
theorem write_eq_ok {files after : FileSystem} {text : String} {content : Bytes}
    (written : files.write text content = .ok after) :
    exists directory name, files.locate text = .ok ⟨directory, .name name, false⟩ ∧
      ((exists id, files.lookUp directory name = .ok (some (.file id)) ∧
          after = files.setContent id content) ∨
        (files.lookUp directory name = .ok none ∧
          after = (files.addFile (directory ++ [name])
            { content, permissions := plainPermissions }).2)) := by
  unfold write at written
  rcases Outcome.bind_eq_ok_iff.mp written with ⟨⟨directory, last, slash⟩, located, rest⟩
  cases last with
  | here => cases rest
  | name name =>
      cases slash with
      | true => cases rest
      | false =>
          refine ⟨directory, name, located, ?_⟩
          rcases Outcome.bind_eq_ok_iff.mp rest with ⟨entry, looked, done⟩
          cases entry with
          | none =>
              cases done
              exact Or.inr ⟨looked, rfl⟩
          | some entry =>
              cases entry with
              | directory => cases done
              | file id =>
                  by_cases writable : (files.file id).isWritable = true
                  · simp only [writable, Bool.not_true, Bool.false_eq_true, if_false] at done
                    cases done
                    exact Or.inl ⟨id, looked, rfl⟩
                  · simp only [writable, Bool.not_false, if_true] at done
                    cases done

/-- What was written is found under the path that was asked for. -/
theorem find_of_write {files after : FileSystem} {text : String} {content : Bytes}
    (written : files.write text content = .ok after) :
    exists id, after.find text = .ok (.file id) ∧ (after.file id).content = content := by
  rcases write_eq_ok written with
    ⟨directory, name, located, ⟨id, looked, rfl⟩ | ⟨looked, rfl⟩⟩
  · have present : files.find text = .ok (.file id) := by
      rw [find, located, Outcome.ok_bind]
      simp only [looked, Outcome.ok_bind]
      rfl
    exact ⟨id, (find_setContent files id content text).trans present,
      content_setContent files id content⟩
  · refine ⟨files.nextFile, find_of_addFile located looked _, ?_⟩
    simp [addFile]

/-- What may be opened for reading is what the path leads to. -/
theorem find_of_findReadable {files : FileSystem} {text : String} {entry : Entry}
    (readable : files.findReadable text = .ok entry) : files.find text = .ok entry := by
  rcases Outcome.bind_eq_ok_iff.mp readable with ⟨other, found, rest⟩
  cases other with
  | directory =>
      cases rest
      exact found
  | file id =>
      by_cases denied : !(files.file id).isReadable
      · simp only [denied, if_true] at rest
        cases rest
      · simp only [denied] at rest
        cases rest
        exact found

/-- A file that was written and may be read shows what was written. -/
theorem content_of_write {files after : FileSystem} {text : String} {content : Bytes}
    {stored : StoredFile} (written : files.write text content = .ok after)
    (read : after.read text = .ok stored) : stored.content = content := by
  rcases find_of_write written with ⟨id, found, same⟩
  rcases Outcome.bind_eq_ok_iff.mp read with ⟨entry, readable, shown⟩
  have present := find_of_findReadable readable
  rw [found] at present
  cases present
  cases shown
  exact same

end FileSystem
end MappedTables
