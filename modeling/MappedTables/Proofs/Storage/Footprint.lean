import MappedTables.Proofs.Storage.Changes

namespace MappedTables
namespace FileSystem

/-!
What a path depends on.

Following a path looks up one place after the other, until it comes to its end
or to a name that cannot be entered.  What the path leads to, and whether a file
can be made there, depends on what is at these places and on nothing else in the
tree.  So a file that is written elsewhere makes no difference to the path.
-/

/-- The places that are looked up when names are followed from a directory.  Names behind one
that cannot be entered are not looked up; a dot or two dots are listed as if they were names. -/
def placesFrom (files : FileSystem) (directory : Place) : List String -> List Place
  | [] => []
  | name :: rest =>
      (directory ++ [name]) ::
        match files.enter directory name with
        | .error _ => []
        | .ok reached => files.placesFrom reached rest

/-- The places that are looked up when a path is followed to its end. -/
def placesOn (files : FileSystem) (text : String) : List Place :=
  match Path.ofText text with
  | .error _ => []
  | .ok path =>
      files.placesFrom (if path.absolute then [] else files.workingDirectory) path.names

/-- The free place that a path leads to, at which a file can be made. -/
def vacancy (files : FileSystem) (text : String) : Except IoFault Place := do
  let target ← files.locate text
  match target.last with
  | .here => throw (.os .fileExists)
  | .name name =>
      if target.trailingSlash then
        throw (.os .isDirectory)
      match ← files.lookUp target.directory name with
      | some _ => throw (.os .fileExists)
      | none => return target.directory ++ [name]

/-- The other tree looks the same to whoever follows the path. -/
structure AlikeAlong (text : String) (files other : FileSystem) : Prop where
  workingDirectory_eq : other.workingDirectory = files.workingDirectory
  entryAt?_eq : forall place, place ∈ files.placesOn text ->
    other.entryAt? place = files.entryAt? place

variable {files other after : FileSystem} {text output : String} {directory : Place}
  {name : String} {place : Place} {content : Bytes}

/-! ## Following names -/

theorem lookUp_congr
    (same : other.entryAt? (directory ++ [name]) = files.entryAt? (directory ++ [name])) :
    other.lookUp directory name = files.lookUp directory name := by
  unfold lookUp
  rw [same]

theorem enter_congr
    (same : other.entryAt? (directory ++ [name]) = files.entryAt? (directory ++ [name])) :
    other.enter directory name = files.enter directory name := by
  unfold enter
  rw [lookUp_congr same]

theorem foldlM_enter_congr {front back : List String} {start : Place}
    (same : forall place, place ∈ files.placesFrom start (front ++ back) ->
      other.entryAt? place = files.entryAt? place) :
    front.foldlM other.enter start = front.foldlM files.enter start := by
  induction front generalizing start with
  | nil => rfl
  | cons name rest ih =>
      have first := enter_congr (same _ List.mem_cons_self)
      rw [List.foldlM_cons, List.foldlM_cons, first]
      cases entered : files.enter start name with
      | error fault => rfl
      | ok reached =>
          refine ih fun place member => same place (List.mem_cons_of_mem _ ?_)
          rw [entered]
          exact member

/-- The name behind those that have been followed is looked up where they lead. -/
theorem mem_placesFrom_of_foldlM {front back : List String} {start : Place}
    (followed : front.foldlM files.enter start = .ok directory) :
    directory ++ [name] ∈ files.placesFrom start (front ++ name :: back) := by
  induction front generalizing start with
  | nil =>
      cases followed
      exact List.mem_cons_self
  | cons first rest ih =>
      rw [List.foldlM_cons] at followed
      rcases Outcome.bind_eq_ok_iff.mp followed with ⟨reached, entered, others⟩
      rw [List.cons_append, placesFrom, entered]
      exact List.mem_cons_of_mem _ (ih others)

/-! ## Following paths -/

/-- The last name of a path is looked up too. -/
theorem mem_placesOn_of_locate {slash : Bool}
    (located : files.locate text = .ok ⟨directory, .name name, slash⟩) :
    directory ++ [name] ∈ files.placesOn text := by
  unfold locate at located
  rcases Outcome.bind_eq_ok_iff.mp located with ⟨path, read, rest⟩
  unfold placesOn
  rw [read]
  cases last : path.names.getLast? with
  | none =>
      simp only [last] at rest
      cases rest
  | some final =>
      simp only [last] at rest
      rcases Outcome.bind_eq_ok_iff.mp rest with ⟨reached, followed, ended⟩
      rcases List.getLast?_eq_some_iff.mp last with ⟨front, split⟩
      rw [split, List.dropLast_concat] at followed
      by_cases dots : final = "." ∨ final = ".."
      · rw [if_pos dots] at ended
        rcases Outcome.bind_eq_ok_iff.mp ended with ⟨_, _, same⟩
        cases same
      · rw [if_neg dots] at ended
        cases ended
        simp only [split]
        exact mem_placesFrom_of_foldlM followed

namespace AlikeAlong

variable (alike : AlikeAlong text files other)
include alike

theorem locate_eq : other.locate text = files.locate text := by
  have places := alike.entryAt?_eq
  unfold placesOn at places
  unfold locate
  rw [alike.workingDirectory_eq]
  cases read : Path.ofText text with
  | error fault => rfl
  | ok path =>
      simp only [read, Outcome.ok_bind] at places ⊢
      cases last : path.names.getLast? with
      | none => rfl
      | some final =>
          rcases List.getLast?_eq_some_iff.mp last with ⟨front, split⟩
          simp only [split, List.dropLast_concat] at places ⊢
          rw [foldlM_enter_congr places]
          cases followed : front.foldlM files.enter
              (if path.absolute then [] else files.workingDirectory) with
          | error fault => rfl
          | ok reached =>
              simp only [Outcome.ok_bind, enter_congr (places _ (mem_placesFrom_of_foldlM followed))]

theorem lookUp_eq {slash : Bool}
    (located : files.locate text = .ok ⟨directory, .name name, slash⟩) :
    other.lookUp directory name = files.lookUp directory name :=
  lookUp_congr (alike.entryAt?_eq _ (mem_placesOn_of_locate located))

theorem find_eq : other.find text = files.find text := by
  unfold find
  rw [alike.locate_eq]
  cases located : files.locate text with
  | error fault => rfl
  | ok target =>
      rcases target with ⟨directory, last, slash⟩
      cases last with
      | here => rfl
      | name name => simp only [Outcome.ok_bind, alike.lookUp_eq located]

theorem vacancy_eq : other.vacancy text = files.vacancy text := by
  unfold vacancy
  rw [alike.locate_eq]
  cases located : files.locate text with
  | error fault => rfl
  | ok target =>
      rcases target with ⟨directory, last, slash⟩
      cases last with
      | here => rfl
      | name name => simp only [Outcome.ok_bind, alike.lookUp_eq located]

end AlikeAlong

/-! ## Making files -/

/-- Creating a file makes it at the vacancy, or fails as there is none. -/
theorem create_eq (files : FileSystem) (text : String) (permissions : Nat) :
    files.create text permissions = (files.vacancy text).map fun place =>
      files.addFile place { permissions := grantedPermissions permissions } := by
  unfold create vacancy
  cases files.locate text with
  | error fault => rfl
  | ok target =>
      rcases target with ⟨directory, last, slash⟩
      cases last with
      | here => rfl
      | name name =>
          cases slash with
          | true => rfl
          | false =>
              simp only [Outcome.ok_bind]
              cases files.lookUp directory name with
              | error fault => rfl
              | ok entry =>
                  cases entry with
                  | none => rfl
                  | some entry => rfl

theorem vacancy_eq_ok_iff :
    files.vacancy text = .ok place <->
      exists directory name, files.locate text = .ok ⟨directory, .name name, false⟩ ∧
        files.lookUp directory name = .ok none ∧ place = directory ++ [name] := by
  unfold vacancy
  rw [Outcome.bind_eq_ok_iff]
  constructor
  · rintro ⟨⟨directory, last, slash⟩, located, rest⟩
    cases last with
    | here => cases rest
    | name name =>
        cases slash with
        | true => cases rest
        | false =>
            rcases Outcome.bind_eq_ok_iff.mp rest with ⟨entry, looked, made⟩
            cases entry with
            | some entry => cases made
            | none =>
                cases made
                exact ⟨directory, name, located, looked, rfl⟩
  · rintro ⟨directory, name, located, looked, rfl⟩
    refine ⟨_, located, ?_⟩
    simp only [looked, Outcome.ok_bind]
    rfl

/-! ## Writing files -/

theorem write_of_vacancy (vacant : files.vacancy output = .ok place) (content : Bytes) :
    files.write output content =
      .ok (files.addFile place { content, permissions := plainPermissions }).2 := by
  rcases vacancy_eq_ok_iff.mp vacant with ⟨directory, name, located, looked, rfl⟩
  unfold write
  rw [located, Outcome.ok_bind]
  simp only [looked, Outcome.ok_bind]
  rfl

/-- Whether a file can be written does not depend on what is written to it. -/
theorem exists_write_of_write (written : files.write output content = .ok after)
    (octets : Bytes) : exists after, files.write output octets = .ok after := by
  rcases write_eq_ok written with ⟨directory, name, located, _⟩
  unfold write at written ⊢
  rw [located, Outcome.ok_bind] at written ⊢
  rcases Outcome.bind_eq_ok_iff.mp written with ⟨entry, looked, done⟩
  simp only [looked, Outcome.ok_bind]
  cases entry with
  | none => exact ⟨_, rfl⟩
  | some entry =>
      cases entry with
      | directory => cases done
      | file id =>
          by_cases writable : (files.file id).isWritable = true
          · simp only [writable, Bool.not_true, Bool.false_eq_true, if_false]
            exact ⟨_, rfl⟩
          · simp only [writable, Bool.not_false, if_true] at done
            cases done

/-- What was written can be read, unless there was a file already that cannot be read. -/
theorem read_of_write (written : files.write output content = .ok after)
    (readable : forall stored, files.fileAt? output = some stored -> stored.isReadable = true) :
    exists stored, after.read output = .ok stored ∧ stored.content = content := by
  rcases find_of_write written with ⟨id, found, same⟩
  have allowed : (after.file id).isReadable = true := by
    rcases write_eq_ok written with ⟨directory, name, located, ⟨other, looked, rfl⟩ | ⟨looked, rfl⟩⟩
    · have present := find_eq_file_iff.mpr ⟨directory, name, located, looked⟩
      rw [find_setContent, present] at found
      cases found
      rw [isReadable_setContent]
      apply readable
      unfold fileAt?
      rw [present]
    · rw [find_of_addFile located looked] at found
      cases found
      simp only [addFile, file_setEntry, file_setFile_self]
      exact (by decide : plainPermissions.testBit 8 = true)
  refine ⟨after.file id, ?_, same⟩
  unfold read
  rw [findReadable_of_find found, if_pos allowed]
  rfl

theorem AlikeAlong.of_addFile (stored : StoredFile) (aside : place ∉ files.placesOn text) :
    AlikeAlong text files (files.addFile place stored).2 where
  workingDirectory_eq := rfl
  entryAt?_eq _ member := entryAt?_setEntry_of_ne _ _ _ _ fun same => aside (same ▸ member)

/-- A file that is written makes no difference to a path, unless it has to be made first and
the path looks its place up. -/
theorem AlikeAlong.of_write (written : files.write output content = .ok after)
    (aside : forall place, files.vacancy output = .ok place -> place ∉ files.placesOn text) :
    AlikeAlong text files after := by
  rcases write_eq_ok written with ⟨directory, name, located, ⟨id, _, rfl⟩ | ⟨looked, rfl⟩⟩
  · exact ⟨rfl, fun _ _ => rfl⟩
  · exact .of_addFile _ (aside _ (vacancy_eq_ok_iff.mpr ⟨directory, name, located, looked, rfl⟩))

/-- A file that is written is not what another path leads to. -/
theorem fileAt?_of_write (numbered : files.Numbered)
    (written : files.write output content = .ok after)
    (aside : forall place, files.vacancy output = .ok place -> place ∉ files.placesOn text)
    (apart : forall id, files.find output = .ok (.file id) -> files.find text ≠ .ok (.file id)) :
    after.fileAt? text = files.fileAt? text := by
  unfold fileAt?
  rw [(AlikeAlong.of_write written aside).find_eq]
  cases found : files.find text with
  | error fault => rfl
  | ok entry =>
      cases entry with
      | directory => rfl
      | file id =>
          refine congrArg some ?_
          rcases write_eq_ok written with
            ⟨directory, name, located, ⟨other, looked, rfl⟩ | ⟨looked, rfl⟩⟩
          · have present := find_eq_file_iff.mpr ⟨directory, name, located, looked⟩
            refine file_setFile_of_ne _ _ _ _ ?_
            rintro rfl
            exact apart id present found
          · exact (addFile_keeps files _ _).file_eq id (numbered.lt_of_find found)

end FileSystem
end MappedTables
