import MappedTables.Proofs.Storage.Reachable
import MappedTables.Proofs.Text.Lines
import MappedTables.Segment.Object

namespace MappedTables

/-!
Which configs mean the same object.

The object of a segment is where its path leads, and two configs mean the same
object if their paths lead to the same end.  Names of shared memory objects are
paths into one directory, in which a valid name is a single step; so two such
names lead to the same end exactly if they are the same but for the slash that
either may begin with.
-/

/-- The end of a path into the directory of shared memory objects. -/
def sharedMemoryTarget (name : String) : Target :=
  if name = "." then ⟨["dev", "shm"], .here, false⟩
  else if name = ".." then ⟨["dev"], .here, false⟩
  else ⟨["dev", "shm"], .name name, false⟩

theorem sharedMemoryTarget_inj {one other : String}
    (same : sharedMemoryTarget one = sharedMemoryTarget other) : one = other := by
  unfold sharedMemoryTarget at same
  grind

namespace SegmentConfig

/-- The name without the slash that it may begin with. -/
def bareName (config : SegmentConfig) : List Char :=
  match config.name.toList with
  | '/' :: rest => rest
  | characters => characters

theorem toList_sharedMemoryName (config : SegmentConfig) :
    config.sharedMemoryName.toList = '/' :: config.bareName := by
  unfold sharedMemoryName bareName
  cases characters : config.name.toList with
  | nil => simp [characters]
  | cons first rest =>
      by_cases slash : first = '/'
      · simp [characters, slash]
      · simp [characters, slash]

theorem validate_eq_ok_iff {config : SegmentConfig} :
    config.validate = .ok () <->
      config.name ≠ "" ∧ Char.ofNat 0 ∉ config.name.toList ∧
        (config.backing = .sharedMemory ->
          isSharedMemoryName config.sharedMemoryName = true) := by
  unfold validate
  by_cases empty : config.name = ""
  · simp [empty]
  · by_cases nul : Char.ofNat 0 ∈ config.name.toList
    · simp [empty, nul]
    · simp [empty, nul]

/-- What is asked of the name of a shared memory object. -/
structure NamesObject (name : List Char) : Prop where
  nonempty : name ≠ []
  unbroken : '/' ∉ name
  plain : Char.ofNat 0 ∉ name
  short : (String.ofList name).utf8ByteSize <= Path.nameLimit

theorem namesObject_of_validate {config : SegmentConfig} (valid : config.validate = .ok ())
    (shared : config.backing = .sharedMemory) : NamesObject config.bareName := by
  rcases validate_eq_ok_iff.mp valid with ⟨_, plain, fits⟩
  have characters := toList_sharedMemoryName config
  have fits := fits shared
  unfold isSharedMemoryName at fits
  rw [characters] at fits
  have text : config.sharedMemoryName = "/" ++ String.ofList config.bareName := by
    have same := String.ofList_toList (s := config.sharedMemoryName)
    rw [characters] at same
    rw [<- same]
    exact (String.ofList_append : String.ofList (['/'] ++ config.bareName) = _)
  have size : config.sharedMemoryName.utf8ByteSize =
      1 + (String.ofList config.bareName).utf8ByteSize := by
    rw [text, String.utf8ByteSize_append]
    rfl
  simp only [nameLimit, size, List.drop_succ_cons, List.drop_zero, Bool.and_eq_true,
    decide_eq_true_eq, Bool.not_eq_true', List.contains_eq_mem, decide_eq_false_iff_not] at fits
  rcases fits with ⟨⟨least, most⟩, unbroken⟩
  refine ⟨?_, unbroken, ?_, ?_⟩
  · intro empty
    rw [empty] at least
    exact absurd least (by decide)
  · intro member
    apply plain
    unfold bareName at member
    split at member
    · rename_i rest start
      rw [start]
      exact List.mem_cons_of_mem _ member
    · exact member
  · unfold Path.nameLimit
    omega

variable {files : FileSystem}

/-- The path of a shared memory object, read name by name. -/
theorem ofText_sharedMemoryPath {name : String} {bare : List Char} (named : NamesObject bare)
    (characters : name.toList = '/' :: bare) :
    Path.ofText (sharedMemoryDirectory ++ name) =
      .ok ⟨true, ["dev", "shm", String.ofList bare], false⟩ := by
  have whole : (sharedMemoryDirectory ++ name).toList =
      ['/', 'd', 'e', 'v', '/', 's', 'h', 'm'] ++ '/' :: bare := by
    rw [String.toList_append, characters]
    rfl
  have text : sharedMemoryDirectory ++ name = "/dev/shm/" ++ String.ofList bare := by
    rw [<- String.toList_inj, whole, String.toList_append]
    simp
  have size : ¬ Path.textLimit < (sharedMemoryDirectory ++ name).utf8ByteSize := by
    have short := named.short
    have front : ("/dev/shm/" : String).utf8ByteSize = 9 := by decide
    rw [text, String.utf8ByteSize_append, front]
    unfold Path.nameLimit at short
    unfold Path.textLimit
    omega
  have plain : (sharedMemoryDirectory ++ name).toList.contains (Char.ofNat 0) = false := by
    have rest := named.plain
    rw [whole, List.contains_eq_mem, decide_eq_false_iff_not]
    simp [rest]
  have names : Path.namesOf (sharedMemoryDirectory ++ name).toList =
      ["dev", "shm", String.ofList bare] := by
    have rest := pieces_of_notMem named.unbroken
    have cut : pieces '/' (['/', 'd', 'e', 'v', '/', 's', 'h', 'm'] ++ '/' :: bare) =
        [[], ['d', 'e', 'v'], ['s', 'h', 'm'], bare] := by
      simp [pieces_cons, rest, consFirst]
    have nonempty := named.nonempty
    unfold Path.namesOf
    rw [whole, cut]
    simp [nonempty]
  have last : (sharedMemoryDirectory ++ name).toList.getLast? ≠ some '/' := by
    rcases List.eq_nil_or_concat bare with empty | ⟨front, character, rfl⟩
    · exact absurd empty named.nonempty
    · intro slash
      rw [whole, List.concat_eq_append, <- List.cons_append, <- List.append_assoc,
        List.getLast?_concat] at slash
      apply named.unbroken
      simp [Option.some.inj slash]
  have start : (sharedMemoryDirectory ++ name).toList.head? = some '/' := by
    rw [whole]
    rfl
  have nonempty : (sharedMemoryDirectory ++ name).toList.isEmpty = false := by
    rw [whole]
    rfl
  unfold Path.ofText
  simp only [plain, nonempty, size, names, last, start, Bool.false_eq_true, if_false,
    decide_true, decide_false]

/-- A name is entered that leads to a directory. -/
theorem enter_of_directory {directory : Place} {name : String} (undotted : name ≠ "." ∧ name ≠ "..")
    (short : name.utf8ByteSize <= Path.nameLimit)
    (present : files.entryAt? (directory ++ [name]) = some .directory) :
    files.enter directory name = .ok (directory ++ [name]) := by
  unfold FileSystem.enter
  rw [if_neg undotted.1, if_neg undotted.2, FileSystem.lookUp_of_short short, Outcome.ok_bind,
    present]
  rfl

/-- The path of a shared memory object ends in their directory. -/
theorem locate_sharedMemoryPath (reachable : files.Reachable) {name : String} {bare : List Char}
    (named : NamesObject bare) (characters : name.toList = '/' :: bare) :
    files.locate (sharedMemoryDirectory ++ name) =
      .ok (sharedMemoryTarget (String.ofList bare)) := by
  have device : files.enter [] "dev" = .ok ["dev"] :=
    enter_of_directory (by decide) (by decide) (reachable.directory (by decide))
  have memory : files.enter ["dev"] "shm" = .ok ["dev", "shm"] :=
    enter_of_directory (by decide) (by decide) (reachable.directory (by decide))
  have followed : ["dev", "shm"].foldlM files.enter [] = .ok ["dev", "shm"] := by
    rw [List.foldlM_cons, device, Outcome.ok_bind, List.foldlM_cons, memory]
    rfl
  unfold FileSystem.locate
  rw [ofText_sharedMemoryPath named characters, Outcome.ok_bind]
  simp only [List.getLast?_cons_cons, List.getLast?_singleton, List.dropLast_cons_cons,
    List.dropLast_singleton, if_true, followed, Outcome.ok_bind]
  by_cases dot : String.ofList bare = "."
  · rw [if_pos (Or.inl dot), dot]
    rfl
  · by_cases dots : String.ofList bare = ".."
    · rw [if_pos (Or.inr dots), dots]
      rfl
    · rw [if_neg (not_or.mpr ⟨dot, dots⟩), sharedMemoryTarget, if_neg dot, if_neg dots]
      rfl

/-- Both paths lead to the same end. -/
def SameObject (files : FileSystem) (one other : SegmentConfig) : Prop :=
  exists target, files.locate one.objectPath = .ok target ∧
    files.locate other.objectPath = .ok target

/-- Whether configs mean the same object depends on nothing but where paths lead. -/
theorem sameObject_iff {after : FileSystem}
    (paths : forall text target, after.locate text = .ok target <-> files.locate text = .ok target)
    (one other : SegmentConfig) : SameObject after one other <-> SameObject files one other := by
  unfold SameObject
  simp only [paths]

/-- Valid names of shared memory objects mean the same object if and only if they agree up to
the slash that they may begin with. -/
theorem sameObject_iff_bareName_eq (reachable : files.Reachable) {one other : SegmentConfig}
    (oneValid : one.validate = .ok ()) (oneShared : one.backing = .sharedMemory)
    (otherValid : other.validate = .ok ()) (otherShared : other.backing = .sharedMemory) :
    SameObject files one other <-> one.bareName = other.bareName := by
  have onePath : one.objectPath = sharedMemoryDirectory ++ one.sharedMemoryName := by
    rw [objectPath, oneShared]
  have otherPath : other.objectPath = sharedMemoryDirectory ++ other.sharedMemoryName := by
    rw [objectPath, otherShared]
  have oneLocated := locate_sharedMemoryPath reachable
    (namesObject_of_validate oneValid oneShared) (toList_sharedMemoryName one)
  have otherLocated := locate_sharedMemoryPath reachable
    (namesObject_of_validate otherValid otherShared) (toList_sharedMemoryName other)
  unfold SameObject
  rw [onePath, otherPath, oneLocated, otherLocated]
  constructor
  · rintro ⟨target, first, second⟩
    cases first
    exact String.ofList_injective (sharedMemoryTarget_inj (Except.ok.inj second)).symm
  · intro same
    rw [same]
    exact ⟨_, rfl, rfl⟩

end SegmentConfig
end MappedTables
