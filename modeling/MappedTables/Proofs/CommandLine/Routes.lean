import MappedTables.Proofs.CommandLine.Processes
import MappedTables.Proofs.Storage.Reachable

namespace MappedTables
namespace CommandLine

/-!
Two ways to publish a source.

A source can be published at once, or it can be built into a file and the file
be published.  On the second way the octets leave a process and come back into
another one, where they stand at another address and are checked as if nothing
were known of them.  Neither makes a difference.  The only thing that the second
way adds is the file in between, and the only harm that it can do is to stand in
the way of the segment, or to be kept where it can be written and not be read.
-/

/-- Go on with the files that a run leaves behind, if it succeeds. -/
def followedBy (ended : Outcome × FileSystem)
    (next : FileSystem -> Outcome × FileSystem) : Outcome × FileSystem :=
  if ended.1.code = 0 then next ended.2 else ended

/-- Two ways to publish a source as a segment come to the same end. -/
inductive EndAlike (source : String) (segment : SegmentConfig) (files : FileSystem)
    (one other : Outcome × FileSystem) : Prop where
  /-- Both print the same line and leave the same object behind. -/
  | published (draft : Draft) (place : Place) (stored : StoredFile)
      (parsed : Draft.ofFile files source = .ok draft)
      (free : segment.objectPlace files = .ok place)
      (content : stored.content = draft.serialized.toArray)
      (printed : one.1 = .printed (publishedLine segment stored.content.size))
      (otherPrinted : other.1 = .printed (publishedLine segment stored.content.size))
      (object : one.2.fileAt? segment.objectPath = some stored)
      (otherObject : other.2.fileAt? segment.objectPath = some stored)
  /-- Both fail because of the source or, if that is in order, because of the segment, and there is
  no object that was not there before. -/
  | refused (error : Error)
      (cause : Draft.ofFile files source = .error error ∨
        (exists draft, Draft.ofFile files source = .ok draft) ∧
          segment.objectPlace files = .error error)
      (failed : one.1 = .failed error) (otherFailed : other.1 = .failed error)
      (object : one.2.fileAt? segment.objectPath = files.fileAt? segment.objectPath)
      (otherObject : other.2.fileAt? segment.objectPath = files.fileAt? segment.objectPath)

/-- A path at which a file can be kept before it is published as a segment. -/
structure Between (segment : SegmentConfig) (output : String) (files : FileSystem) : Prop where
  writable : exists after, files.write output #[] = .ok after
  /-- A file that is there already can be read. -/
  readable : forall stored, files.fileAt? output = some stored -> stored.isReadable = true
  /-- A file that is there already is not the object of the segment. -/
  apart : forall id, files.find output = .ok (.file id) ->
    files.find segment.objectPath ≠ .ok (.file id)
  /-- A file that has to be made is neither where the object belongs nor on the way to it. -/
  aside : forall place, files.vacancy output = .ok place ->
    place ∉ files.placesOn segment.objectPath

variable {files : FileSystem} {source output : String} {segment : SegmentConfig}

/-- A file that has to be made can be kept anywhere but on the way to the object. -/
theorem Between.of_vacancy {place : Place} (vacant : files.vacancy output = .ok place)
    (aside : place ∉ files.placesOn segment.objectPath) : Between segment output files := by
  rcases FileSystem.vacancy_eq_ok_iff.mp vacant with ⟨directory, name, located, looked, rfl⟩
  rcases FileSystem.lookUp_eq_none_iff.mp looked with ⟨short, free⟩
  have missing := FileSystem.find_of_free located short free
  constructor
  · exact ⟨_, FileSystem.write_of_vacancy vacant _⟩
  · intro stored found
    unfold FileSystem.fileAt? at found
    rw [missing] at found
    cases found
  · intro id found
    rw [missing] at found
    cases found
  · intro other same
    rw [vacant] at same
    cases same
    exact aside

/-- Publishing a source comes to the same end as building it into a file and publishing the file,
whatever the source holds, whatever the segment is, and wherever the three processes have their
memory, as long as the file in between is kept aside. -/
theorem publishing_routes_end_alike (numbered : files.Numbered)
    {direct building publishing : List String}
    (directAsked : Request.ofArguments direct = .run (.publish source .source segment))
    (buildingAsked : Request.ofArguments building = .run (.build source output))
    (publishingAsked : Request.ofArguments publishing = .run (.publish output .binary segment))
    (between : Between segment output files) {one two three : Nat}
    (oneUsable : UsableBase one) (twoUsable : UsableBase two) (threeUsable : UsableBase three) :
    EndAlike source segment files (runFrom one direct files)
      (followedBy (runFrom two building files) (runFrom three publishing)) := by
  cases parsed : Draft.ofFile files source with
  | error error =>
      rw [runFrom_publish_of_unparsed directAsked parsed,
        runFrom_build_of_error buildingAsked parsed]
      exact .refused error (.inl parsed) rfl rfl rfl rfl
  | ok draft =>
      rcases between.writable with ⟨_, tried⟩
      rcases FileSystem.exists_write_of_write tried draft.serialized.toArray with
        ⟨built, written⟩
      rcases runFrom_build_of_ok buildingAsked twoUsable parsed written with ⟨size, builds⟩
      rcases FileSystem.read_of_write written between.readable with ⟨stored, read, content⟩
      have gives := gives_of_source oneUsable parsed
      have givesBack := gives_of_binary threeUsable parsed read content
      -- From here on the two ways differ in the files only, and the path does not show how.
      have same := segment.objectPlace_eq_of_alike (.of_write written between.aside)
      have goesOn : followedBy (runFrom two building files) (runFrom three publishing) =
          runFrom three publishing built := by
        rw [builds]
        rfl
      rw [goesOn]
      cases found : segment.objectPlace files with
      | error error =>
          rw [runFrom_publish_of_error directAsked gives found,
            runFrom_publish_of_error publishingAsked givesBack (same.trans found)]
          exact .refused error (.inr ⟨⟨draft, parsed⟩, found⟩) rfl rfl rfl
            (FileSystem.fileAt?_of_write numbered written between.aside between.apart)
      | ok place =>
          rcases runFrom_publish_of_ok directAsked gives found with ⟨after, first, object⟩
          rcases runFrom_publish_of_ok publishingAsked givesBack (same.trans found) with
            ⟨otherAfter, second, otherObject⟩
          rw [publishedFile_imageAt segment draft _ (UInt64.ofNat one)] at second otherObject
          rw [first, second]
          exact .published draft place _ parsed found rfl rfl rfl object otherObject

/-- A working directory with a source in it. -/
def sourceFiles : FileSystem :=
  (hostHolding (Utf8.encode "VERSION=1\n".toList)).files

theorem publishing_routes_end_alike_sample :
    sourceFiles.Numbered ∧
      Request.ofArguments ["publish", "--source", "kb"] =
        .run (.publish "kb" .source unnamedSegment) ∧
      Request.ofArguments ["build", "kb", "out"] = .run (.build "kb" "out") ∧
      Request.ofArguments ["publish", "out"] = .run (.publish "out" .binary unnamedSegment) ∧
      Between unnamedSegment "out" sourceFiles ∧
      UsableBase (1 <<< 46) ∧ UsableBase 4096 ∧ UsableBase 8192 ∧
      EndAlike "kb" unnamedSegment sourceFiles
        (runFrom (1 <<< 46) ["publish", "--source", "kb"] sourceFiles)
        (followedBy (runFrom 4096 ["build", "kb", "out"] sourceFiles)
          (runFrom 8192 ["publish", "out"])) := by
  have initial := (FileSystem.Reachable.initial ["work"]).numbered
  have numbered : sourceFiles.Numbered :=
    initial.of_turns (Nat.le_succ _) (FileSystem.addFile_change (by decide) _).turn
  have direct : Request.ofArguments ["publish", "--source", "kb"] =
      .run (.publish "kb" .source unnamedSegment) := by decide +kernel
  have building : Request.ofArguments ["build", "kb", "out"] = .run (.build "kb" "out") := by
    decide +kernel
  have publishing : Request.ofArguments ["publish", "out"] =
      .run (.publish "out" .binary unnamedSegment) := by decide +kernel
  have vacant : sourceFiles.vacancy "out" = .ok ["work", "out"] := by decide +kernel
  have between : Between unnamedSegment "out" sourceFiles :=
    .of_vacancy vacant (by decide +kernel)
  have one : UsableBase (1 <<< 46) := ⟨by decide, by decide, by decide⟩
  have two : UsableBase 4096 := ⟨by decide, by decide, by decide⟩
  have three : UsableBase 8192 := ⟨by decide, by decide, by decide⟩
  exact ⟨numbered, direct, building, publishing, between, one, two, three,
    publishing_routes_end_alike numbered direct building publishing between one two three⟩

/-- The source with a file beside it that can be written and not be read. -/
def sealedFiles : FileSystem :=
  (sourceFiles.addFile ["work", "out"] { permissions := 0o200 }).2

/-- A file in between that is not kept aside makes a difference.  Where it is made on the way to
the object, the way is blocked for another reason than before; and where it was there already and
cannot be read, the source is published at once and not by way of the file. -/
theorem publishing_routes_part :
    (run ["publish", "--source", "kb", "-f", "dir/seg"] sourceFiles).1 =
        .failed (.io .creatingSegment (.os .noEntry)) ∧
      (followedBy (run ["build", "kb", "dir"] sourceFiles)
        (run ["publish", "dir", "-f", "dir/seg"])).1 =
          .failed (.io .creatingSegment (.os .notDirectory)) ∧
      (run ["publish", "--source", "kb"] sealedFiles).1 =
        .printed "Published '/sharedkb' (shm, 104 bytes)\n" ∧
      (followedBy (run ["build", "kb", "out"] sealedFiles) (run ["publish", "out"])).1 =
        .failed (.io (.reading "out") (.os .accessDenied)) := by
  have usable : UsableBase (1 <<< 46) := ⟨by decide, by decide, by decide⟩
  have parsed : Draft.ofFile sourceFiles "kb" = .ok { version := "1" } := by decide +kernel
  have gives := gives_of_source usable parsed
  let octets : Bytes := (Draft.serialized { version := "1" }).toArray
  let behind : SegmentConfig := .inFile "/sharedkb" "dir/seg"
  refine ⟨?_, ?_, ?_, by decide +kernel⟩
  · have asked : Request.ofArguments ["publish", "--source", "kb", "-f", "dir/seg"] =
        .run (.publish "kb" .source behind) := by decide +kernel
    have refused : behind.objectPlace sourceFiles =
        .error (.io .creatingSegment (.os .noEntry)) := by decide +kernel
    rw [run_eq_runFrom, runFrom_publish_of_error asked gives refused]
  · have asked : Request.ofArguments ["publish", "dir", "-f", "dir/seg"] =
        .run (.publish "dir" .binary behind) := by decide +kernel
    have building : Request.ofArguments ["build", "kb", "dir"] = .run (.build "kb" "dir") := by
      decide +kernel
    have vacant : sourceFiles.vacancy "dir" = .ok ["work", "dir"] := by decide +kernel
    have written := FileSystem.write_of_vacancy vacant octets
    have absent : sourceFiles.fileAt? "dir" = none := by decide +kernel
    rcases FileSystem.read_of_write written (by rw [absent]; nofun) with ⟨stored, read, content⟩
    rcases runFrom_build_of_ok building usable parsed written with ⟨size, builds⟩
    have refused : behind.objectPlace (sourceFiles.addFile ["work", "dir"]
        { content := octets, permissions := FileSystem.plainPermissions }).2 =
          .error (.io .creatingSegment (.os .notDirectory)) := by decide +kernel
    have loaded := gives_of_binary usable parsed read content
    rw [run_eq_runFrom, builds]
    change (run ["publish", "dir", "-f", "dir/seg"] _).1 = _
    rw [run_eq_runFrom, runFrom_publish_of_error asked loaded refused]
  · have asked : Request.ofArguments ["publish", "--source", "kb"] =
        .run (.publish "kb" .source unnamedSegment) := by decide +kernel
    have parsed : Draft.ofFile sealedFiles "kb" = .ok { version := "1" } := by decide +kernel
    have free : unnamedSegment.objectPlace sealedFiles = .ok ["dev", "shm", "sharedkb"] := by
      decide +kernel
    rcases runFrom_publish_of_ok asked (gives_of_source usable parsed) free with
      ⟨after, ended, _⟩
    have printed : publishedLine unnamedSegment octets.size =
        "Published '/sharedkb' (shm, 104 bytes)\n" := by decide +kernel
    rw [run_eq_runFrom, ended]
    exact congrArg Outcome.printed printed

end CommandLine
end MappedTables
