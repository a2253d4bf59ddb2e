import MappedTables.Proofs.CommandLine.Failures
import MappedTables.Proofs.Image.Canonical
import MappedTables.Proofs.Image.Presentation
import MappedTables.Proofs.Segment.Published

namespace MappedTables

/-!
What the writing commands come to in a process.

Every run of the program is a process of its own, and where a process has its
memory is up to the system.  An image stands at another address in every
process, but what leaves the process is the canonical form of the draft.  So
building and publishing come to the same end wherever the memory is: the source
is read, the file is stored, the object is made, and where one of these fails
nothing else is done.
-/

namespace CommandLine

/-- An address at which a process can have its memory. -/
structure UsableBase (address : Nat) : Prop where
  positive : 0 < address
  aligned : address % headerAlignment = 0
  low : address < 2 ^ 63

/-- The host of a process that starts with its memory free from an address on. -/
def newProcess (address : Nat) (files : FileSystem) : Host where
  files := files
  freeAddress := address

/-- How a run ends. -/
def Outcome.ofResult : Except Fault String -> Outcome
  | .ok output => .printed output
  | .error (.error error) => .failed error
  | .error (.abort reason) => .stopped reason

/-- Run the program in a process whose memory is free from an address on. -/
def runFrom (address : Nat) (arguments : List String) (files : FileSystem) :
    Outcome × FileSystem :=
  match Request.ofArguments arguments with
  | .refused => (.misused, files)
  | .showHelp => (.printed helpText, files)
  | .showVersion command => (.printed (versionText command), files)
  | .run command =>
      let (result, after) := command.run (newProcess address files)
      (.ofResult result, after.files)

/-- The image of a draft that stands at an address, ready to leave the process. -/
def imageAt (draft : Draft) (base : UInt64) : Image where
  span := { base, bytes := draft.serialized.toArray }

/-- What is printed about a file that was built. -/
def builtLine (output : String) (draft : Draft) (size : Nat) : String :=
  let version := draft.version
  let headRows := draft.length .head
  let dataRows := draft.length .data
  line s!"Built '{output}' (version '{version}', {headRows} head rows, {dataRows} data rows, {size} bytes)"

/-- What is printed about a segment that was published. -/
def publishedLine (segment : SegmentConfig) (size : Nat) : String :=
  line s!"Published '{segment.name}' ({segment.backing.name}, {size} bytes)"

variable {address : Nat} {files other after : FileSystem} {host : Host}
  {arguments : List String} {command : Command} {draft : Draft} {source output input : String}
  {kind : VersionedFile} {segment : SegmentConfig} {image : Image} {error : Error}

/-! ## Processes -/

/-- The program as it is run starts at one of these addresses. -/
theorem run_eq_runFrom (arguments : List String) (files : FileSystem) :
    run arguments files = runFrom (1 <<< 46) arguments files := by
  unfold run runFrom
  cases Request.ofArguments arguments with
  | refused => rfl
  | showHelp => rfl
  | showVersion command => rfl
  | run command =>
      have process : newProcess (1 <<< 46) files = { files } := rfl
      cases ran : command.run { files } with
      | mk result after =>
          cases result with
          | ok output => simp only [process, ran, Outcome.ofResult]
          | error fault =>
              cases fault with
              | error error => simp only [process, ran, Outcome.ofResult]
              | abort reason => simp only [process, ran, Outcome.ofResult]

theorem runFrom_of_command (asked : Request.ofArguments arguments = .run command) :
    runFrom address arguments files =
      (.ofResult (command.run (newProcess address files)).1,
        (command.run (newProcess address files)).2.files) := by
  unfold runFrom
  rw [asked]
  rfl

theorem fills_newProcess (address : Nat) (files : FileSystem) (size : Nat) :
    (newProcess address files).Fills size where
  roomy := Bool.false_ne_true
  sizes := rfl
  maps := rfl
  flushes := rfl

namespace UsableBase

variable (usable : UsableBase address)
include usable

theorem toNat_ofNat : (UInt64.ofNat address).toNat = address := by
  have low := usable.low
  rw [UInt64.toNat_ofNat', Nat.mod_eq_of_lt (by omega)]

theorem aligned_ofNat : (UInt64.ofNat address).toNat % headerAlignment = 0 := by
  rw [usable.toNat_ofNat]
  exact usable.aligned

theorem fitsAt (bounded : draft.Bounded) : draft.FitsAt (UInt64.ofNat address) := by
  refine bounded.fitsAt ?_ usable.aligned_ofNat ?_
  · intro zero
    have positive := usable.positive
    have value := usable.toNat_ofNat
    rw [zero] at value
    exact absurd value (Nat.ne_of_lt positive)
  · rw [usable.toNat_ofNat]
    exact usable.low

end UsableBase

/-! ## Images of drafts -/

theorem exists_kept_of_ofFile (parsed : Draft.ofFile files source = .ok draft) :
    exists history : DraftHistory, history.Kept ∧ history.draft = draft := by
  unfold Draft.ofFile at parsed
  cases read : files.read source with
  | error fault =>
      rw [read] at parsed
      cases parsed
  | ok stored =>
      simp only [read] at parsed
      cases characters : Utf8.characters? stored.content with
      | none =>
          rw [characters] at parsed
          cases parsed
      | some text =>
          simp only [characters] at parsed
          exact ⟨_, DraftHistory.kept_ofText parsed, rfl⟩

section Image

variable {history : DraftHistory} (kept : history.Kept)
include kept

/-- The image of a draft passes every check that is made before an image is published. -/
theorem publishable_imageAt {base : UInt64} (aligned : base.toNat % headerAlignment = 0) :
    (imageAt history.draft base).Publishable := by
  unfold imageAt
  rw [history.draft.serialized_eq]
  have bytes := history.draft.relocatedBytes_eq aligned
  exact
    { relocatable := (Image.relocatedBytes_eq_ok_iff.mp bytes).1
      valid := ⟨_, kept.bounded.ofSpan_eq .distances aligned,
        kept.valid (history.draft.legible_distances aligned)⟩ }

/-- Its octets are loaded as the image of the draft again. -/
theorem ofBytes_serialized {base : UInt64} (aligned : base.toNat % headerAlignment = 0) :
    Image.ofBytes base history.draft.serialized.toArray = .ok (imageAt history.draft base) := by
  unfold imageAt
  rw [history.draft.serialized_eq]
  exact kept.bounded.ofBytes_eq aligned

/-- What a draft is turned into in a process. -/
theorem relocatedImage_apply (usable : UsableBase host.freeAddress) :
    relocatedImage history.draft host =
      (.ok (imageAt history.draft (UInt64.ofNat host.freeAddress)), host) := by
  have bounded := kept.bounded
  have built := bounded.build_eq_ok _ usable.aligned_ofNat
  have relocated := (usable.fitsAt bounded).relocate_eq bounded
  unfold imageAt
  rw [relocatedImage, Outcome.bind_apply, history.draft.serialized_eq]
  change (Run.ofFault (history.draft.build (UInt64.ofNat host.freeAddress)) >>= fun image =>
    Run.ofExcept image.relocated) host = _
  rw [Outcome.bind_apply, built]
  change Run.ofExcept (Image.relocated _) host = _
  rw [Image.relocated, relocated]
  rfl

end Image

/-! ## Building -/

theorem build_of_error (failed : Draft.ofFile host.files source = .error error) :
    build source output host = (.error (.error error), host) := by
  rw [build, Outcome.bind_apply]
  change (Run.ofExcept (Draft.ofFile host.files source) >>= _) host = _
  rw [Outcome.bind_apply, failed]
  rfl

theorem build_of_ok {history : DraftHistory} (kept : history.Kept)
    (usable : UsableBase host.freeAddress)
    (parsed : Draft.ofFile host.files source = .ok history.draft)
    (written : host.files.write output history.draft.serialized.toArray = .ok after) :
    exists size, build source output host =
      (.ok (builtLine output history.draft size), { host with files := after }) := by
  have relocated := relocatedImage_apply kept usable
  have relocatable := (publishable_imageAt kept usable.aligned_ofNat).relocatable
  have bytes : (imageAt history.draft (UInt64.ofNat host.freeAddress)).span.bytes =
    history.draft.serialized.toArray := rfl
  generalize imageAt history.draft (UInt64.ofNat host.freeAddress) = image
    at relocated relocatable bytes
  have stores : image.writeTo host.files output = .ok after := by
    have taken := Image.relocatedBytes_eq_ok_iff.mpr ⟨relocatable, bytes.symm⟩
    rw [Image.writeTo, taken, Outcome.ok_bind, written]
    rfl
  have read : (get : Run Host) host = (.ok host, host) := rfl
  have draft : Run.ofExcept (.ok history.draft) host = (.ok history.draft, host) := rfl
  have files : Run.ofExcept (.ok after) host = (.ok after, host) := rfl
  refine ⟨image.capacity, ?_⟩
  rw [build]
  simp only [Outcome.bind_apply, read, parsed, draft, relocated, stores, files]
  rfl

section Build

variable (asked : Request.ofArguments arguments = .run (.build source output))
include asked

/-- A source that cannot be read as one is not built. -/
theorem runFrom_build_of_error (failed : Draft.ofFile files source = .error error) :
    runFrom address arguments files = (.failed error, files) := by
  have failed : Draft.ofFile (newProcess address files).files source = .error error := failed
  rw [runFrom_of_command asked, Command.run, build_of_error failed]
  rfl

/-- The file that was built holds the canonical form of the draft. -/
theorem runFrom_build_of_ok (usable : UsableBase address)
    (parsed : Draft.ofFile files source = .ok draft)
    (written : files.write output draft.serialized.toArray = .ok after) :
    exists size, runFrom address arguments files =
      (.printed (builtLine output draft size), after) := by
  rcases exists_kept_of_ofFile parsed with ⟨history, kept, rfl⟩
  have ran : exists size, build source output (newProcess address files) =
      (.ok (builtLine output history.draft size),
        { newProcess address files with files := after }) :=
    build_of_ok kept usable parsed written
  rcases ran with ⟨size, ran⟩
  refine ⟨size, ?_⟩
  rw [runFrom_of_command asked, Command.run, ran]
  rfl

end Build

/-! ## Publishing -/

/-- In a new process the file gives an image that can be published. -/
structure Gives (address : Nat) (files : FileSystem) (input : String) (kind : VersionedFile)
    (image : Image) : Prop where
  imaged : imageOfFile input kind (newProcess address files) =
    (.ok image, newProcess address files)
  publishable : image.Publishable

/-- A source gives the image of its draft. -/
theorem gives_of_source (usable : UsableBase address)
    (parsed : Draft.ofFile files source = .ok draft) :
    Gives address files source .source (imageAt draft (UInt64.ofNat address)) := by
  rcases exists_kept_of_ofFile parsed with ⟨history, kept, rfl⟩
  refine ⟨?_, publishable_imageAt kept usable.aligned_ofNat⟩
  change (Run.ofExcept (Draft.ofFile files source) >>= relocatedImage) _ = _
  rw [Outcome.bind_apply, parsed]
  exact relocatedImage_apply kept usable

/-- A file that holds the canonical form of a draft gives the image of the draft. -/
theorem gives_of_binary (usable : UsableBase address)
    (parsed : Draft.ofFile other source = .ok draft) {stored : StoredFile}
    (read : files.read input = .ok stored) (content : stored.content = draft.serialized.toArray) :
    Gives address files input .binary (imageAt draft (UInt64.ofNat address)) := by
  rcases exists_kept_of_ofFile parsed with ⟨history, kept, rfl⟩
  refine ⟨?_, publishable_imageAt kept usable.aligned_ofNat⟩
  change Run.ofExcept (Image.ofFile files (UInt64.ofNat address) input) _ = _
  rw [Image.ofFile, read]
  simp only [content, ofBytes_serialized kept usable.aligned_ofNat]
  rfl

/-- The object of a segment does not show where the image stood. -/
theorem publishedFile_imageAt (segment : SegmentConfig) (draft : Draft) (base other : UInt64) :
    segment.publishedFile (imageAt draft base) = segment.publishedFile (imageAt draft other) :=
  rfl

theorem publish_of_ok (segment : SegmentConfig)
    (imaged : imageOfFile input kind host = (.ok image, host)) :
    publish input kind segment host =
      match segment.publish image host with
      | (.ok published, after) =>
          (.ok (publishedLine published.config published.capacity), after)
      | (.error error, after) => (.error (.error error), after) := by
  rw [publish, Outcome.bind_apply, imaged]
  change (Run.ofSession (segment.publish image) >>= _) host = _
  rw [Outcome.bind_apply, Run.ofSession]
  rcases segment.publish image host with ⟨outcome, after⟩
  cases outcome with
  | error error => rfl
  | ok published => rfl

/-- A new process publishes whatever can be published, if there is a place for the object. -/
theorem publish_fst_newProcess (address : Nat) (files : FileSystem) (segment : SegmentConfig)
    (publishable : image.Publishable) :
    (segment.publish image (newProcess address files)).1 =
      (segment.objectPlace files).map fun _ =>
        { config := segment, capacity := image.span.size } :=
  SegmentConfig.publish_fst (fills_newProcess address files _) rfl publishable

/-- A source that cannot be read as one is not published. -/
theorem runFrom_publish_of_unparsed
    (asked : Request.ofArguments arguments = .run (.publish source .source segment))
    (failed : Draft.ofFile files source = .error error) :
    runFrom address arguments files = (.failed error, files) := by
  have imageless : imageOfFile source .source (newProcess address files) =
      (.error (.error error), newProcess address files) := by
    change (Run.ofExcept (Draft.ofFile files source) >>= relocatedImage) _ = _
    rw [Outcome.bind_apply, failed]
    rfl
  rw [runFrom_of_command asked, Command.run, publish, Outcome.bind_apply, imageless]
  rfl

section Publish

variable (asked : Request.ofArguments arguments = .run (.publish input kind segment))
  (gives : Gives address files input kind image)
include asked gives

/-- Where the object can be made, the publication is printed and leaves the object behind. -/
theorem runFrom_publish_of_ok {place : Place} (free : segment.objectPlace files = .ok place) :
    exists after, runFrom address arguments files =
        (.printed (publishedLine segment (segment.publishedFile image).content.size), after) ∧
      after.fileAt? segment.objectPath = some (segment.publishedFile image) := by
  have size : (segment.publishedFile image).content.size = image.span.size := rfl
  have outcome := publish_fst_newProcess address files segment gives.publishable
  have done := publish_of_ok segment gives.imaged
  rw [free] at outcome
  cases ran : segment.publish image (newProcess address files) with
  | mk result after =>
      rw [ran] at outcome done
      cases outcome
      refine ⟨after.files, ?_, SegmentConfig.fileAt?_of_publish ran⟩
      rw [runFrom_of_command asked, Command.run, done, size]
      rfl

/-- Where it cannot be made, no file is changed. -/
theorem runFrom_publish_of_error (refused : segment.objectPlace files = .error error) :
    runFrom address arguments files = (.failed error, files) := by
  have fills := fills_newProcess address files image.span.size
  have outcome := publish_fst_newProcess address files segment gives.publishable
  have done := publish_of_ok segment gives.imaged
  rw [refused] at outcome
  cases ran : segment.publish image (newProcess address files) with
  | mk result after =>
      rw [ran] at outcome done
      cases outcome
      have unchanged := SegmentConfig.files_of_publish_eq_error fills ran
      rw [runFrom_of_command asked, Command.run, done]
      exact congrArg (Prod.mk _) unchanged

end Publish

end CommandLine
end MappedTables
