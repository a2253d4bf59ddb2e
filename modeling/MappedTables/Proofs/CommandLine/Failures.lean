import MappedTables.CommandLine.Run
import MappedTables.Proofs.Image.Loaded
import MappedTables.Proofs.Segment.Opened
import MappedTables.Proofs.Segment.Writing
import MappedTables.Proofs.Storage.Reachable

namespace MappedTables

/-!
Writers that fail.

Whatever a writer asks for, from the library or on the command line, and for
whatever reason it does not get it, the files and segments are left as they
were.  Everything that can be found wrong with the arguments is found before
anything is created or replaced; storing a file is one step that happens or does
not; and publishing takes its object back.  The one thing that has to be granted
is that the object just created can be removed, for nothing can be promised of a
system that lets a file be made and not be taken away again.
-/

namespace CommandLine
namespace Run

variable {Value Result : Type}

/-! ## Runs that change no file -/

/-- Whatever its outcome, the run leaves the files alone. -/
def KeepsFiles (run : Run Value) : Prop :=
  forall host, (run host).2.files = host.files

/-- Whatever its outcome, the run leaves the whole host alone. -/
def OnlyLooks (run : Run Value) : Prop :=
  forall host, (run host).2 = host

namespace OnlyLooks

theorem keepsFiles {run : Run Value} (looks : run.OnlyLooks) : run.KeepsFiles :=
  fun host => congrArg Host.files (looks host)

theorem get : (get : Run Host).OnlyLooks :=
  fun _ => rfl

theorem ofFault (outcome : Except Fault Value) : (Run.ofFault outcome).OnlyLooks :=
  fun _ => rfl

theorem ofExcept (outcome : Except Error Value) : (Run.ofExcept outcome).OnlyLooks :=
  fun _ => rfl

theorem ofAbort (outcome : Except Abort Value) : (Run.ofAbort outcome).OnlyLooks :=
  fun _ => rfl

theorem pure (value : Value) : (pure value : Run Value).OnlyLooks :=
  fun _ => rfl

theorem fail (error : Error) : (Run.fail error : Run Value).OnlyLooks :=
  fun _ => rfl

theorem bind {run : Run Value} {next : Value -> Run Result} (first : run.OnlyLooks)
    (second : forall value, (next value).OnlyLooks) : (run >>= next).OnlyLooks := by
  intro host
  have before := first host
  rw [Outcome.bind_apply]
  cases ran : run host with
  | mk outcome between =>
      rw [ran] at before
      subst before
      cases outcome with
      | error fault => rfl
      | ok value => exact second value between

end OnlyLooks

namespace KeepsFiles

theorem ofSession {session : Session Value} (keeps : session.KeepsFiles) :
    (Run.ofSession session).KeepsFiles :=
  fun host => (keeps host).1

theorem bind {run : Run Value} {next : Value -> Run Result} (first : run.KeepsFiles)
    (second : forall value, (next value).KeepsFiles) : (run >>= next).KeepsFiles := by
  intro host
  have before := first host
  rw [Outcome.bind_apply]
  cases ran : run host with
  | mk outcome between =>
      rw [ran] at before
      cases outcome with
      | error fault => exact before
      | ok value => exact (second value between).trans before

end KeepsFiles

/-! ## Runs that fail without a trace -/

/-- If the run fails on the host, nothing is left of it. -/
def FailsClean (run : Run Value) (host : Host) : Prop :=
  forall fault after, run host = (.error fault, after) -> host.files.Untouched after.files

variable {host : Host}

theorem KeepsFiles.failsClean {run : Run Value} (keeps : run.KeepsFiles) :
    run.FailsClean host := by
  intro fault after failed
  have same := keeps host
  rw [failed] at same
  rw [same]
  exact FileSystem.Untouched.refl host.files

namespace FailsClean

/-- What was only looked at before makes no difference. -/
theorem after_looking {run : Run Value} {next : Value -> Run Result} (first : run.OnlyLooks)
    (second : forall value, (next value).FailsClean host) : (run >>= next).FailsClean host := by
  intro fault after failed
  have before := first host
  rw [Outcome.bind_apply] at failed
  cases ran : run host with
  | mk outcome between =>
      rw [ran] at before failed
      subst before
      cases outcome with
      | error other =>
          cases failed
          exact FileSystem.Untouched.refl _
      | ok value => exact second value fault after failed

/-- What cannot fail any more makes no difference either. -/
theorem before_result {run : Run Value} (clean : run.FailsClean host)
    (result : Value -> Result) : (run >>= fun value => pure (result value)).FailsClean host := by
  intro fault after failed
  rw [Outcome.bind_apply] at failed
  cases ran : run host with
  | mk outcome between =>
      rw [ran] at failed
      cases outcome with
      | error other =>
          cases failed
          exact clean _ _ ran
      | ok value => cases failed

theorem ofSession {session : Session Value}
    (clean : forall error after, session host = (.error error, after) ->
      host.files.Untouched after.files) : (Run.ofSession session).FailsClean host := by
  intro fault after failed
  cases ran : session host with
  | mk outcome between =>
      have taken : Run.ofSession session host = (outcome.mapError .error, between) := by
        unfold Run.ofSession
        rw [ran]
      rw [taken] at failed
      cases outcome with
      | error error =>
          cases failed
          exact clean _ _ ran
      | ok value => cases failed

end FailsClean
end Run

/-! ## Commands -/

open Run

theorem relocatedImage_onlyLooks (draft : Draft) : (relocatedImage draft).OnlyLooks := by
  apply OnlyLooks.bind OnlyLooks.get
  intro host
  apply OnlyLooks.bind (OnlyLooks.ofFault _)
  intro image
  exact OnlyLooks.ofExcept _

theorem imageOfFile_onlyLooks (input : String) (kind : VersionedFile) :
    (imageOfFile input kind).OnlyLooks := by
  cases kind with
  | source =>
      apply OnlyLooks.bind OnlyLooks.get
      intro host
      apply OnlyLooks.bind (OnlyLooks.ofExcept _)
      exact relocatedImage_onlyLooks
  | binary =>
      apply OnlyLooks.bind OnlyLooks.get
      intro host
      exact OnlyLooks.ofExcept _

theorem number_onlyLooks (option : OptionForm) (limit : Nat) (numeral : String) :
    (number option limit numeral).OnlyLooks := by
  unfold number
  cases numeral? limit numeral with
  | none => exact OnlyLooks.fail _
  | some value => exact OnlyLooks.pure value

theorem columnOf_onlyLooks (query : Query) : (columnOf query).OnlyLooks := by
  apply OnlyLooks.bind (number_onlyLooks _ _ _)
  intro value
  exact OnlyLooks.pure _

theorem columnByLine_onlyLooks (container : Container) (kind : TableKind) (query : Query)
    (column : UInt16) (missing : Refusal) :
    (columnByLine container kind query column missing).OnlyLooks := by
  have lined : (lineOf query missing).OnlyLooks := by
    unfold lineOf
    cases query.line with
    | none => exact OnlyLooks.fail _
    | some numeral =>
        apply OnlyLooks.bind (number_onlyLooks _ _ _)
        intro value
        exact OnlyLooks.pure _
  apply OnlyLooks.bind lined
  intro number
  apply OnlyLooks.bind (OnlyLooks.ofFault _)
  intro text
  exact OnlyLooks.pure _

theorem columnByMark_onlyLooks (container : Container) (text : String) (column : UInt16) :
    (columnByMark container text column).OnlyLooks := by
  have marked : (markOf text).OnlyLooks := by
    unfold markOf
    split
    · exact OnlyLooks.pure _
    · exact OnlyLooks.fail _
  apply OnlyLooks.bind marked
  intro mark
  apply OnlyLooks.bind (OnlyLooks.ofAbort _)
  intro found
  cases found with
  | none => exact OnlyLooks.fail _
  | some found => exact OnlyLooks.pure _

theorem attached_keepsFiles (segment : SegmentConfig) : (attached segment).KeepsFiles := by
  apply KeepsFiles.bind (KeepsFiles.ofSession (SegmentHandle.attach_keepsFiles segment))
  intro handle
  apply KeepsFiles.bind OnlyLooks.get.keepsFiles
  intro host
  exact (OnlyLooks.ofExcept _).keepsFiles

/-- Whether the command creates an object that it may have to take back. -/
def Command.publishes : Command -> Bool
  | .publish _ _ _ => true
  | _ => false

/-- The commands that are not there to write change no file at all. -/
def Command.inquires : Command -> Bool
  | .build _ _ => false
  | .publish _ _ _ => false
  | .unlink _ => false
  | _ => true

theorem Command.keepsFiles (command : Command) (inquires : command.inquires = true) :
    command.run.KeepsFiles := by
  cases command with
  | build source output => cases inquires
  | publish input kind segment => cases inquires
  | unlink segment => cases inquires
  | check segment =>
      apply KeepsFiles.bind OnlyLooks.get.keepsFiles
      intro host
      cases segment.isAvailable host.files with
      | true => exact (OnlyLooks.pure _).keepsFiles
      | false => exact (OnlyLooks.fail _).keepsFiles
  | info segment =>
      apply KeepsFiles.bind (attached_keepsFiles segment)
      intro container
      exact (OnlyLooks.pure _).keepsFiles
  | head query =>
      apply KeepsFiles.bind (attached_keepsFiles query.segment)
      intro container
      apply KeepsFiles.bind (columnOf_onlyLooks query).keepsFiles
      intro column
      cases query.mark with
      | some text => exact (columnByMark_onlyLooks container text column).keepsFiles
      | none => exact (columnByLine_onlyLooks container .head query column _).keepsFiles
  | data query =>
      apply KeepsFiles.bind (attached_keepsFiles query.segment)
      intro container
      apply KeepsFiles.bind (columnOf_onlyLooks query).keepsFiles
      intro column
      exact (columnByLine_onlyLooks container .data query column _).keepsFiles
  | version path kind =>
      intro host
      change (kind.versionShown path host).2.files = host.files
      unfold VersionedFile.versionShown
      cases kind.versionAt host.files path with
      | error error => rfl
      | ok tag => rfl

variable {host : Host}

theorem Command.failsClean (command : Command)
    (removes : command.publishes = true -> host.refusal? .removingSegment = none) :
    command.run.FailsClean host := by
  cases command with
  | build source output =>
      apply FailsClean.after_looking OnlyLooks.get
      intro before
      apply FailsClean.after_looking (OnlyLooks.ofExcept _)
      intro draft
      apply FailsClean.after_looking (relocatedImage_onlyLooks draft)
      intro image
      apply FailsClean.after_looking OnlyLooks.get
      intro before
      apply FailsClean.after_looking (OnlyLooks.ofExcept _)
      intro files fault after failed
      cases failed
  | publish input kind segment =>
      apply FailsClean.after_looking (imageOfFile_onlyLooks input kind)
      intro image
      refine FailsClean.before_result (FailsClean.ofSession ?_) _
      intro error after failed
      exact SegmentConfig.untouched_of_publish_eq_error (removes rfl) failed
  | unlink segment =>
      refine FailsClean.before_result (FailsClean.ofSession ?_) _
      intro error after failed
      rw [SegmentConfig.files_eq_of_unlink_eq_error failed]
      exact FileSystem.Untouched.refl host.files
  | check segment => exact (Command.keepsFiles (.check segment) rfl).failsClean
  | info segment => exact (Command.keepsFiles (.info segment) rfl).failsClean
  | head query => exact (Command.keepsFiles (.head query) rfl).failsClean
  | data query => exact (Command.keepsFiles (.data query) rfl).failsClean
  | version path kind => exact (Command.keepsFiles (.version path kind) rfl).failsClean

end CommandLine

/-! ## Writers -/

/-- What a writer can ask for. -/
inductive WriterCall where
  | publish (config : SegmentConfig) (image : Image)
  | unlink (config : SegmentConfig)
  | unlinkPublished (published : PublishedSegment)
  | store (image : Image) (path : String)
  | commandLine (command : CommandLine.Command)
  deriving DecidableEq, Repr

namespace WriterCall

open CommandLine
open CommandLine.Run

/-- Do what the call asks for. -/
def run : WriterCall -> Run Unit
  | .publish config image => do
      let _ ← Run.ofSession (config.publish image)
  | .unlink config => Run.ofSession config.unlink
  | .unlinkPublished published => Run.ofSession published.unlink
  | .store image path => do
      let host ← get
      let files ← Run.ofExcept (image.writeTo host.files path)
      set { host with files }
  | .commandLine command => do
      let _ ← command.run

/-- Whether the call creates an object that it may have to take back. -/
def publishes : WriterCall -> Bool
  | .publish _ _ => true
  | .commandLine command => command.publishes
  | _ => false

theorem failsClean (call : WriterCall) {host : Host}
    (removes : call.publishes = true -> host.refusal? .removingSegment = none) :
    call.run.FailsClean host := by
  cases call with
  | publish config image =>
      refine FailsClean.before_result (FailsClean.ofSession ?_) _
      intro error after failed
      exact SegmentConfig.untouched_of_publish_eq_error (removes rfl) failed
  | unlink config =>
      apply FailsClean.ofSession
      intro error after failed
      rw [SegmentConfig.files_eq_of_unlink_eq_error failed]
      exact FileSystem.Untouched.refl host.files
  | unlinkPublished published =>
      apply FailsClean.ofSession
      intro error after failed
      rw [SegmentConfig.files_eq_of_unlink_eq_error failed]
      exact FileSystem.Untouched.refl host.files
  | store image path =>
      apply FailsClean.after_looking OnlyLooks.get
      intro before
      apply FailsClean.after_looking (OnlyLooks.ofExcept _)
      intro files fault after failed
      cases failed
  | commandLine command => exact FailsClean.before_result (command.failsClean removes) _

/-- A call that fails leaves every path leading where it led, and every file that was ever made
holding what it held. -/
theorem failure_leaves_no_trace (call : WriterCall) {host after : Host} {fault : Fault}
    (reachable : host.files.Reachable)
    (removes : call.publishes = true -> host.refusal? .removingSegment = none)
    (failed : call.run host = (.error fault, after)) :
    host.files.Untouched after.files ∧
      forall path, after.files.find path = host.files.find path ∧
        after.files.fileAt? path = host.files.fileAt? path := by
  have untouched := call.failsClean removes fault after failed
  exact ⟨untouched, fun path =>
    ⟨untouched.find_eq path, untouched.fileAt?_eq reachable.numbered path⟩⟩

/-- A device does not work. -/
def deviceFailure : OsError := ⟨5⟩

/-- A system that lets an object be made and sized but not be written back. -/
def stuckHost : Host where
  files := FileSystem.initial ["home"]
  refusal? operation := if operation = .flushingSegment then some deviceFailure else none

theorem failure_leaves_no_trace_stuck :
    (WriterCall.publish {} bareImage).run stuckHost =
        (.error (.error (.io .flushingSegment (.os deviceFailure))),
          ((WriterCall.publish {} bareImage).run stuckHost).2) ∧
      stuckHost.files.Untouched ((WriterCall.publish {} bareImage).run stuckHost).2.files ∧
      forall path,
        ((WriterCall.publish {} bareImage).run stuckHost).2.files.find path =
            stuckHost.files.find path ∧
          ((WriterCall.publish {} bareImage).run stuckHost).2.files.fileAt? path =
            stuckHost.files.fileAt? path := by
  have failed : ((WriterCall.publish {} bareImage).run stuckHost).1 =
      .error (.error (.io .flushingSegment (.os deviceFailure))) := by
    decide +kernel
  have whole : (WriterCall.publish {} bareImage).run stuckHost =
      (_, ((WriterCall.publish {} bareImage).run stuckHost).2) :=
    Prod.ext failed rfl
  exact ⟨whole, failure_leaves_no_trace _ (.initial ["home"]) (fun _ => by decide) whole⟩

end WriterCall
end MappedTables
