import MappedTables.Proofs.CommandLine.Failures
import MappedTables.Proofs.Segment.Steps

namespace MappedTables

/-!
The program, run after run.

Each run of the program is a process of its own, and what it leaves to the next
one is files.  It changes them by steps that anybody may take, so a history of
runs that starts with reachable files ends with reachable files; and a run that
does not succeed hands on what it was given.
-/

/-- Storing an image is one step. -/
theorem Image.step_of_writeTo {image : Image} {files after : FileSystem} {path : String}
    (stored : image.writeTo files path = .ok after) : files.Step after := by
  rcases Outcome.bind_eq_ok_iff.mp stored with ⟨bytes, _, rest⟩
  cases written : files.write path bytes with
  | error fault =>
      rw [written] at rest
      cases rest
  | ok other =>
      rw [written] at rest
      cases rest
      exact .written written

namespace CommandLine
namespace Run

variable {Value Result : Type} {host : Host}

/-- From reachable files the run comes to reachable files, whatever its outcome. -/
def StaysReachable (run : Run Value) (host : Host) : Prop :=
  host.files.Reachable -> (run host).2.files.Reachable

theorem KeepsFiles.staysReachable {run : Run Value} (keeps : run.KeepsFiles) :
    run.StaysReachable host := by
  intro reachable
  rw [keeps host]
  exact reachable

namespace StaysReachable

/-- What was looked up before can be relied on. -/
theorem after_looking {run : Run Value} {next : Value -> Run Result} (first : run.OnlyLooks)
    (second : forall value, run host = (.ok value, host) -> (next value).StaysReachable host) :
    (run >>= next).StaysReachable host := by
  intro reachable
  have unchanged := first host
  rw [Outcome.bind_apply]
  cases ran : run host with
  | mk outcome between =>
      rw [ran] at unchanged
      subst unchanged
      cases outcome with
      | error fault => exact reachable
      | ok value => exact second value ran reachable

theorem before_result {run : Run Value} (stays : run.StaysReachable host)
    (result : Value -> Result) :
    (run >>= fun value => pure (result value)).StaysReachable host := by
  intro reachable
  have between := stays reachable
  rw [Outcome.bind_apply]
  cases ran : run host with
  | mk outcome after =>
      rw [ran] at between
      cases outcome with
      | error fault => exact between
      | ok value => exact between

theorem ofSession {session : Session Value} (preserves : session.Preserves (·.files.Reachable)) :
    (Run.ofSession session).StaysReachable host :=
  preserves host

end StaysReachable

/-- What is known of a result that was taken over. -/
theorem ofExcept_eq_ok {outcome : Except Error Value} {value : Value} {after : Host}
    (taken : Run.ofExcept outcome host = (.ok value, after)) : outcome = .ok value := by
  cases outcome with
  | error error => cases taken
  | ok other =>
      cases taken
      rfl

theorem get_eq_ok {started after : Host} (read : (get : Run Host) host = (.ok started, after)) :
    host = started := by
  cases read
  rfl

end Run

open Run

variable {host : Host}

theorem Command.staysReachable (command : Command) : command.run.StaysReachable host := by
  cases command with
  | build source output =>
      apply StaysReachable.after_looking OnlyLooks.get
      intro _ _
      apply StaysReachable.after_looking (OnlyLooks.ofExcept _)
      intro draft _
      apply StaysReachable.after_looking (relocatedImage_onlyLooks draft)
      intro image _
      apply StaysReachable.after_looking OnlyLooks.get
      intro started read
      cases get_eq_ok read
      apply StaysReachable.after_looking (OnlyLooks.ofExcept _)
      intro files stored reachable
      exact reachable.step (Image.step_of_writeTo (ofExcept_eq_ok stored))
  | publish input kind segment =>
      apply StaysReachable.after_looking (imageOfFile_onlyLooks input kind)
      intro image _
      exact StaysReachable.before_result (StaysReachable.ofSession
        (segment.publish_preserves Host.keptByWriters_reachable image)) _
  | unlink segment =>
      exact StaysReachable.before_result (StaysReachable.ofSession
        (segment.unlink_preserves Host.keptByWriters_reachable)) _
  | check segment => exact (Command.keepsFiles (.check segment) rfl).staysReachable
  | info segment => exact (Command.keepsFiles (.info segment) rfl).staysReachable
  | head query => exact (Command.keepsFiles (.head query) rfl).staysReachable
  | data query => exact (Command.keepsFiles (.data query) rfl).staysReachable
  | version path kind => exact (Command.keepsFiles (.version path kind) rfl).staysReachable

/-! ## Runs of the program -/

/-- A run of the program is a run of its command, if it comes to one. -/
theorem run_eq_of_command {arguments : List String} {command : Command}
    (asked : Request.ofArguments arguments = .run command) (files : FileSystem) :
    (run arguments files).2 = (command.run { files }).2.files ∧
      ((run arguments files).1.code ≠ 0 ->
        exists fault, (command.run { files }).1 = .error fault) := by
  unfold run
  rw [asked]
  cases ran : command.run { files } with
  | mk result after =>
      cases result with
      | ok output =>
          simp only [ran, true_and]
          exact fun failed => absurd rfl failed
      | error fault =>
          cases fault with
          | error error =>
              simp only [ran, true_and]
              exact fun _ => ⟨_, rfl⟩
          | abort reason =>
              simp only [ran, true_and]
              exact fun _ => ⟨_, rfl⟩

/-- A run of the program that comes to no command does not touch the files. -/
theorem run_eq_of_no_command {arguments : List String}
    (none : forall command, Request.ofArguments arguments ≠ .run command) (files : FileSystem) :
    (run arguments files).2 = files := by
  unfold run
  cases asked : Request.ofArguments arguments with
  | refused => rfl
  | showHelp => rfl
  | showVersion command => rfl
  | run command => exact absurd asked (none command)

/-- A run of the program takes reachable files to reachable files. -/
theorem run_reachable (arguments : List String) {files : FileSystem}
    (reachable : files.Reachable) : (run arguments files).2.Reachable := by
  by_cases asks : exists command, Request.ofArguments arguments = .run command
  · rcases asks with ⟨command, asked⟩
    rw [(run_eq_of_command asked files).1]
    exact command.staysReachable reachable
  · rw [run_eq_of_no_command (fun command asked => asks ⟨command, asked⟩)]
    exact reachable

/-- A run of the program that does not succeed leaves no trace. -/
theorem untouched_of_code_ne_zero {arguments : List String} {files : FileSystem}
    (failed : (run arguments files).1.code ≠ 0) : files.Untouched (run arguments files).2 := by
  by_cases asks : exists command, Request.ofArguments arguments = .run command
  · rcases asks with ⟨command, asked⟩
    rcases run_eq_of_command asked files with ⟨same, fails⟩
    rcases fails failed with ⟨fault, stopped⟩
    have clean : command.run.FailsClean { files } := command.failsClean fun _ => rfl
    rw [same]
    exact clean fault _ (Prod.ext stopped rfl)
  · rw [run_eq_of_no_command (fun command asked => asks ⟨command, asked⟩)]
    exact FileSystem.Untouched.refl files

/-- The files after a history of runs. -/
def filesAfter (files : FileSystem) (history : List (List String)) : FileSystem :=
  history.foldl (fun files arguments => (run arguments files).2) files

theorem filesAfter_reachable {files : FileSystem} (reachable : files.Reachable)
    (history : List (List String)) : (filesAfter files history).Reachable := by
  induction history generalizing files with
  | nil => exact reachable
  | cons arguments rest ih => exact ih (run_reachable arguments reachable)

/-- Whatever runs came before, one that does not succeed leaves every path leading where it
led, and every file holding what it held. -/
theorem paths_after_failed_run (directory : Place) (history : List (List String))
    {arguments : List String}
    (failed : (run arguments (filesAfter (FileSystem.initial directory) history)).1.code ≠ 0)
    (path : String) :
    (run arguments (filesAfter (FileSystem.initial directory) history)).2.find path =
        (filesAfter (FileSystem.initial directory) history).find path ∧
      (run arguments (filesAfter (FileSystem.initial directory) history)).2.fileAt? path =
        (filesAfter (FileSystem.initial directory) history).fileAt? path := by
  have untouched := untouched_of_code_ne_zero failed
  have reachable := filesAfter_reachable (.initial directory) history
  exact ⟨untouched.find_eq path, untouched.fileAt?_eq reachable.numbered path⟩

end CommandLine

/-! ## Calls of one process -/

namespace WriterCall

open CommandLine.Run

theorem staysReachable (call : WriterCall) {host : Host} : call.run.StaysReachable host := by
  have kept := Host.keptByWriters_reachable
  cases call with
  | publish config image =>
      exact StaysReachable.before_result
        (StaysReachable.ofSession (config.publish_preserves kept image)) _
  | unlink config => exact StaysReachable.ofSession (config.unlink_preserves kept)
  | unlinkPublished published =>
      exact StaysReachable.ofSession (published.config.unlink_preserves kept)
  | store image path =>
      apply StaysReachable.after_looking OnlyLooks.get
      intro started read
      cases get_eq_ok read
      apply StaysReachable.after_looking (OnlyLooks.ofExcept _)
      intro files stored reachable
      exact reachable.step (Image.step_of_writeTo (ofExcept_eq_ok stored))
  | commandLine command => exact StaysReachable.before_result command.staysReachable _

/-- The host after a sequence of calls, whatever becomes of each. -/
def hostAfter (host : Host) (calls : List WriterCall) : Host :=
  calls.foldl (fun host call => (call.run host).2) host

/-- Calls that succeed and calls that fail lead to states that files can be in. -/
theorem hostAfter_reachable {host : Host} (reachable : host.files.Reachable)
    (calls : List WriterCall) : (hostAfter host calls).files.Reachable := by
  induction calls generalizing host with
  | nil => exact reachable
  | cons call rest ih => exact ih (call.staysReachable reachable)

end WriterCall
end MappedTables
