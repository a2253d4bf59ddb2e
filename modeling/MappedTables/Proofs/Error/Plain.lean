import MappedTables.Proofs.Error.Wording
import MappedTables.Proofs.Segment.Attaching

namespace MappedTables

/-!
Failures without a NUL.

Neither the operating system nor the octets of a file bring a text into a
failure, and the library's own words have no NUL in them.  So opening and mapping
a segment fail with wordings without a NUL, if there is none in the name of the
segment.
-/

section Plain

variable {Failure Value Result : Type} {Holds : Failure -> Prop}

/-- Every failure that can come of a computation has the property. -/
def Outcome.FailsWith (Holds : Failure -> Prop) (outcome : Except Failure Value) : Prop :=
  forall failure, outcome = .error failure -> Holds failure

namespace Outcome.FailsWith

theorem ok (value : Value) : FailsWith Holds (.ok value : Except Failure Value) :=
  fun _ impossible => nomatch impossible

theorem error {failure : Failure} (holds : Holds failure) :
    FailsWith Holds (.error failure : Except Failure Value) := by
  intro other same
  cases same
  exact holds

/-- A property of all failures of both parts is one of all failures of the whole. -/
theorem bind {outcome : Except Failure Value} {next : Value -> Except Failure Result}
    (first : FailsWith Holds outcome) (second : forall value, FailsWith Holds (next value)) :
    FailsWith Holds (outcome >>= next) := by
  cases outcome with
  | error failure => exact error (first failure rfl)
  | ok value => exact second value

theorem ite {condition : Prop} [Decidable condition] {one other : Except Failure Value}
    (first : FailsWith Holds one) (second : FailsWith Holds other) :
    FailsWith Holds (if condition then one else other) := by
  by_cases chosen : condition
  · rw [if_pos chosen]
    exact first
  · rw [if_neg chosen]
    exact second

end Outcome.FailsWith
end Plain

open Outcome (FailsWith)

namespace FileSystem

/-- A fault that the operating system describes, and nobody else. -/
def IsOwnFault (fault : IoFault) : Prop :=
  fault.texts = []

theorem ofText_fails (text : String) : FailsWith IsOwnFault (Path.ofText text) := by
  unfold Path.ofText
  refine .ite (.error rfl) (.ite (.error rfl) (.ite (.error rfl) (.ok _)))

theorem lookUp_fails (files : FileSystem) (directory : Place) (name : String) :
    FailsWith IsOwnFault (files.lookUp directory name) :=
  .ite (.error rfl) (.ok _)

/-- Names are too long, lead nowhere or do not lead to a directory: nothing else goes wrong. -/
theorem enter_fails (files : FileSystem) (directory : Place) (name : String) :
    FailsWith IsOwnFault (files.enter directory name) := by
  refine .ite (.ok _) (.ite (.ok _) (.bind (files.lookUp_fails directory name) ?_))
  intro entry
  cases entry with
  | none => exact .error rfl
  | some entry =>
      cases entry with
      | directory => exact .ok _
      | file id => exact .error rfl

theorem foldlM_enter_fails (files : FileSystem) (names : List String) (start : Place) :
    FailsWith IsOwnFault (names.foldlM files.enter start) := by
  induction names generalizing start with
  | nil => exact .ok _
  | cons name rest ih => exact .bind (files.enter_fails start name) ih

/-- Whatever is met on the way along a path is described by the system. -/
theorem locate_fails (files : FileSystem) (text : String) :
    FailsWith IsOwnFault (files.locate text) := by
  refine .bind (ofText_fails text) fun path => ?_
  cases path.names.getLast? with
  | none => exact .ok _
  | some last =>
      refine .bind (files.foldlM_enter_fails _ _) fun directory => .ite ?_ (.ok _)
      exact .bind (files.enter_fails directory last) fun _ => .ok _

theorem find_fails (files : FileSystem) (text : String) :
    FailsWith IsOwnFault (files.find text) := by
  refine .bind (files.locate_fails text) fun target => ?_
  cases target.last with
  | here => exact .ok _
  | name name =>
      refine .bind (files.lookUp_fails _ _) fun entry => ?_
      cases entry with
      | none => exact .error rfl
      | some entry =>
          cases entry with
          | directory => exact .ok _
          | file id =>
              exact .ite (.error rfl) (.ok _)

/-- Of opening for reading no failure quotes a text, not even the path. -/
theorem findReadable_fails (files : FileSystem) (text : String) :
    FailsWith IsOwnFault (files.findReadable text) := by
  refine .bind (files.find_fails text) fun entry => ?_
  cases entry with
  | directory => exact .ok _
  | file id =>
      exact .ite (.error rfl) (.ok _)

end FileSystem

/-- A failure in which no text is quoted. -/
theorem Error.isPlain_of_nil {error : Error} (silent : error.texts = []) : error.IsPlain := by
  intro text member
  rw [silent] at member
  cases member

theorem Error.isPlain_of_singleton {error : Error} {only : String} (quoted : error.texts = [only])
    (plain : NulFree only) : error.IsPlain := by
  intro text member
  rw [quoted, List.mem_singleton] at member
  rw [member]
  exact plain

theorem AddressMode.ofFlag_fails (flag : UInt8) :
    FailsWith Error.IsPlain (AddressMode.ofFlag flag) := by
  unfold AddressMode.ofFlag
  cases AddressMode.ofFlag? flag with
  | some mode => exact .ok mode
  | none => exact .error (Error.isPlain_of_nil rfl)

namespace Container

theorem headerAt_fails (span : Span) (offset : Nat) :
    FailsWith Error.IsPlain (span.headerAt ContainerHeader offset) := by
  have range : FailsWith Error.IsPlain
      (span.checkRange offset (StoredHeader.size ContainerHeader)) :=
    .ite (.error (Error.isPlain_of_nil rfl)) (.ite (.error (Error.isPlain_of_nil rfl)) (.ok _))
  refine .bind (.bind range fun _ => ?_) fun _ => .ok _
  exact .ite (.error (Error.isPlain_of_nil rfl)) (.ok _)

theorem validateTable_fails (header : TableHeader) {name : String} (plain : NulFree name) :
    FailsWith Error.IsPlain (header.validate name) := by
  refine .ite (.error (Error.isPlain_of_singleton rfl plain)) ?_
  exact .bind (AddressMode.ofFlag_fails _) fun _ => .ok _

/-- The header quotes the name of a table at most, which is one of two words. -/
theorem validateHeader_fails (header : ContainerHeader) (size : Nat) :
    FailsWith Error.IsPlain (header.validate size) := by
  have plain {flaw : Malformation} (silent : flaw.texts = []) : (Error.malformed flaw).IsPlain :=
    Error.isPlain_of_nil silent
  refine .ite (.error (plain rfl)) (.ite (.error (plain rfl)) (.ite (.error (plain rfl)) ?_))
  refine .bind (AddressMode.ofFlag_fails _) fun _ => ?_
  refine .bind (validateTable_fails _ (nulFree_ofList (by decide))) fun _ => ?_
  exact validateTable_fails _ (nulFree_ofList (by decide))

/-- Whatever the octets are, refusing them quotes nothing from them. -/
theorem ofRelocated_fails (span : Span) :
    FailsWith Error.IsPlain (Container.ofRelocated span) := by
  have viewed : FailsWith Error.IsPlain (Container.ofSpan span) := by
    refine .ite (.error (Error.isPlain_of_nil rfl)) (.bind (headerAt_fails span 0) fun header => ?_)
    refine .bind (validateHeader_fails header _) fun _ => ?_
    exact .bind (AddressMode.ofFlag_fails _) fun _ => .ok _
  refine .bind viewed fun container => ?_
  exact .ite (.error (Error.isPlain_of_nil rfl)) (.ok _)

end Container

/-- Nor does the failure to map what a descriptor stands for. -/
theorem Host.mappingOf_fails (host : Host) (target : OpenFile) :
    FailsWith Error.IsPlain (host.mappingOf target) := by
  cases target with
  | directory => exact .ite (.error (Error.isPlain_of_nil rfl)) (.error (Error.isPlain_of_nil rfl))
  | file id =>
      refine .ite (.error (Error.isPlain_of_nil rfl)) ?_
      exact .bind (Container.ofRelocated_fails _) fun _ => .ok _

/-- A config is refused without quoting it. -/
theorem SegmentConfig.validate_fails (config : SegmentConfig) :
    FailsWith Error.IsPlain config.validate := by
  have refused {refusal : Refusal} (silent : refusal.texts = []) :
      (Error.invalidParameter refusal).IsPlain := Error.isPlain_of_nil silent
  exact .ite (.error (refused rfl))
    (.ite (.error (refused rfl)) (.ite (.error (refused rfl)) (.ok _)))

/-- Of a segment whose object has a plain name. -/
theorem SegmentConfig.objectIn_fails {config : SegmentConfig} (named : NulFree config.objectName)
    (files : FileSystem) : FailsWith Error.IsPlain (config.objectIn files) := by
  refine .bind config.validate_fails fun _ => ?_
  cases missing : files.findReadable config.objectPath with
  | ok entry => exact .ok _
  | error fault =>
      have own : fault.texts = [] := files.findReadable_fails _ fault missing
      refine .error ?_
      unfold missingFailure objectFailure
      by_cases gone : fault = .os .noEntry
      · rw [if_pos gone]
        exact Error.isPlain_of_singleton rfl named
      · rw [if_neg gone]
        split
        · exact Error.isPlain_of_nil rfl
        · exact Error.isPlain_of_nil own

end MappedTables
