import MappedTables.Proofs.Reader.Found
import MappedTables.Proofs.Storage.Changes
import MappedTables.Proofs.Storage.Sessions
import MappedTables.Segment.Publish

namespace MappedTables

/-!
What the writer's operations do.

Each of them either fails, and then says nothing about the files, or has changed
one place.  Publishing is the only one that can fail after it changed something:
once the object has been created, sizing it, mapping it or writing the mapping
back may still be refused.  Then the object is removed again, and it is the
object that was created and no other, for a place is only ever taken by an object
if it was free before.
-/

theorem Image.relocatedBytes_eq_ok_iff {image : Image} {bytes : Bytes} :
    image.relocatedBytes = .ok bytes <->
      image.mode = .ok .relocatable ∧ bytes = image.span.bytes := by
  rw [relocatedBytes, Outcome.bind_eq_ok_iff]
  constructor
  · rintro ⟨mode, recorded, rest⟩
    cases mode with
    | live => cases rest
    | relocatable =>
        cases rest
        exact ⟨recorded, rfl⟩
  · rintro ⟨recorded, rfl⟩
    exact ⟨.relocatable, recorded, rfl⟩

/-- An image that can be published: it is relocatable, and the view of it passes its check. -/
structure Image.Publishable (image : Image) : Prop where
  relocatable : image.mode = .ok .relocatable
  valid : exists container, image.view = .ok container ∧ container.validate = .ok ()

namespace FileSystem

variable {files : FileSystem}

theorem setFile_self (files : FileSystem) (id : FileId) :
    files.setFile id (files.file id) = files := by
  have same : (fun other => if other = id then files.file id else files.file other) =
      files.file := by
    funext other
    by_cases changed : other = id
    · rw [if_pos changed, changed]
    · exact if_neg changed
  unfold setFile
  rw [same]

theorem setFile_setFile (files : FileSystem) (id : FileId) (first second : StoredFile) :
    (files.setFile id first).setFile id second = files.setFile id second := by
  have same : (fun other => if other = id then second else
        if other = id then first else files.file other) =
      fun other => if other = id then second else files.file other := by
    funext other
    by_cases changed : other = id
    · rw [if_pos changed, if_pos changed]
    · rw [if_neg changed, if_neg changed, if_neg changed]
  unfold setFile
  rw [same]

/-- Octets that are copied over a content are the content. -/
theorem setOctets_setContent (files : FileSystem) (id : FileId) (first second : Bytes) :
    (files.setContent id first).setOctets id second = files.setContent id second := by
  unfold setOctets setContent
  rw [file_setFile_self, setFile_setFile]

/-- A new file that is replaced is the file that replaces it. -/
theorem addFile_setFile (files : FileSystem) (place : Place) (first second : StoredFile) :
    (files.addFile place first).2.setFile files.nextFile second =
      (files.addFile place second).2 := by
  have same := setFile_setFile { files with nextFile := files.nextFile + 1 } files.nextFile
    first second
  exact congrArg (·.setEntry place (some (.file files.nextFile))) same

/-- A file made at a free place can be removed by the path that leads there. -/
theorem remove_addFile {text : String} {directory : Place} {name : String}
    (located : files.locate text = .ok ⟨directory, .name name, false⟩)
    (looked : files.lookUp directory name = .ok none) (stored : StoredFile) :
    (files.addFile (directory ++ [name]) stored).2.remove text =
      .ok ((files.addFile (directory ++ [name]) stored).2.setEntry (directory ++ [name]) none) := by
  rcases entryAt?_of_lookUp looked with ⟨free, short⟩
  have change := addFile_change free stored
  refine remove_eq_ok_iff.mpr ⟨directory, name, files.nextFile, ?_, ?_, rfl⟩
  · exact change.locate_eq_ok_iff.mpr located
  · rw [lookUp_of_short short]
    exact congrArg Except.ok (entryAt?_setEntry_self _ _ _)

end FileSystem

/-- The system lets a new object be filled with so many octets. -/
structure Host.Fills (host : Host) (size : Nat) : Prop where
  roomy : ¬ host.sizeLimit.any (· < size) = true
  sizes : host.refusal? .sizingSegment = none
  maps : host.refusal? .mappingSegment = none
  flushes : host.refusal? .flushingSegment = none

/-- It does not depend on the files. -/
theorem Host.Fills.withFiles {host : Host} {size : Nat} (fills : host.Fills size)
    (files : FileSystem) : Host.Fills { host with files } size :=
  ⟨fills.roomy, fills.sizes, fills.maps, fills.flushes⟩

namespace SegmentConfig

variable {config : SegmentConfig} {image : Image} {host after : Host} {error : Error}
  {id : FileId} {bytes : Bytes}

/-! ## Removing -/

theorem removeObject_apply (config : SegmentConfig) (host : Host) :
    config.removeObject host =
      match config.validate with
      | .error error => (.error error, host)
      | .ok () =>
          match host.unlessRefused .removingSegment (host.files.remove config.objectPath) with
          | .error fault => (.error (config.missingFailure .removingSegment fault), host)
          | .ok files => (.ok (), ({ host with files } : Host).record (.unlinked config.name)) := by
  have read : (get : Session Host) host = (.ok host, host) := rfl
  have checked : Session.ofExcept config.validate host = (config.validate, host) := rfl
  rw [removeObject, Outcome.bind_apply, checked]
  cases config.validate with
  | error error => rfl
  | ok _ =>
      simp only [Outcome.bind_apply, read]
      cases host.unlessRefused .removingSegment (host.files.remove config.objectPath) with
      | error fault => rfl
      | ok files => rfl

theorem removeObject_eq_ok_iff :
    config.removeObject host = (.ok (), after) <->
      config.validate = .ok () ∧ host.refusal? .removingSegment = none ∧
        exists files, host.files.remove config.objectPath = .ok files ∧
          ({ host with files } : Host).record (.unlinked config.name) = after := by
  rw [removeObject_apply]
  cases config.validate with
  | error error =>
      constructor
      · intro same
        cases same
      · rintro ⟨valid, _⟩
        cases valid
  | ok _ =>
      cases outcome : host.unlessRefused .removingSegment (host.files.remove config.objectPath) with
      | error fault =>
          constructor
          · intro same
            cases same
          · rintro ⟨_, allowed, files, removed, _⟩
            have done := Session.unlessRefused_eq_ok_iff.mpr ⟨allowed, removed⟩
            rw [outcome] at done
            cases done
      | ok files =>
          rcases Session.unlessRefused_eq_ok_iff.mp outcome with ⟨allowed, removed⟩
          constructor
          · intro same
            cases same
            exact ⟨rfl, allowed, files, removed, rfl⟩
          · rintro ⟨_, _, other, again, rfl⟩
            rw [removed] at again
            cases again
            rfl

/-- Removing that fails changes nothing. -/
theorem eq_of_removeObject_eq_error (failed : config.removeObject host = (.error error, after)) :
    host = after := by
  rw [removeObject_apply] at failed
  cases valid : config.validate with
  | error other =>
      rw [valid] at failed
      exact congrArg Prod.snd failed
  | ok _ =>
      cases outcome : host.unlessRefused .removingSegment (host.files.remove config.objectPath) with
      | error fault =>
          rw [valid, outcome] at failed
          exact congrArg Prod.snd failed
      | ok files =>
          rw [valid, outcome] at failed
          cases failed

theorem unlink_eq_ok_iff :
    config.unlink host = (.ok (), after) <-> config.removeObject host = (.ok (), after) :=
  Session.reporting_eq_ok_iff

theorem files_eq_of_unlink_eq_error (failed : config.unlink host = (.error error, after)) :
    after.files = host.files := by
  rcases Session.reporting_eq_error_iff.mp failed with ⟨between, removes, rfl⟩
  cases eq_of_removeObject_eq_error removes
  rfl

/-! ## Creating and filling -/

theorem createObject_apply (config : SegmentConfig) (host : Host) :
    config.createObject host =
      match host.unlessRefused .creatingSegment
        (host.files.create config.objectPath config.permissions.toNat) with
      | .error fault => (.error (config.presentFailure .creatingSegment fault), host)
      | .ok (id, files) => (.ok id, { host with files }) := by
  have read : (get : Session Host) host = (.ok host, host) := rfl
  rw [createObject, Outcome.bind_apply, read]
  simp only
  cases host.unlessRefused .creatingSegment
    (host.files.create config.objectPath config.permissions.toNat) with
  | error fault => rfl
  | ok made => rfl

theorem createObject_eq_ok_iff :
    config.createObject host = (.ok id, after) <->
      host.refusal? .creatingSegment = none ∧
        exists files, host.files.create config.objectPath config.permissions.toNat =
          .ok (id, files) ∧ { host with files } = after := by
  rw [createObject_apply]
  cases outcome : host.unlessRefused .creatingSegment
    (host.files.create config.objectPath config.permissions.toNat) with
  | error fault =>
      constructor
      · intro same
        cases same
      · rintro ⟨allowed, files, made, _⟩
        have done := Session.unlessRefused_eq_ok_iff.mpr ⟨allowed, made⟩
        rw [outcome] at done
        cases done
  | ok made =>
      rcases made with ⟨made, files⟩
      rcases Session.unlessRefused_eq_ok_iff.mp outcome with ⟨allowed, created⟩
      constructor
      · intro same
        cases same
        exact ⟨allowed, files, created, rfl⟩
      · rintro ⟨_, other, again, rfl⟩
        rw [created] at again
        cases again
        rfl

/-- Creating that fails changes nothing. -/
theorem eq_of_createObject_eq_error (failed : config.createObject host = (.error error, after)) :
    host = after := by
  rw [createObject_apply] at failed
  cases outcome : host.unlessRefused .creatingSegment
    (host.files.create config.objectPath config.permissions.toNat) with
  | error fault =>
      rw [outcome] at failed
      exact congrArg Prod.snd failed
  | ok made =>
      rw [outcome] at failed
      cases failed

/-- What filling an object does when nothing is refused. -/
theorem fillObject_eq_ok_iff :
    fillObject id bytes host = (.ok (), after) <->
      host.Fills bytes.size ∧ { host with files := host.files.setContent id bytes } = after := by
  constructor
  · intro filled
    rcases Session.bind_eq_ok_iff.mp filled with ⟨_, _, sized, rest⟩
    rcases Session.performing_eq_ok_iff.mp sized with ⟨files, size, rfl⟩
    rcases Session.unlessRefused_eq_ok_iff.mp size with ⟨sizes, size⟩
    rcases Session.bind_eq_ok_iff.mp rest with ⟨_, _, mapped, rest⟩
    rcases Session.performing_eq_ok_iff.mp mapped with ⟨_, map, rfl⟩
    rcases Session.unlessRefused_eq_ok_iff.mp map with ⟨maps, map⟩
    cases map
    rcases Session.bind_eq_ok_iff.mp rest with ⟨_, _, copied, flushed⟩
    cases Session.modify_eq_ok_iff.mp copied
    rcases Session.performing_eq_ok_iff.mp flushed with ⟨_, flush, rfl⟩
    rcases Session.unlessRefused_eq_ok_iff.mp flush with ⟨flushes, flush⟩
    cases flush
    by_cases beyond : host.sizeLimit.any (· < bytes.size)
    · rw [if_pos beyond] at size
      cases size
    · rw [if_neg beyond] at size
      cases size
      refine ⟨⟨beyond, sizes, maps, flushes⟩, ?_⟩
      simp only [FileSystem.setOctets_setContent]
  · rintro ⟨allowed, rfl⟩
    have size : (if host.sizeLimit.any (· < bytes.size) then .error (.os .fileTooLarge)
        else .ok (host.files.setContent id (Bytes.zeros bytes.size)) :
          Except IoFault FileSystem) =
        .ok (host.files.setContent id (Bytes.zeros bytes.size)) := if_neg allowed.roomy
    refine Session.bind_eq_ok_iff.mpr ⟨(), _, Session.performing_eq_ok_iff.mpr
      ⟨_, Session.unlessRefused_eq_ok_iff.mpr ⟨allowed.sizes, size⟩, rfl⟩, ?_⟩
    refine Session.bind_eq_ok_iff.mpr ⟨(), _, Session.performing_eq_ok_iff.mpr
      ⟨_, Session.unlessRefused_eq_ok_iff.mpr ⟨allowed.maps, rfl⟩, rfl⟩, ?_⟩
    refine Session.bind_eq_ok_iff.mpr ⟨(), _, Session.modify_eq_ok_iff.mpr rfl, ?_⟩
    refine Session.performing_eq_ok_iff.mpr
      ⟨_, Session.unlessRefused_eq_ok_iff.mpr ⟨allowed.flushes, rfl⟩, ?_⟩
    simp only [FileSystem.setOctets_setContent]

/-- An object that may be filled is filled. -/
theorem fillObject_ne_error (fills : host.Fills bytes.size) :
    fillObject id bytes host ≠ (.error error, after) := by
  rw [fillObject_eq_ok_iff.mpr ⟨fills, rfl⟩]
  intro same
  cases same

/-- Whatever becomes of the attempt, filling an object touches nothing else. -/
theorem files_of_fillObject_eq_error
    (failed : fillObject id bytes host = (.error error, after)) :
    exists stored, after = { host with files := host.files.setFile id stored } := by
  have unchanged : exists stored, host = { host with files := host.files.setFile id stored } := by
    refine ⟨host.files.file id, ?_⟩
    rw [FileSystem.setFile_self]
  rcases Session.bind_eq_error_iff.mp failed with sizes | ⟨_, _, sized, rest⟩
  · cases Session.eq_of_performing_eq_error sizes
    exact unchanged
  · rcases Session.performing_eq_ok_iff.mp sized with ⟨files, size, rfl⟩
    have size := (Session.unlessRefused_eq_ok_iff.mp size).2
    by_cases beyond : host.sizeLimit.any (· < bytes.size)
    · rw [if_pos beyond] at size
      cases size
    · rw [if_neg beyond] at size
      cases size
      rcases Session.bind_eq_error_iff.mp rest with maps | ⟨_, _, mapped, rest⟩
      · cases Session.eq_of_performing_eq_error maps
        exact ⟨_, rfl⟩
      · rcases Session.performing_eq_ok_iff.mp mapped with ⟨_, map, rfl⟩
        cases (Session.unlessRefused_eq_ok_iff.mp map).2
        rcases Session.bind_eq_error_iff.mp rest with copies | ⟨_, _, copied, flushes⟩
        · cases Session.modify_ne_error copies
        · cases Session.modify_eq_ok_iff.mp copied
          cases Session.eq_of_performing_eq_error flushes
          exact ⟨_, by simp only [FileSystem.setOctets_setContent]; rfl⟩

/-! ## Publishing -/

/-- What is asked of a config and an image before anything is created. -/
structure Admits (config : SegmentConfig) (image : Image) (container : Container) : Prop where
  valid : config.validate = .ok ()
  relocatable : image.mode = .ok .relocatable
  opened : Container.ofRelocated image.span = .ok container
  checked : container.validate = .ok ()

/-- What is asked of the image does not depend on the config. -/
theorem exists_admits_iff :
    (exists container, config.Admits image container) <->
      config.validate = .ok () ∧ image.Publishable := by
  constructor
  · rintro ⟨container, admits⟩
    rcases Container.ofRelocated_eq_ok_iff.mp admits.opened with ⟨viewed, _⟩
    exact ⟨admits.valid, admits.relocatable, container, viewed, admits.checked⟩
  · rintro ⟨valid, relocatable, container, viewed, checked⟩
    refine ⟨container, valid, relocatable, ?_, checked⟩
    rcases Container.ofSpan_eq_ok_iff.mp viewed with ⟨_, header, mode, stored, _, recorded, rfl⟩
    rw [Image.mode, stored, Outcome.ok_bind, recorded] at relocatable
    exact Container.ofRelocated_eq_ok_iff.mpr ⟨viewed, Except.ok.inj relocatable⟩

/-- The octets to be published, once everything that publishing checks has been checked. -/
def checkedOctets (config : SegmentConfig) (image : Image) : Except Error Bytes := do
  config.validate
  let bytes ← image.relocatedBytes
  let container ← Container.ofRelocated image.span
  container.validate
  return bytes

theorem checkedOctets_eq_ok_iff :
    config.checkedOctets image = .ok bytes <->
      (exists container, config.Admits image container) ∧ bytes = image.span.bytes := by
  unfold checkedOctets
  simp only [Outcome.bind_eq_ok_iff]
  constructor
  · rintro ⟨_, valid, taken, relocated, container, opened, _, checked, rest⟩
    rcases Image.relocatedBytes_eq_ok_iff.mp relocated with ⟨relocatable, rfl⟩
    cases rest
    exact ⟨⟨container, valid, relocatable, opened, checked⟩, rfl⟩
  · rintro ⟨⟨container, admits⟩, rfl⟩
    exact ⟨(), admits.valid, _, Image.relocatedBytes_eq_ok_iff.mpr ⟨admits.relocatable, rfl⟩,
      container, admits.opened, (), admits.checked, rfl⟩

/-- What publishing does after its checks. -/
def install (config : SegmentConfig) (bytes : Bytes) : Session PublishedSegment := do
  let id ← config.createObject
  Session.undoingOnFailure (fillObject id bytes) config.discardObject
  Session.record (.published config.name config.backing bytes.size)
  return { config, capacity := bytes.size }

/-- Publishing in two parts: one that only checks, and one that acts. -/
theorem publish_eq (config : SegmentConfig) (image : Image) :
    config.publish image =
      Session.reporting .publishing config.name
        (Session.ofExcept (config.checkedOctets image) >>= config.install) := by
  unfold publish checkedOctets
  simp only [Session.ofExcept_bind]
  rfl

/-- The object of a published segment. -/
def publishedFile (config : SegmentConfig) (image : Image) : StoredFile where
  content := image.span.bytes
  permissions := FileSystem.permissionsAfterWriting
    (FileSystem.grantedPermissions config.permissions.toNat)

/-- The files after an object has been made at a place and filled. -/
theorem setContent_addFile (files : FileSystem) (place : Place) (config : SegmentConfig)
    (image : Image) :
    (files.addFile place { permissions := FileSystem.grantedPermissions config.permissions.toNat }
      ).2.setContent files.nextFile image.span.bytes =
      (files.addFile place (config.publishedFile image)).2 := by
  unfold FileSystem.setContent
  rw [FileSystem.addFile_setFile]
  have stored := FileSystem.file_setFile_self { files with nextFile := files.nextFile + 1 }
    files.nextFile { permissions := FileSystem.grantedPermissions config.permissions.toNat }
  unfold publishedFile
  congr 2
  simp only [FileSystem.addFile, FileSystem.file_setEntry, stored]

/-- Publishing succeeds exactly if the config and the image are admitted, the path of the object
leads to a free place, and the system refuses nothing; then a file has been added. -/
theorem publish_eq_ok_iff {published : PublishedSegment} :
    config.publish image host = (.ok published, after) <->
      (exists container, config.Admits image container) ∧
        host.refusal? .creatingSegment = none ∧ host.Fills image.span.size ∧
          exists directory name,
            host.files.locate config.objectPath = .ok ⟨directory, .name name, false⟩ ∧
            host.files.lookUp directory name = .ok none ∧
            published = { config, capacity := image.span.size } ∧
            after = ({ host with files :=
              (host.files.addFile (directory ++ [name]) (config.publishedFile image)).2 } :
                Host).record (.published config.name config.backing image.span.size) := by
  rw [publish_eq, Session.reporting_eq_ok_iff, Session.bind_eq_ok_iff]
  constructor
  · rintro ⟨bytes, _, checks, installs⟩
    rcases Session.ofExcept_eq_ok_iff.mp checks with ⟨admitted, rfl⟩
    rcases checkedOctets_eq_ok_iff.mp admitted with ⟨admissible, rfl⟩
    rcases Session.bind_eq_ok_iff.mp installs with ⟨id, _, created, rest⟩
    rcases createObject_eq_ok_iff.mp created with ⟨creates, files, made, rfl⟩
    rcases FileSystem.create_eq_ok_iff.mp made with ⟨rfl, directory, name, located, looked, rfl⟩
    rcases Session.bind_eq_ok_iff.mp rest with ⟨_, full, filled, rest⟩
    rcases fillObject_eq_ok_iff.mp (Session.undoingOnFailure_eq_ok_iff.mp filled) with
      ⟨fills, rfl⟩
    rcases Session.bind_eq_ok_iff.mp rest with ⟨_, recorded, noted, rest⟩
    rcases Session.record_eq_ok_iff.mp noted with rfl
    rcases Session.pure_eq_ok_iff.mp rest with ⟨rfl, rfl⟩
    refine ⟨admissible, creates, ⟨fills.roomy, fills.sizes, fills.maps, fills.flushes⟩,
      directory, name, located, looked, rfl, ?_⟩
    rw [setContent_addFile]
    rfl
  · rintro ⟨admissible, creates, fills, directory, name, located, looked, rfl, rfl⟩
    have admitted := checkedOctets_eq_ok_iff.mpr ⟨admissible, rfl⟩
    have content := setContent_addFile host.files (directory ++ [name]) config image
    have made : host.files.create config.objectPath config.permissions.toNat =
        .ok (host.files.nextFile, (host.files.addFile (directory ++ [name])
          { permissions := FileSystem.grantedPermissions config.permissions.toNat }).2) :=
      FileSystem.create_eq_ok_iff.mpr ⟨rfl, directory, name, located, looked, rfl⟩
    generalize (host.files.addFile (directory ++ [name])
      { permissions := FileSystem.grantedPermissions config.permissions.toNat }).2 = files
      at content made
    have filled : fillObject host.files.nextFile image.span.bytes { host with files } = _ :=
      fillObject_eq_ok_iff.mpr ⟨fills.withFiles files, rfl⟩
    refine ⟨_, host, Session.ofExcept_eq_ok_iff.mpr ⟨admitted, rfl⟩, ?_⟩
    refine Session.bind_eq_ok_iff.mpr
      ⟨_, _, createObject_eq_ok_iff.mpr ⟨creates, files, made, rfl⟩, ?_⟩
    refine Session.bind_eq_ok_iff.mpr
      ⟨(), _, Session.undoingOnFailure_eq_ok_iff.mpr filled, ?_⟩
    refine Session.bind_eq_ok_iff.mpr ⟨(), _, Session.record_eq_ok_iff.mpr rfl, ?_⟩
    refine Session.pure_eq_ok_iff.mpr ⟨rfl, ?_⟩
    rw [<- content]
    rfl

/-- What may be published is not published where there is something already. -/
theorem publish_of_present (admissible : exists container, config.Admits image container)
    (creates : host.refusal? .creatingSegment = none)
    (present : host.files.create config.objectPath config.permissions.toNat =
      .error (.os .fileExists)) :
    config.publish image host =
      (.error (.alreadyExists config.objectName),
        host.record (.failed .publishing config.name (.alreadyExists config.objectName))) := by
  have admitted := checkedOctets_eq_ok_iff.mpr ⟨admissible, rfl⟩
  have refused : config.createObject host = (.error (.alreadyExists config.objectName), host) := by
    rw [createObject_apply, present, Host.unlessRefused, creates]
    rfl
  rw [publish_eq]
  refine Session.reporting_eq_error_iff.mpr ⟨host, Session.bind_eq_error_iff.mpr
    (Or.inr ⟨_, host, Session.ofExcept_eq_ok_iff.mpr ⟨admitted, rfl⟩, ?_⟩), rfl⟩
  exact Session.bind_eq_error_iff.mpr (Or.inl refused)

/-- An object that could not be filled is removed again, and nothing of it is left. -/
theorem untouched_discardObject {files : FileSystem} {directory : Place} {name : String}
    {stored : StoredFile} (valid : config.validate = .ok ())
    (removes : host.refusal? .removingSegment = none)
    (located : files.locate config.objectPath = .ok ⟨directory, .name name, false⟩)
    (looked : files.lookUp directory name = .ok none)
    (made : host.files = (files.addFile (directory ++ [name]) stored).2) :
    files.Untouched (config.discardObject host).files := by
  have gone := FileSystem.remove_addFile located looked stored
  rw [<- made] at gone
  have removed := removeObject_eq_ok_iff.mpr ⟨valid, removes, _, gone, rfl⟩
  unfold discardObject
  rw [removed, made]
  exact FileSystem.addFile_setEntry_none_untouched (FileSystem.entryAt?_of_lookUp looked).1 stored

/-- How publishing can fail. -/
inductive PublishFailure (config : SegmentConfig) (image : Image) (host after : Host) : Prop where
  | early (journal : List Event) (same : after = { host with journal })
  /-- The object was created and could not be filled. -/
  | late (valid : config.validate = .ok ()) (hindered : ¬ host.Fills image.span.size)
      (directory : Place) (name : String) (stored : StoredFile) (event : Event)
      (located : host.files.locate config.objectPath = .ok ⟨directory, .name name, false⟩)
      (looked : host.files.lookUp directory name = .ok none)
      (same : after = (config.discardObject { host with files :=
        (host.files.addFile (directory ++ [name]) stored).2 }).record event)

theorem publishFailure_of_eq_error (failed : config.publish image host = (.error error, after)) :
    PublishFailure config image host after := by
  rw [publish_eq] at failed
  rcases Session.reporting_eq_error_iff.mp failed with ⟨between, whole, rfl⟩
  have nothing : PublishFailure config image host
      (host.record (.failed .publishing config.name error)) := .early _ rfl
  rcases Session.bind_eq_error_iff.mp whole with checks | ⟨bytes, _, checks, rest⟩
  · rcases Session.ofExcept_eq_error_iff.mp checks with ⟨_, rfl⟩
    exact nothing
  rcases Session.ofExcept_eq_ok_iff.mp checks with ⟨admitted, rfl⟩
  rcases checkedOctets_eq_ok_iff.mp admitted with ⟨⟨_, admits⟩, rfl⟩
  rcases Session.bind_eq_error_iff.mp rest with creates | ⟨id, _, created, rest⟩
  · cases eq_of_createObject_eq_error creates
    exact nothing
  rcases createObject_eq_ok_iff.mp created with ⟨_, files, made, rfl⟩
  rcases FileSystem.create_eq_ok_iff.mp made with ⟨rfl, directory, name, located, looked, rfl⟩
  rcases Session.bind_eq_error_iff.mp rest with fills | ⟨_, _, _, rest⟩
  · rcases Session.undoingOnFailure_eq_error_iff.mp fills with ⟨partly, stops, rfl⟩
    have hindered : ¬ host.Fills image.span.size :=
      fun fills => fillObject_ne_error (fills.withFiles _) stops
    rcases files_of_fillObject_eq_error stops with ⟨stored, rfl⟩
    refine .late admits.valid hindered directory name stored
      (.failed .publishing config.name error) located looked ?_
    rw [<- FileSystem.addFile_setFile host.files (directory ++ [name])
      { permissions := FileSystem.grantedPermissions config.permissions.toNat } stored]
  · rcases Session.bind_eq_error_iff.mp rest with notes | ⟨_, _, _, rest⟩
    · cases Session.modify_ne_error notes
    · cases rest

/-- Publishing that fails leaves nothing behind, if an object can be removed at all. -/
theorem untouched_of_publish_eq_error (removes : host.refusal? .removingSegment = none)
    (failed : config.publish image host = (.error error, after)) :
    host.files.Untouched after.files := by
  cases publishFailure_of_eq_error failed with
  | early journal same =>
      rw [same]
      exact FileSystem.Untouched.refl host.files
  | late valid hindered directory name stored event located looked same =>
      rw [same]
      exact untouched_discardObject valid removes located looked rfl

end SegmentConfig
end MappedTables
