import MappedTables.Proofs.Segment.Writing
import MappedTables.Proofs.Storage.Footprint

namespace MappedTables

/-!
What publishing comes to and what it leaves behind.

An image that was published is relocatable and passed its check row by row, and
the object of the segment holds its octets and no others.  In a system that
refuses nothing, an image that passes its check is published exactly if there is
a place at which the object can be made, and that depends on the config and on
what its path leads to.
-/

namespace SegmentConfig

/-- What is known of a segment that was just published. -/
structure Holds (config : SegmentConfig) (image : Image) (id : FileId)
    (container : Container) (host : Host) : Prop where
  opened : Container.ofRelocated image.span = .ok container
  valid : container.validate = .ok ()
  found : host.files.find config.objectPath = .ok (.file id)
  content_eq : (host.files.file id).content = image.span.bytes

/-- The place at which the object of a segment can be made. -/
def objectPlace (config : SegmentConfig) (files : FileSystem) : Except Error Place := do
  config.validate
  (files.vacancy config.objectPath).mapError (config.presentFailure .creatingSegment)

variable {config : SegmentConfig} {image : Image} {host after : Host}

section Published

variable {published : PublishedSegment}
  (publishes : config.publish image host = (.ok published, after))
include publishes

theorem holds_of_publish : exists id container, config.Holds image id container after := by
  rcases publish_eq_ok_iff.mp publishes with
    ⟨⟨container, admits⟩, _, _, directory, name, located, looked, _, rfl⟩
  refine ⟨host.files.nextFile, container, admits.opened, admits.checked, ?_, ?_⟩
  · exact FileSystem.find_of_addFile located looked _
  · change ((host.files.addFile _ (config.publishedFile image)).2.file _).content = _
    simp [FileSystem.addFile, publishedFile]

/-- The object is found under the path of the segment. -/
theorem fileAt?_of_publish :
    after.files.fileAt? config.objectPath = some (config.publishedFile image) := by
  rcases publish_eq_ok_iff.mp publishes with
    ⟨_, _, _, directory, name, located, looked, _, rfl⟩
  change (host.files.addFile _ (config.publishedFile image)).2.fileAt? _ = _
  unfold FileSystem.fileAt?
  rw [FileSystem.find_of_addFile located looked]
  simp [FileSystem.addFile]

end Published

section Fills

variable (fills : host.Fills image.span.size)
include fills

/-- Publishing that fails changes no file, if the system would let the object be filled. -/
theorem files_of_publish_eq_error {error : Error}
    (failed : config.publish image host = (.error error, after)) : after.files = host.files := by
  cases publishFailure_of_eq_error failed with
  | early event same =>
      rw [same]
  | late valid hindered directory name stored event located looked same =>
      exact absurd fills hindered

/-- An image that passes its check is published if there is a place for the object. -/
theorem publish_fst (creates : host.refusal? .creatingSegment = none)
    (publishable : image.Publishable) :
    (config.publish image host).1 =
      (config.objectPlace host.files).map fun _ => { config, capacity := image.span.size } := by
  unfold objectPlace
  cases valid : config.validate with
  | error error =>
      have checked : config.checkedOctets image = .error error := by
        rw [checkedOctets, valid, Outcome.error_bind]
      rw [publish_eq, Session.reporting_fst, checked]
      rfl
  | ok _ =>
      have admissible := exists_admits_iff.mpr ⟨valid, publishable⟩
      rw [Outcome.ok_bind]
      cases vacant : host.files.vacancy config.objectPath with
      | error fault =>
          have checked := checkedOctets_eq_ok_iff.mpr ⟨admissible, rfl⟩
          have refused : config.createObject host =
              (.error (config.presentFailure .creatingSegment fault), host) := by
            rw [createObject_apply, FileSystem.create_eq, vacant, Host.unlessRefused, creates]
            rfl
          have stopped : config.install image.span.bytes host =
              (.error (config.presentFailure .creatingSegment fault), host) := by
            rw [install, Outcome.bind_apply, refused]
          rw [publish_eq, Session.reporting_fst, checked]
          exact congrArg Prod.fst stopped
      | ok place =>
          rcases FileSystem.vacancy_eq_ok_iff.mp vacant with
            ⟨directory, name, located, looked, _⟩
          exact congrArg Prod.fst (publish_eq_ok_iff.mpr ⟨admissible, creates, fills, directory,
            name, located, looked, rfl, rfl⟩)

end Fills

/-- The place depends on the path of the object and on nothing else in the tree. -/
theorem objectPlace_eq_of_alike {files other : FileSystem}
    (alike : FileSystem.AlikeAlong config.objectPath files other) :
    config.objectPlace other = config.objectPlace files := by
  unfold objectPlace
  rw [alike.vacancy_eq]

end SegmentConfig
end MappedTables
