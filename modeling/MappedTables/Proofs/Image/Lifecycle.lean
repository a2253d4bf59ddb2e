import MappedTables.Image.File
import MappedTables.Proofs.Segment.Entrances

namespace MappedTables

/-!
The life of an image.

A process makes images by building drafts and by loading octets, and relocates
them where they stand.  Relocation rewrites one header after the other and takes
nothing back when it stops, so that it is all or nothing has a reason outside of
it: only what was built is live, and in what was built no step can fail.  What
was loaded is relocatable, and is refused before the first octet is written.

So there are two kinds of images that a process can hold, and each of them is
known as a whole.  The properties that every image has are read off both kinds,
and a run of a process is followed only to see that there is no third kind.
-/

/-- What a process does about its images. -/
inductive ImageCall where
  | build (calls : List DraftCall) (base : UInt64)
  | load (octets : Bytes) (base : UInt64)
  | read (files : FileSystem) (path : String) (base : UInt64)
  /-- Relocate one of the images at hand, which are numbered in the order in
  which they were made. -/
  | relocate (number : Nat)

namespace ImageCall

/-- The image that a call makes, if it makes one. -/
def made : ImageCall -> Option Image
  | build calls base => ((DraftHistory.after calls).draft.build base).toOption
  | load octets base => (Image.ofBytes base octets).toOption
  | read files path base => (Image.ofFile files base path).toOption
  | relocate _ => none

/-- The image that has a number, after a call. -/
def changed (call : ImageCall) (number : Nat) (image : Image) : Image :=
  match call with
  | relocate chosen => if chosen = number then image.relocate.2 else image
  | _ => image

/-- The images at hand after a call. -/
def apply (call : ImageCall) (images : List Image) : List Image :=
  images.mapIdx call.changed ++ call.made.toList

/-- The memory that a call is given is suitable: storage starts at a multiple of
eight, and where a draft is built the container has room. -/
def Placed : ImageCall -> Prop
  | build calls base => (DraftHistory.after calls).draft.FitsAt base
  | load _ base => base.toNat % headerAlignment = 0
  | read _ _ base => base.toNat % headerAlignment = 0
  | relocate _ => True

end ImageCall

/-- The images at hand after several calls. -/
def imagesAfter (calls : List ImageCall) : List Image :=
  calls.foldl (fun images call => call.apply images) []

namespace Image

/-- What holds of an image throughout its life. -/
structure Lawful (image : Image) : Prop where
  /-- The image is viewed, and all records of its size agree. -/
  viewed : exists header container,
    image.span.headerAt ContainerHeader 0 = .ok header ∧ image.view = .ok container ∧
      image.capacity = header.capacity.toNat ∧ image.capacity = container.capacity
  hasMode : exists mode, image.mode = .ok mode
  handedOut : (exists octets, image.relocatedBytes = .ok octets) <->
    image.mode = .ok .relocatable
  /-- Its octets are accepted wherever a container can stand. -/
  accepted : forall base : UInt64, base.toNat % headerAlignment = 0 ->
    ((exists container, Container.ofRelocated ⟨base, image.span.bytes⟩ = .ok container) <->
      image.mode = .ok .relocatable)
  /-- So they are where they stand. -/
  standing : image.span.base.toNat % headerAlignment = 0
  relocates : image.relocate.1 = .ok () <-> image.mode = .ok .live
  leaves : image.relocate.1 = .ok () -> image.relocate.2.mode = .ok .relocatable
  /-- There is no half of a relocation. -/
  whole : forall error, image.relocate.1 = .error error -> image.relocate.2 = image

theorem mode_ne_live {image : Image} (mode : image.mode = .ok .relocatable) :
    image.mode ≠ .ok .live := by
  rw [mode]
  exact fun same => nomatch Except.ok.inj same

/-- The octets of an image are handed out in one mode and no other. -/
theorem exists_relocatedBytes_iff {image : Image} :
    (exists octets, image.relocatedBytes = .ok octets) <-> image.mode = .ok .relocatable := by
  constructor
  · rintro ⟨octets, done⟩
    exact (relocatedBytes_eq_ok_iff.mp done).1
  · exact fun mode => ⟨_, relocatedBytes_eq_ok_iff.mpr ⟨mode, rfl⟩⟩

end Image

/-! ## The image of a draft -/

namespace Draft

variable {draft : Draft} {base : UInt64}

theorem mode_encodedWith (draft : Draft) (addressing : Addressing)
    (aligned : base.toNat % headerAlignment = 0) :
    Image.mode ⟨⟨base, (draft.encodedWith addressing).toArray⟩⟩ = .ok addressing.mode := by
  rw [Image.mode, draft.headerAt_encodedWith addressing aligned, Outcome.ok_bind]
  exact AddressMode.ofFlag_flag _

/-- Octets with addresses are no container that can be moved. -/
theorem not_holds_addresses (draft : Draft) (aligned : base.toNat % headerAlignment = 0) :
    ¬ HoldsContainer (draft.encodedWith (.addressesFrom base)).toArray := by
  intro holds
  have stored := headerAt_front aligned holds.least
  rw [draft.headerAt_encodedWith _ aligned] at stored
  have mode := holds.relocatable
  rw [<- Except.ok.inj stored] at mode
  cases mode

/-- A draft that was just built. -/
theorem FitsAt.lawful (fits : draft.FitsAt base) (bounded : draft.Bounded) :
    Image.Lawful ⟨⟨base, (draft.encodedWith (.addressesFrom base)).toArray⟩⟩ := by
  let image : Image := ⟨⟨base, (draft.encodedWith (.addressesFrom base)).toArray⟩⟩
  have mode : image.mode = .ok .live := draft.mode_encodedWith _ fits.aligned
  have other : image.mode ≠ .ok .relocatable := fun relocatable =>
    Image.mode_ne_live relocatable mode
  have relocated := fits.relocate_eq bounded
  have size : image.capacity = draft.extent := bounded.view_size _ base
  refine ⟨⟨_, _, draft.headerAt_encodedWith _ fits.aligned, bounded.ofSpan_eq _ fits.aligned,
    size.trans (bounded.toNat_capacity _).symm, rfl⟩, ⟨_, mode⟩,
    Image.exists_relocatedBytes_iff, ?_, fits.aligned, ?_, ?_, ?_⟩
  · intro place aligned
    refine ⟨?_, fun relocatable => absurd relocatable other⟩
    rintro ⟨container, opened⟩
    have holds := ((ofRelocated_eq_ok_iff_holds aligned).mp opened).1
    exact absurd holds (draft.not_holds_addresses fits.aligned)
  · rw [relocated]
    exact ⟨fun _ => mode, fun _ => rfl⟩
  · intro _
    rw [relocated]
    exact draft.mode_encodedWith .distances fits.aligned
  · intro error failed
    rw [relocated] at failed
    cases failed

end Draft

/-! ## The image of a container that can be moved -/

namespace IsContainer

variable {octets : Bytes} {base : UInt64}

theorem mode_eq (container : IsContainer octets) (aligned : base.toNat % headerAlignment = 0) :
    Image.mode ⟨⟨base, octets⟩⟩ = .ok .relocatable := by
  rw [Image.mode, headerAt_front aligned container.holds.least, Outcome.ok_bind]
  exact container.holds.relocatable

/-- A container that was loaded, or relocated before. -/
theorem lawful (container : IsContainer octets) (aligned : base.toNat % headerAlignment = 0) :
    Image.Lawful ⟨⟨base, octets⟩⟩ := by
  let image : Image := ⟨⟨base, octets⟩⟩
  have mode : image.mode = .ok .relocatable := container.mode_eq aligned
  have shown : (containerAt base octets).span = ⟨base, octets⟩ :=
    congrArg (Span.mk base) container.whole
  have view : image.view = .ok (containerAt base octets) := by
    have viewed := container.holds.view_eq aligned
    rwa [shown] at viewed
  have size : image.capacity = (containerAt base octets).capacity :=
    congrArg Span.size shown.symm
  have refused : image.relocate = (.error (.modeViolation .imageRelocated), image) :=
    Image.relocate_of_holds aligned container.holds
  refine ⟨⟨_, _, headerAt_front aligned container.holds.least, view,
    size.trans (container.holds.capacity_containerAt base), size⟩, ⟨_, mode⟩,
    Image.exists_relocatedBytes_iff, ?_, aligned, ?_, ?_, ?_⟩
  · intro place placeAligned
    have opened := (ofRelocated_eq_ok_iff_holds placeAligned).mpr ⟨container.holds, rfl⟩
    exact ⟨fun _ => mode, fun _ => ⟨_, opened⟩⟩
  · have failed : image.relocate.1 ≠ .ok () := by
      rw [refused]
      exact fun done => nomatch done
    exact ⟨fun done => absurd done failed,
      fun live => absurd live (Image.mode_ne_live mode)⟩
  · intro done
    rw [refused] at done
    cases done
  · intro error _
    rw [refused]

end IsContainer

/-! ## Runs -/

namespace Image

theorem Obtained.lawful {image : Image} (obtained : image.Obtained) : image.Lawful := by
  rcases obtained.cases with ⟨calls, base, fits, done⟩ | ⟨aligned, container⟩
  · have bounded := (DraftHistory.kept_after calls).bounded
    have made := bounded.build_eq_ok base fits.aligned
    rw [done] at made
    rw [Except.ok.inj made]
    exact fits.lawful bounded
  · exact container.lawful aligned

/-- An image that is relocatable is the same after every attempt to relocate it. -/
theorem Lawful.relocate_eq {image : Image} (lawful : image.Lawful)
    (mode : image.mode = .ok .relocatable) : image.relocate.2 = image := by
  cases outcome : image.relocate.1 with
  | error error => exact lawful.whole error outcome
  | ok _ =>
      exact absurd (lawful.relocates.mp outcome) (mode_ne_live mode)

end Image

namespace ImageCall

theorem eq_ok_of_toOption {outcome : Except Failure Value} {value : Value}
    (kept : outcome.toOption = some value) : outcome = .ok value := by
  cases outcome with
  | error failure => cases kept
  | ok found => exact congrArg _ (Option.some.inj kept)

/-- A call makes an image in one of the known ways. -/
theorem Placed.obtained_of_made {call : ImageCall} (placed : call.Placed) {image : Image}
    (made : call.made = some image) : image.Obtained := by
  cases call with
  | build calls base =>
      exact .built calls placed (eq_ok_of_toOption made)
  | load octets base =>
      exact .loaded placed (eq_ok_of_toOption made)
  | read files path base =>
      have opened := eq_ok_of_toOption made
      unfold Image.ofFile at opened
      cases stored : files.read path with
      | error fault =>
          rw [stored] at opened
          cases opened
      | ok file =>
          rw [stored] at opened
          exact .loaded placed opened
  | relocate number => cases made

/-- What a call does to the images at hand is to attempt to relocate them. -/
theorem obtained_changed (call : ImageCall) (number : Nat) {image : Image}
    (obtained : image.Obtained) : (call.changed number image).Obtained := by
  cases call with
  | relocate chosen =>
      rw [changed]
      split
      · exact .relocated obtained
      · exact obtained
  | build calls base => exact obtained
  | load octets base => exact obtained
  | read files path base => exact obtained

/-- A call keeps it that all images were obtained. -/
theorem Placed.obtained_apply {call : ImageCall} (placed : call.Placed) {images : List Image}
    (obtained : forall image, image ∈ images -> image.Obtained) :
    forall image, image ∈ call.apply images -> image.Obtained := by
  intro image member
  rcases List.mem_append.mp member with earlier | made
  · rcases List.mem_mapIdx.mp earlier with ⟨number, inside, rfl⟩
    exact call.obtained_changed number (obtained _ (List.getElem_mem inside))
  · exact placed.obtained_of_made (Option.mem_toList.mp made)

/-- An image that is relocatable is left as it is. -/
theorem changed_eq (call : ImageCall) (number : Nat) {image : Image} (lawful : image.Lawful)
    (mode : image.mode = .ok .relocatable) : call.changed number image = image := by
  cases call with
  | relocate chosen =>
      rw [changed, lawful.relocate_eq mode]
      exact ite_self _
  | build calls base => rfl
  | load octets base => rfl
  | read files path base => rfl

theorem apply_getElem? (call : ImageCall) {images : List Image} {number : Nat} {image : Image}
    (held : images[number]? = some image) :
    (call.apply images)[number]? = some (call.changed number image) := by
  have inside : number < (images.mapIdx call.changed).length := by
    rw [List.length_mapIdx]
    exact (List.getElem?_eq_some_iff.mp held).1
  rw [apply, List.getElem?_append_left inside, List.getElem?_mapIdx, held]
  rfl

end ImageCall

/-- Every image of a run was obtained. -/
theorem obtained_of_run {calls : List ImageCall}
    (placed : forall call, call ∈ calls -> call.Placed) {images : List Image}
    (obtained : forall image, image ∈ images -> image.Obtained) :
    forall image, image ∈ calls.foldl (fun images call => call.apply images) images ->
      image.Obtained := by
  induction calls generalizing images with
  | nil => exact obtained
  | cons call rest ih =>
      have first := (placed call List.mem_cons_self).obtained_apply obtained
      exact ih (fun other later => placed other (List.mem_cons_of_mem _ later)) first

/-- A relocatable image stands unchanged in every run that goes on from it. -/
theorem run_getElem? (calls : List ImageCall) {images : List Image} {number : Nat}
    {image : Image} (held : images[number]? = some image) (lawful : image.Lawful)
    (mode : image.mode = .ok .relocatable) :
    (calls.foldl (fun images call => call.apply images) images)[number]? = some image := by
  induction calls generalizing images with
  | nil => exact held
  | cons call rest ih =>
      have next := call.apply_getElem? held
      rw [call.changed_eq number lawful mode] at next
      exact ih next

/-- Every image that a process can hold is whole; and from its relocation on, or from its
loading, no call whatsoever changes it any more. -/
theorem lawful_of_imagesAfter (calls : List ImageCall)
    (placed : forall call, call ∈ calls -> call.Placed) {number : Nat} {image : Image}
    (held : (imagesAfter calls)[number]? = some image) :
    image.Lawful ∧
      (image.mode = .ok .relocatable ->
        forall later, (imagesAfter (calls ++ later))[number]? = some image) := by
  have obtained : image.Obtained :=
    obtained_of_run placed (fun _ none => absurd none List.not_mem_nil) image
      (List.mem_of_getElem? held)
  refine ⟨obtained.lawful, fun mode later => ?_⟩
  rw [imagesAfter, List.foldl_append]
  exact run_getElem? later held obtained.lawful mode

/-- A draft that is built and relocated comes to its encoding by distances. -/
theorem imagesAfter_build_relocate (calls : List DraftCall) {base : UInt64}
    (fits : (DraftHistory.after calls).draft.FitsAt base) :
    (imagesAfter [.build calls base, .relocate 0])[0]? =
      some ⟨⟨base, ((DraftHistory.after calls).draft.encodedWith .distances).toArray⟩⟩ := by
  have bounded := (DraftHistory.kept_after calls).bounded
  have made : (ImageCall.build calls base).made = some
      ⟨⟨base, ((DraftHistory.after calls).draft.encodedWith (.addressesFrom base)).toArray⟩⟩ :=
    congrArg Except.toOption (bounded.build_eq_ok base fits.aligned)
  have held : ((ImageCall.build calls base).apply [])[0]? = (ImageCall.build calls base).made := by
    rw [ImageCall.apply, made]
    rfl
  have changed := ImageCall.apply_getElem? (.relocate 0) (held.trans made)
  refine changed.trans (congrArg some ?_)
  rw [ImageCall.changed, if_pos rfl, fits.relocate_eq bounded]

/-- A draft is built and relocated. -/
def sampleRun : List ImageCall :=
  [.build DraftHistory.sampleCalls 4096, .relocate 0]

theorem lawful_of_imagesAfter_sample :
    let image : Image := ⟨⟨4096,
      ((DraftHistory.after DraftHistory.sampleCalls).draft.encodedWith .distances).toArray⟩⟩
    (forall call, call ∈ sampleRun -> call.Placed) ∧
      (imagesAfter sampleRun)[0]? = some image ∧ image.Lawful ∧
        (image.mode = .ok .relocatable ->
          forall later, (imagesAfter (sampleRun ++ later))[0]? = some image) := by
  intro image
  have fits : (DraftHistory.after DraftHistory.sampleCalls).draft.FitsAt 4096 :=
    DraftHistory.fitsAt_of_lt _ (by decide) (by decide) (by decide)
  have placed : forall call, call ∈ sampleRun -> call.Placed := by
    intro call member
    rcases List.mem_cons.mp member with rfl | later
    · exact fits
    · rw [List.mem_singleton.mp later]
      trivial
  have held : (imagesAfter sampleRun)[0]? = some image :=
    imagesAfter_build_relocate DraftHistory.sampleCalls fits
  exact ⟨placed, held, lawful_of_imagesAfter sampleRun placed held⟩

end MappedTables
