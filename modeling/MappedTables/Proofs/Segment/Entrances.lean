import MappedTables.Proofs.Draft.History
import MappedTables.Proofs.Foreign.Pointers
import MappedTables.Proofs.Image.Loaded
import MappedTables.Proofs.Image.Reading
import MappedTables.Proofs.Image.Relocating
import MappedTables.Proofs.Segment.Opened
import MappedTables.Proofs.Segment.Writing

namespace MappedTables

/-!
The ways in which octets become a container.

Octets are loaded as an image, viewed where they stand, or mapped from a file;
and a caller in another language finds the container again by the address of the
mapping.  Each way makes its own checks and words its refusals in its own way,
but they check the same things in the same order, so for the same octets they
succeed together or fail together, with failures of one kind, and what they give
access to is the same octets: the first ones, as many as the header records.
-/

/-- What is checked of octets, and of which kind the failure is. -/
def admission (octets : Bytes) : Except ErrorKind Unit := do
  if octets.size < leastContainerSize then
    throw .malformed
  ((frontHeader octets).validate octets.size).mapError Error.kind
  if (← (frontHeader octets).mode.mapError Error.kind) ≠ .relocatable then
    throw .modeViolation

/-- The octets of the container that octets begin with. -/
def front (octets : Bytes) : Bytes :=
  octets.extract 0 (frontHeader octets).capacity.toNat

variable {octets : Bytes}

/-- What is too short for a header is refused as malformed, wherever it stands. -/
theorem Span.headerAt_short {base : UInt64} (short : octets.size < leastContainerSize) :
    Span.headerAt ⟨base, octets⟩ ContainerHeader 0 =
      .error (.malformed (.outsideSpan 0 leastContainerSize octets.size)) := by
  have room : ¬ addressLimit <= 0 + StoredHeader.size ContainerHeader := by decide
  have beyond : Span.size ⟨base, octets⟩ < 0 + StoredHeader.size ContainerHeader := short
  unfold headerAt checkHeader checkRange
  rw [if_neg room, if_pos beyond]
  rfl

section Aligned

variable (octets) {base : UInt64} (aligned : base.toNat % headerAlignment = 0)
include aligned

theorem Image.ofBytes_kind :
    (ofBytes base octets).mapError Error.kind =
      (admission octets).map fun _ => ⟨⟨base, front octets⟩⟩ := by
  unfold ofBytes admission
  by_cases short : octets.size < leastContainerSize
  · simp only [short, if_true, Span.headerAt_short short]
    rfl
  · simp only [short, if_false, headerAt_front aligned (Nat.not_lt.mp short), Outcome.ok_bind]
    change Except.mapError _ ((frontHeader octets).validate octets.size >>= _) = _
    cases (frontHeader octets).validate octets.size with
    | error error => rfl
    | ok _ =>
        cases (frontHeader octets).mode with
        | error error => rfl
        | ok mode =>
            cases mode with
            | live => rfl
            | relocatable => rfl

theorem Container.ofRelocated_kind :
    (ofRelocated ⟨base, octets⟩).mapError Error.kind =
      (admission octets).map fun _ => containerAt base octets := by
  unfold ofRelocated ofSpan admission
  by_cases short : octets.size < leastContainerSize
  · have shortSpan : Span.size ⟨base, octets⟩ < leastContainerSize := short
    simp only [short, shortSpan, if_true]
    rfl
  · have longSpan : ¬ Span.size ⟨base, octets⟩ < leastContainerSize := short
    simp only [short, longSpan, if_false, headerAt_front aligned (Nat.not_lt.mp short),
      Outcome.ok_bind]
    change Except.mapError _ (((frontHeader octets).validate octets.size >>= _) >>= _) = _
    cases (frontHeader octets).validate octets.size with
    | error error => rfl
    | ok _ =>
        cases recorded : (frontHeader octets).mode with
        | error error => rfl
        | ok mode =>
            cases mode with
            | live => rfl
            | relocatable => rfl

end Aligned

theorem SegmentDescriptor.map_kind {descriptor : SegmentDescriptor} {host : Host} {id : FileId}
    (paged : host.freeAddress % Host.pageSize = 0)
    (opened : host.opened? descriptor.number = some (.file id)) :
    (descriptor.map host).1.mapError Error.kind =
      (admission (host.files.file id).content).map fun _ =>
        (host.map id (host.files.file id).content.size).1 := by
  have viewed := Container.ofRelocated_kind (host.files.file id).content
    (Host.aligned_of_paged paged)
  rw [map_outcome opened]
  by_cases short : (host.files.file id).content.size < leastContainerSize
  · rw [if_pos short, admission]
    simp only [short, if_true]
    rfl
  · rw [if_neg short]
    cases outcome : Container.ofRelocated
        ⟨UInt64.ofNat host.freeAddress, (host.files.file id).content⟩ with
    | error error =>
        rw [outcome] at viewed
        cases decided : admission (host.files.file id).content with
        | error kind =>
            rw [decided] at viewed
            exact congrArg _ (Except.error.inj viewed)
        | ok _ =>
            rw [decided] at viewed
            cases viewed
    | ok container =>
        rw [outcome] at viewed
        cases decided : admission (host.files.file id).content with
        | error kind =>
            rw [decided] at viewed
            cases viewed
        | ok _ => rfl

/-! ## All ways together -/

/-- Every way succeeds and gives access to the same octets. -/
structure AllAdmit (octets : Bytes) (load view : UInt64) (descriptor : SegmentDescriptor)
    (host : Host) : Prop where
  loads : Image.ofBytes load octets = .ok ⟨⟨load, front octets⟩⟩
  views : exists container, Container.ofRelocated ⟨view, octets⟩ = .ok container ∧
    container.span = ⟨view, front octets⟩
  maps : exists mapping after container, descriptor.map host = (.ok mapping, after) ∧
    after.mapped mapping = .ok container ∧ container.span = ⟨mapping.base, front octets⟩ ∧
    forall library : Foreign.Library, library.host = after ->
      Foreign.containerAt? (library.register mapping).memory mapping.base = some container

/-- Every way fails, with failures of one kind. -/
structure AllRefuse (octets : Bytes) (load view : UInt64) (descriptor : SegmentDescriptor)
    (host : Host) (kind : ErrorKind) : Prop where
  loads : exists error, Image.ofBytes load octets = .error error ∧ error.kind = kind
  views : exists error, Container.ofRelocated ⟨view, octets⟩ = .error error ∧ error.kind = kind
  maps : exists error, (descriptor.map host).1 = .error error ∧ error.kind = kind

/-- What a mapping shows is found at its address. -/
theorem Foreign.containerAt?_register {library : Foreign.Library} {mapping : Mapping}
    {container : Container} (opened : library.host.mapped mapping = .ok container) :
    containerAt? (library.register mapping).memory mapping.base = some container := by
  rcases Container.ofRelocated_eq_ok_iff.mp opened with ⟨viewed, _⟩
  rcases Container.ofSpan_eq_ok_iff.mp viewed with ⟨least, _⟩
  have nonempty : 0 < (library.host.memory mapping).size :=
    Nat.lt_of_lt_of_le (by decide) least
  exact containerAt?_eq (spanFrom?_cons_self nonempty _) opened

theorem admit_or_refuse (octets : Bytes) {load view : UInt64}
    (loadAligned : load.toNat % headerAlignment = 0)
    (viewAligned : view.toNat % headerAlignment = 0) {host : Host}
    (paged : host.freeAddress % Host.pageSize = 0) {descriptor : SegmentDescriptor} {id : FileId}
    (opened : host.opened? descriptor.number = some (.file id))
    (content : (host.files.file id).content = octets) :
    AllAdmit octets load view descriptor host ∨
      exists kind, AllRefuse octets load view descriptor host kind := by
  have loads := Image.ofBytes_kind octets loadAligned
  have views := Container.ofRelocated_kind octets viewAligned
  have maps := SegmentDescriptor.map_kind paged opened
  rw [content] at maps
  cases decided : admission octets with
  | error kind =>
      rw [decided] at loads views maps
      exact Or.inr ⟨kind, Outcome.mapError_eq_error_iff.mp loads,
        Outcome.mapError_eq_error_iff.mp views, Outcome.mapError_eq_error_iff.mp maps⟩
  | ok _ =>
      rw [decided] at loads views maps
      have outcome : (descriptor.map host).1 = .ok (host.map id octets.size).1 :=
        Outcome.mapError_eq_ok_iff.mp maps
      cases ran : descriptor.map host with
      | mk result after =>
          rw [ran] at outcome
          cases outcome
          rcases SegmentDescriptor.map_eq_ok ran with ⟨other, same, made⟩
          rw [opened] at same
          cases same
          rcases made.opens with ⟨container, shown⟩
          have memory := made.memory_eq
          rw [content] at memory
          rw [memory, ofRelocated_eq_ok_iff_holds (Host.aligned_of_paged paged)] at shown
          rcases shown with ⟨holds, rfl⟩
          have mapped : after.mapped (host.map id octets.size).1 =
              .ok (containerAt (UInt64.ofNat host.freeAddress) octets) := by
            rw [Host.mapped, memory]
            exact (ofRelocated_eq_ok_iff_holds (Host.aligned_of_paged paged)).mpr ⟨holds, rfl⟩
          refine Or.inl ⟨Outcome.mapError_eq_ok_iff.mp loads,
            ⟨_, Outcome.mapError_eq_ok_iff.mp views, rfl⟩, _, after, _, ran, mapped, rfl, ?_⟩
          rintro library rfl
          exact Foreign.containerAt?_register mapped

/-! ## Relocated images and what follows them -/

/-- The octets are one relocatable container and nothing else. -/
structure IsContainer (octets : Bytes) : Prop where
  holds : HoldsContainer octets
  whole : front octets = octets

/-- The images that a process can have, whatever it did to them. -/
inductive Image.Obtained : Image -> Prop where
  | built (calls : List DraftCall) {base : UInt64} {image : Image}
      (fits : (DraftHistory.after calls).draft.FitsAt base)
      (done : (DraftHistory.after calls).draft.build base = .ok image) : Obtained image
  | loaded {base : UInt64} {octets : Bytes} {image : Image}
      (aligned : base.toNat % headerAlignment = 0)
      (done : ofBytes base octets = .ok image) : Obtained image
  | relocated {image : Image} (obtained : Obtained image) : Obtained image.relocate.2

theorem frontHeader_extract {length : Nat} (long : leastContainerSize <= length) :
    frontHeader (octets.extract 0 length) = frontHeader octets := by
  unfold frontHeader
  rw [Array.extract_extract, Nat.zero_add, Nat.zero_add, Nat.min_eq_left long]

theorem extract_append_front {length : Nat} (within : length <= octets.size) (rest : Bytes) :
    (octets ++ rest).extract 0 length = octets.extract 0 length := by
  rw [Array.extract_append, Nat.sub_eq_zero_of_le within]
  simp

theorem frontHeader_append (long : leastContainerSize <= octets.size) (rest : Bytes) :
    frontHeader (octets ++ rest) = frontHeader octets := by
  unfold frontHeader
  rw [extract_append_front long]

/-- Only what comes behind the container can be changed without harm. -/
theorem HoldsContainer.of_frontHeader_eq {other : Bytes} (holds : HoldsContainer octets)
    (same : frontHeader other = frontHeader octets)
    (room : (frontHeader octets).capacity.toNat <= other.size) : HoldsContainer other where
  least := Nat.le_trans holds.capacity_le.1 room
  accepted := by
    rcases ContainerHeader.validate_eq_ok_iff.mp holds.accepted with
      ⟨magic, layout, least, _, mode, head, data⟩
    rw [same]
    exact ContainerHeader.validate_eq_ok_iff.mpr ⟨magic, layout, least, room, mode, head, data⟩
  relocatable := by
    rw [same]
    exact holds.relocatable

theorem HoldsContainer.isContainer_front (holds : HoldsContainer octets) :
    IsContainer (front octets) := by
  rcases holds.capacity_le with ⟨least, most⟩
  have same : frontHeader (front octets) = frontHeader octets := frontHeader_extract least
  have size : (front octets).size = (frontHeader octets).capacity.toNat :=
    holds.capacity_containerAt 0
  refine ⟨holds.of_frontHeader_eq same (Nat.le_of_eq size.symm), ?_⟩
  rw [front, same, <- size, Array.extract_size]

/-- Octets behind a container are left out. -/
theorem IsContainer.ofBytes_append (container : IsContainer octets) {base : UInt64}
    (aligned : base.toNat % headerAlignment = 0) (rest : Bytes) :
    Image.ofBytes base (octets ++ rest) = .ok ⟨⟨base, octets⟩⟩ := by
  rcases container.holds.capacity_le with ⟨least, most⟩
  have same := frontHeader_append container.holds.least rest
  have room : (frontHeader octets).capacity.toNat <= (octets ++ rest).size := by
    rw [Array.size_append]
    omega
  rw [Image.ofBytes_eq_ok_iff aligned]
  refine ⟨container.holds.of_frontHeader_eq same room, ?_⟩
  have cut : front (octets ++ rest) = octets := by
    rw [front, same, extract_append_front most]
    exact container.whole
  exact congrArg (fun bytes => Image.mk ⟨base, bytes⟩) cut.symm

/-- Octets of which nothing is left out are one container. -/
theorem isContainer_of_ofBytes {base : UInt64} (aligned : base.toNat % headerAlignment = 0)
    (loaded : Image.ofBytes base octets = .ok ⟨⟨base, octets⟩⟩) : IsContainer octets := by
  rcases (Image.ofBytes_eq_ok_iff aligned).mp loaded with ⟨holds, same⟩
  exact ⟨holds, (congrArg (fun image : Image => image.span.bytes) same).symm⟩

/-- A relocatable image is not relocated a second time. -/
theorem Image.relocate_of_holds {base : UInt64} (aligned : base.toNat % headerAlignment = 0)
    (holds : HoldsContainer octets) :
    Image.relocate ⟨⟨base, octets⟩⟩ =
      (.error (.modeViolation .imageRelocated), ⟨⟨base, octets⟩⟩) := by
  have read := Relocation.headerAt_eq (headerAt_front aligned holds.least)
  have walk : Relocation.relocateContainer ⟨base, octets⟩ =
      .error (.modeViolation .imageRelocated) ⟨base, octets⟩ := by
    rw [Relocation.relocateContainer, Relocation.bind_of_eq read,
      Relocation.bind_ofExcept holds.relocatable]
    rfl
  rw [relocate, walk]

/-- An image that was obtained is live and just built, or it is one relocatable container. -/
theorem Image.Obtained.cases {image : Image} (obtained : image.Obtained) :
    (exists calls base, (DraftHistory.after calls).draft.FitsAt base ∧
        (DraftHistory.after calls).draft.build base = .ok image) ∨
      image.span.base.toNat % headerAlignment = 0 ∧ IsContainer image.span.bytes := by
  induction obtained with
  | built calls fits done => exact Or.inl ⟨calls, _, fits, done⟩
  | loaded aligned done =>
      rcases (ofBytes_eq_ok_iff aligned).mp done with ⟨holds, rfl⟩
      exact Or.inr ⟨aligned, holds.isContainer_front⟩
  | @relocated image obtained ih =>
      rcases ih with ⟨calls, base, fits, done⟩ | ⟨aligned, container⟩
      · have bounded := (DraftHistory.kept_after calls).bounded
        have made := bounded.build_eq_ok base fits.aligned
        rw [done] at made
        rw [Except.ok.inj made, fits.relocate_eq bounded]
        exact Or.inr ⟨fits.aligned, isContainer_of_ofBytes fits.aligned
          (bounded.ofBytes_eq fits.aligned)⟩
      · have same : image.relocate = (.error (.modeViolation .imageRelocated), image) :=
          relocate_of_holds aligned container.holds
        rw [same]
        exact Or.inr ⟨aligned, container⟩

/-- The octets of a relocated image are loaded again, whatever stands behind them. -/
theorem Image.Obtained.ofBytes_append {image : Image} (obtained : image.Obtained)
    {octets : Bytes} (relocated : image.relocatedBytes = .ok octets) {base : UInt64}
    (aligned : base.toNat % headerAlignment = 0) (rest : Bytes) :
    ofBytes base (octets ++ rest) = .ok ⟨⟨base, octets⟩⟩ := by
  rcases relocatedBytes_eq_ok_iff.mp relocated with ⟨mode, rfl⟩
  rcases obtained.cases with ⟨calls, here, fits, done⟩ | ⟨_, container⟩
  · -- A draft is built live, so this image is none whose octets are handed out.
    have made := (DraftHistory.kept_after calls).bounded.build_eq_ok here fits.aligned
    rw [done] at made
    rw [Except.ok.inj made, Image.mode, Draft.headerAt_encodedWith _ _ fits.aligned] at mode
    cases mode
  · exact container.ofBytes_append aligned rest

/-- Octets are accepted by every entrance or by none; and what stands behind the octets of a
relocated image is left out. -/
theorem entrances_agree (octets : Bytes) {load view : UInt64}
    (loadAligned : load.toNat % headerAlignment = 0)
    (viewAligned : view.toNat % headerAlignment = 0) {host : Host}
    (paged : host.freeAddress % Host.pageSize = 0) (descriptor : SegmentDescriptor)
    {id : FileId} (opened : host.opened? descriptor.number = some (.file id))
    (content : (host.files.file id).content = octets) :
    (AllAdmit octets load view descriptor host ∨
        exists kind, AllRefuse octets load view descriptor host kind) ∧
      forall (image : Image) (relocated rest : Bytes), image.Obtained ->
        image.relocatedBytes = .ok relocated ->
        Image.ofBytes load (relocated ++ rest) = .ok ⟨⟨load, relocated⟩⟩ :=
  ⟨admit_or_refuse octets loadAligned viewAligned paged opened content,
    fun _ _ rest obtained handedOut => obtained.ofBytes_append handedOut loadAligned rest⟩

/-- A process that has a file with the given content open. -/
def readerOf (octets : Bytes) : Host :=
  { hostHolding octets with descriptors := [(3, .file 0)] }

/-- A container with a row, and an octet behind it. -/
def letterOctets : Bytes :=
  (letterImage 0).span.bytes.push 7

/-- What the entrances admit has the row, and a lookup finds its column. -/
theorem entrances_agree_letters :
    (4096 : UInt64).toNat % headerAlignment = 0 ∧ (8192 : UInt64).toNat % headerAlignment = 0 ∧
      (readerOf letterOctets).freeAddress % Host.pageSize = 0 ∧
      (readerOf letterOctets).opened? 3 = some (.file 0) ∧
      ((readerOf letterOctets).files.file 0).content = letterOctets ∧
      ((AllAdmit letterOctets 4096 8192 ⟨3, "kb"⟩ (readerOf letterOctets) ∨
          exists kind, AllRefuse letterOctets 4096 8192 ⟨3, "kb"⟩ (readerOf letterOctets) kind) ∧
        forall (image : Image) (relocated rest : Bytes), image.Obtained ->
          image.relocatedBytes = .ok relocated ->
          Image.ofBytes 4096 (relocated ++ rest) = .ok ⟨⟨4096, relocated⟩⟩) ∧
      exists container, Container.ofRelocated ⟨8192, letterOctets⟩ = .ok container ∧
        container.span = ⟨8192, (letterImage 0).span.bytes⟩ ∧
        (container.columnAt .data 1 1).toOption.map (·.octets) = some #[97, 98] := by
  have load : (4096 : UInt64).toNat % headerAlignment = 0 := by decide
  have view : (8192 : UInt64).toNat % headerAlignment = 0 := by decide
  have paged : (readerOf letterOctets).freeAddress % Host.pageSize = 0 := by decide
  have opened : (readerOf letterOctets).opened? 3 = some (.file 0) := by decide
  have content : ((readerOf letterOctets).files.file 0).content = letterOctets := rfl
  have agree := entrances_agree _ load view paged ⟨3, "kb"⟩ opened content
  refine ⟨load, view, paged, opened, content, agree,
    ⟨⟨8192, (letterImage 0).span.bytes⟩, letterHeader, .relocatable⟩, ?_, rfl, ?_⟩
  · decide +kernel
  · decide +kernel

end MappedTables
