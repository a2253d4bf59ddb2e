import MappedTables.Image
import MappedTables.Proofs.Reader.Answers
import MappedTables.Proofs.Storage.Created
import MappedTables.Storage.Host

namespace MappedTables

/-!
Octets that hold a container.

Whether octets are accepted as a relocatable container, and as which one, does
not depend on the address at which they stand, as long as it is a multiple of
the header alignment.  Loading octets as an image and viewing them where they
stand come to the same: both succeed for the same octets, and the image consists
of the octets that the view shows.
-/

/-- The header that the first octets form. -/
def frontHeader (octets : Bytes) : ContainerHeader :=
  StoredHeader.decode (octets.extract 0 leastContainerSize)

/-- The octets begin with a relocatable container. -/
structure HoldsContainer (octets : Bytes) : Prop where
  least : leastContainerSize <= octets.size
  accepted : (frontHeader octets).validate octets.size = .ok ()
  relocatable : (frontHeader octets).mode = .ok .relocatable

/-- The container that octets begin with, at an address. -/
def containerAt (base : UInt64) (octets : Bytes) : Container where
  span := { base, bytes := octets.extract 0 (frontHeader octets).capacity.toNat }
  header := frontHeader octets
  mode := .relocatable

/-- A container header that stands at the front of a span. -/
theorem Span.headerAt_zero_eq_ok_iff {span : Span} {header : ContainerHeader} :
    span.headerAt ContainerHeader 0 = .ok header <->
      leastContainerSize <= span.size ∧ span.base.toNat % headerAlignment = 0 ∧
        header = frontHeader span.bytes := by
  unfold headerAt
  rw [Outcome.bind_eq_ok_iff]
  constructor
  · rintro ⟨_, checked, rest⟩
    rcases (span.checkHeader_eq_ok_iff ContainerHeader 0).mp checked with ⟨_, inside, aligned⟩
    rw [Nat.zero_add] at inside
    refine ⟨inside, aligned, ?_⟩
    cases rest
    rw [Bytes.slice, Nat.zero_add]
    rfl
  · rintro ⟨inside, aligned, rfl⟩
    have room : 0 + StoredHeader.size ContainerHeader < addressLimit := by decide
    refine ⟨(), (span.checkHeader_eq_ok_iff ContainerHeader 0).mpr ⟨room, ?_, aligned⟩, ?_⟩
    · rw [Nat.zero_add]
      exact inside
    · rw [Bytes.slice, Nat.zero_add]
      rfl

/-- The header of octets that are long enough, wherever they stand. -/
theorem headerAt_front {base : UInt64} (aligned : base.toNat % headerAlignment = 0)
    {octets : Bytes} (least : leastContainerSize <= octets.size) :
    Span.headerAt ⟨base, octets⟩ ContainerHeader 0 = .ok (frontHeader octets) :=
  Span.headerAt_zero_eq_ok_iff.mpr ⟨least, aligned, rfl⟩

theorem HoldsContainer.capacity_le {octets : Bytes} (holds : HoldsContainer octets) :
    leastContainerSize <= (frontHeader octets).capacity.toNat ∧
      (frontHeader octets).capacity.toNat <= octets.size := by
  rcases ContainerHeader.validate_eq_ok_iff.mp holds.accepted with ⟨_, _, least, most, _⟩
  exact ⟨least, most⟩

/-- The container has as many octets as its header says. -/
theorem HoldsContainer.capacity_containerAt {octets : Bytes} (holds : HoldsContainer octets)
    (base : UInt64) :
    (containerAt base octets).capacity = (frontHeader octets).capacity.toNat :=
  Span.size_take ⟨base, octets⟩ holds.capacity_le.2

section Aligned

variable {base : UInt64} (aligned : base.toNat % headerAlignment = 0) {octets : Bytes}
include aligned

theorem ofRelocated_eq_ok_iff_holds {container : Container} :
    Container.ofRelocated ⟨base, octets⟩ = .ok container <->
      HoldsContainer octets ∧ container = containerAt base octets := by
  rw [Container.ofRelocated_eq_ok_iff, Container.ofSpan_eq_ok_iff]
  constructor
  · rintro ⟨⟨least, header, mode, stored, accepted, recorded, rfl⟩, relocatable⟩
    rcases Span.headerAt_zero_eq_ok_iff.mp stored with ⟨_, _, rfl⟩
    change mode = .relocatable at relocatable
    subst relocatable
    exact ⟨⟨least, accepted, recorded⟩, rfl⟩
  · rintro ⟨holds, rfl⟩
    refine ⟨⟨holds.least, frontHeader octets, .relocatable, ?_, holds.accepted,
      holds.relocatable, rfl⟩, rfl⟩
    exact headerAt_front aligned holds.least

/-- What loading octets finds. -/
theorem Image.ofBytes_eq_ok_iff {image : Image} :
    ofBytes base octets = .ok image <->
      HoldsContainer octets ∧ image = ⟨(containerAt base octets).span⟩ := by
  unfold ofBytes
  simp only [Outcome.bind_eq_ok_iff]
  constructor
  · rintro ⟨header, stored, _, accepted, mode, recorded, rest⟩
    rcases Span.headerAt_zero_eq_ok_iff.mp stored with ⟨least, _, rfl⟩
    cases mode with
    | live => cases rest
    | relocatable =>
        cases rest
        exact ⟨⟨least, accepted, recorded⟩, rfl⟩
  · rintro ⟨holds, rfl⟩
    refine ⟨_, headerAt_front aligned holds.least, (), holds.accepted, .relocatable,
      holds.relocatable, ?_⟩
    rw [if_neg (fun other => other rfl)]
    rfl

/-- An image that was loaded is viewed as the container that was found. -/
theorem HoldsContainer.view_eq (holds : HoldsContainer octets) :
    Image.view ⟨(containerAt base octets).span⟩ = .ok (containerAt base octets) := by
  have opened := (ofRelocated_eq_ok_iff_holds aligned).mpr ⟨holds, rfl⟩
  rcases Container.ofRelocated_eq_ok_iff.mp opened with ⟨viewed, _⟩
  have accepted : (frontHeader octets).validate (Span.size ⟨base, octets⟩) = .ok () :=
    holds.accepted
  have front := Container.ofSpan_take (headerAt_front aligned holds.least) accepted viewed
  exact front

end Aligned

/-- A header without rows, with its version area right behind the container. -/
def bareHeader : ContainerHeader where
  magic := containerMagic
  layoutVersion := MappedTables.layoutVersion
  modeFlag := 1
  reserved := 0
  head := { arrayWord := 80, length := 0, capacity := 0, modeFlag := 1, reserved := 0 }
  data := { arrayWord := 80, length := 0, capacity := 0, modeFlag := 1, reserved := 0 }
  capacity := 80
  versionWord := 80

/-- An image of that header alone. -/
def bareImage : Image where
  span := { base := 4096, bytes := (StoredHeader.encode bareHeader).toArray }

/-- A row with the text `ab`, its one column starting at the first letter. -/
def letterRow : RowHeader where
  textWord := 106
  startsWord := 104
  length := 2
  columns := 1
  modeFlag := 1
  reserved := 0

/-- A container with that row as its only line of data. -/
def letterHeader : ContainerHeader where
  magic := containerMagic
  layoutVersion := MappedTables.layoutVersion
  modeFlag := 1
  reserved := 0
  head := { arrayWord := 80, length := 0, capacity := 0, modeFlag := 1, reserved := 0 }
  data := { arrayWord := 80, length := 1, capacity := 1, modeFlag := 1, reserved := 0 }
  capacity := 110
  versionWord := 0

/-- The octet `behind` stands twice behind the text, up to the end of the container. -/
def letterImage (behind : UInt8) : Image where
  span :=
    { base := 4096
      bytes := (StoredHeader.encode letterHeader ++ StoredHeader.encode letterRow ++
        [0, 0, 97, 98, behind, behind]).toArray }

/-- A host with one file. -/
def hostHolding (octets : Bytes) : Host where
  files := ((FileSystem.initial ["work"]).addFile ["work", "kb"]
    { content := octets, permissions := FileSystem.plainPermissions }).2

theorem read_hostHolding (octets : Bytes) :
    (hostHolding octets).files.read "kb" =
      .ok { content := octets, permissions := FileSystem.plainPermissions } := by
  have located : (FileSystem.initial ["work"]).locate "kb" =
      .ok ⟨["work"], .name "kb", false⟩ := by
    decide +kernel
  have readable : FileSystem.plainPermissions.testBit 8 = true := by decide
  exact FileSystem.read_addFile located (by decide +kernel) readable

end MappedTables
