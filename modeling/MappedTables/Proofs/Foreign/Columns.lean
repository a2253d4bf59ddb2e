import Mathlib.Control.Monad.Basic
import Mathlib.Data.Prod.Basic
import MappedTables.Proofs.Foreign.Pointers
import MappedTables.Proofs.Image.Loaded
import MappedTables.Proofs.Segment.Published

namespace MappedTables
namespace Foreign

/-!
Columns of published segments.

A caller in another language gets the address of a column and reads on to the
next terminator.  Publishing checks that every column starts within the text of
its row, but not that the text ends with a terminator, so what such a caller
reads is the column exactly if every row of the published image is closed: its
last column is followed by a terminator that stands at most one octet behind
the text and inside the container.
-/

/-- Through the pointer, every lookup that gives an address delivers the text that the
container gives for the same arguments. -/
structure Faithful (memory : List Span) (pointer : UInt64) (container : Container) : Prop where
  columnAt : forall kind line column address,
    Foreign.columnAt memory pointer kind line column = .ok (some address) ->
      exists text, container.columnAt kind line column = .ok text ∧
        text.address = address ∧ Delivers container text
  headFor : forall mark column cell address after,
    Foreign.headFor memory pointer mark column cell = .ok (some address, after) ->
      exists text, container.headFor mark.toUInt8 column = .ok (some text) ∧
        text.address = address ∧ Delivers container text

section Lookups

variable {memory : List Span} {pointer : UInt64} {container : Container}
  (found : containerAt? memory pointer = some container)
include found

theorem columnAt_eq_some_iff {kind : TableKind} {line : UInt32} {column : UInt16}
    {address : UInt64} :
    columnAt memory pointer kind line column = .ok (some address) <->
      exists text, container.columnAt kind line column = .ok text ∧ text.address = address := by
  unfold columnAt
  simp only [found, Container.columnAddressAt_eq_map, Outcome.attempt_eq_some_iff]
  cases container.columnAt kind line column with
  | error fault => simp [Except.map]
  | ok text => simp [Except.map]

theorem headFor_eq_some_iff {mark : Int8} {column : UInt16} {cell after : Option UInt32}
    {address : UInt64} :
    headFor memory pointer mark column cell = .ok (some address, after) <->
      exists hit, container.findHead mark.toUInt8 column = .ok (some hit) ∧
        hit.text.address = address ∧ after = cell.map fun _ => hit.line := by
  unfold headFor
  simp only [found, Outcome.bind_eq_ok_iff]
  constructor
  · rintro ⟨searched, given, rest⟩
    cases searched with
    | none => cases rest
    | some hit =>
        cases rest
        exact ⟨hit, given, rfl, rfl⟩
  · rintro ⟨hit, given, rfl, rfl⟩
    exact ⟨some hit, given, rfl⟩

theorem faithful_iff : Faithful memory pointer container <-> container.DeliversAll := by
  constructor
  · intro faithful
    constructor
    · intro kind line column text given
      have shown := (columnAt_eq_some_iff found).mpr ⟨text, given, rfl⟩
      rcases faithful.columnAt kind line column text.address shown with
        ⟨other, again, _, delivers⟩
      rw [given] at again
      cases again
      exact delivers
    · intro mark column text given
      rcases Container.headFor_eq_some_iff.mp given with ⟨hit, searched, rfl⟩
      rw [<- UInt8.toUInt8_toInt8 mark] at searched given
      have shown : headFor memory pointer mark.toInt8 column none =
          .ok (some hit.text.address, none) :=
        (headFor_eq_some_iff found).mpr ⟨hit, searched, rfl, rfl⟩
      rcases faithful.headFor mark.toInt8 column none hit.text.address none shown with
        ⟨other, again, _, delivers⟩
      rw [given] at again
      cases again
      exact delivers
  · intro delivers
    constructor
    · intro kind line column address shown
      rcases (columnAt_eq_some_iff found).mp shown with ⟨text, given, same⟩
      exact ⟨text, given, same, delivers.columnAt kind line column text given⟩
    · intro mark column cell address after shown
      rcases (headFor_eq_some_iff found).mp shown with ⟨hit, searched, same, _⟩
      have given := Container.headFor_eq_some_iff.mpr ⟨hit, searched, rfl⟩
      exact ⟨hit.text, given, same, delivers.headFor mark.toUInt8 column hit.text given⟩

end Lookups

/-- A pointer to a published segment is good for every lookup exactly if every row of the
image is closed. -/
theorem published_columns_faithful_iff {config : SegmentConfig} {image : Image}
    {published : PublishedSegment} {before after : Host}
    (publishes : config.publish image before = (.ok published, after)) :
    exists id container, image.view = .ok container ∧
      after.files.find config.objectPath = .ok (.file id) ∧
      forall (reader attached : Library) (pointer : UInt64) (requests : List Request),
        (reader.host.files.file id).content = (after.files.file id).content ->
        Obtains id reader pointer attached -> Undisturbed pointer attached requests ->
          exists view, Container.ofRelocated ⟨pointer, image.span.bytes⟩ = .ok view ∧
            (Faithful (afterAll attached requests).memory pointer view <->
              container.Closed) := by
  rcases SegmentConfig.holds_of_publish publishes with ⟨id, container, holds⟩
  rcases Container.ofRelocated_eq_ok_iff.mp holds.opened with ⟨viewed, relocatable⟩
  refine ⟨id, container, viewed, holds.found, ?_⟩
  intro reader attached pointer requests intact obtains undisturbed
  rw [holds.content_eq] at intact
  rcases obtains.leadsTo with ⟨mapping, leads, maps⟩
  have content : (attached.host.files.file mapping.file).content = image.span.bytes := by
    rw [maps.files_eq, maps.mapping_eq]
    exact intact
  have whole : mapping.length = image.span.bytes.size := by
    rw [maps.mapping_eq]
    exact congrArg Array.size intact
  have nonempty : 0 < image.span.bytes.size :=
    Nat.lt_of_lt_of_le (by decide) (aligned_of_ofRelocated holds.opened).2
  -- Both addresses are multiples of the header alignment, for both spans were opened.
  have aligned : AlignedAlike image.span.base pointer := by
    rcases maps.opens with ⟨shown, opens⟩
    have here := (aligned_of_ofRelocated opens).1
    rw [Host.memory, leads.base_eq] at here
    exact (aligned_of_ofRelocated holds.opened).1.trans here.symm
  have same : container.base = image.span.base := by
    rcases Container.ofSpan_eq_ok_iff.mp viewed with ⟨_, header, mode, _, _, _, rfl⟩
    rfl
  have moved : Container.ofRelocated ⟨pointer, image.span.bytes⟩ =
      .ok (container.movedTo pointer) := by
    have opened := Container.ofRelocated_movedTo aligned
    rw [holds.opened] at opened
    exact opened
  rw [<- same] at aligned
  have later := leads.afterAll undisturbed
  have reached := later.spanFrom?_eq (by rw [files_afterAll]; exact content) whole nonempty
  have located : containerAt? (afterAll attached requests).memory pointer =
      some (container.movedTo pointer) :=
    containerAt?_eq reached moved
  have valid : (container.movedTo pointer).validate = .ok () := by
    rw [Container.validate_movedTo relocatable aligned]
    exact holds.valid
  refine ⟨container.movedTo pointer, moved, ?_⟩
  rw [faithful_iff located, Container.deliversAll_iff valid,
    Container.closed_movedTo relocatable aligned]

/-! ## A row of two letters, published and attached -/

def letterConfig : SegmentConfig := SegmentConfig.named "/kb"

def letterName : TextArgument := some #[47, 107, 98]

/-- A system without segments, and what publishing the image leaves of it. -/
def letterHost (behind : UInt8) : Except Error PublishedSegment × Host :=
  letterConfig.publish (letterImage behind) { files := FileSystem.initial ["home"] }

/-- A process that attaches the published segment. -/
def letterReader (behind : UInt8) : (Nat × Option Attachment) × Library :=
  attach (some { container := nullAddress, descriptor := noDescriptor }) letterName
    { host := (letterHost behind).2 }

/-- The address at which the first mapping of a process lies. -/
def letterPointer : UInt64 := 70368744177664

theorem published_columns_faithful_iff_letters :
    exists published host library id container view,
      letterConfig.publish (letterImage 0) { files := FileSystem.initial ["home"] } =
          (.ok published, host) ∧
        (letterImage 0).view = .ok container ∧
        Obtains id { host } letterPointer library ∧
        Undisturbed letterPointer library [.check letterName] ∧
        Container.ofRelocated ⟨letterPointer, (letterImage 0).span.bytes⟩ = .ok view ∧
        (Faithful (afterAll library [.check letterName]).memory letterPointer view <->
          container.Closed) := by
  have publishes : exists host, letterHost 0 =
      (.ok { config := letterConfig, capacity := 110 }, host) :=
    ⟨_, Prod.fst_eq_iff.mp (by decide +kernel)⟩
  have attaches : (letterReader 0).1 =
        (success, some { container := letterPointer, descriptor := 3 }) ∧
      (letterReader 0).2.host.freeAddress < addressLimit := by
    decide +kernel
  rcases publishes with ⟨host, publishes⟩
  unfold letterReader at attaches
  rw [publishes] at attaches
  rcases attaches with ⟨status, room⟩
  rcases published_columns_faithful_iff publishes with ⟨id, container, viewed, found, good⟩
  have named : configOf letterName = .ok letterConfig := by decide +kernel
  have obtains := Obtains.attached _ letterName letterConfig _ _ named found
    (Prod.fst_eq_iff.mp status)
  rcases good _ _ letterPointer [.check letterName] rfl obtains ⟨nofun, room, trivial⟩ with
    ⟨view, opened, same⟩
  exact ⟨_, host, _, id, container, view, publishes, viewed, obtains, ⟨nofun, room, trivial⟩,
    opened, same⟩

/-- Published and attached, the column reads `ab` in the container and `abcc` from its
address, and no terminator follows. -/
theorem letters_run_on :
    (letterHost 99).1 = .ok { config := letterConfig, capacity := 110 } ∧
      (letterReader 99).1 = (success, some { container := letterPointer, descriptor := 3 }) ∧
      columnAt (letterReader 99).2.memory letterPointer .data 1 1 =
        .ok (some (letterPointer + 106)) ∧
      ((containerAt? (letterReader 99).2.memory letterPointer).map fun view =>
        ((view.columnAt .data 1 1).toOption.map (·.octets),
          textAt view (letterPointer + 106),
          (view.span.octetsFrom 106).contains columnTerminator)) =
        some (some #[97, 98], #[97, 98, 99, 99], false) := by
  decide +kernel

end Foreign
end MappedTables
