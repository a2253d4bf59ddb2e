import MappedTables.Proofs.Foreign.Columns
import MappedTables.Proofs.Foreign.Failures
import MappedTables.Proofs.Image.Loaded
import MappedTables.Proofs.Reader.Answers

namespace MappedTables
namespace Foreign

/-!
Lookups through a pointer.

A caller who only has a pointer gets the view of the container from the capacity
in its header, and asks it for addresses.  A caller who has the mapping gets the
view from the length of the mapping, and asks it for texts.  Both come to the same
in every case: the same hits, the same misses and the same stops, for every
content of a segment that can be mapped, and the address that is given is that of
the first octet of the text.
-/

/-- The text stands in the container, and its address is the one at which a caller who has a
pointer to the container finds it. -/
structure StandsBehind (pointer : UInt64) (container : Container) (text : ColumnText) : Prop where
  nonnull : text.address ≠ nullAddress
  exists_offset : exists offset, text.address.toNat = pointer.toNat + offset ∧
    offset + text.octets.size <= container.capacity ∧
    text.octets = container.span.bytes.extract offset (offset + text.octets.size)

/-- What a caller gets of a search, who had `cell` in the cell for the line. -/
def searchAnswer (cell : Option UInt32) : Option HeadMatch -> Option UInt64 × Option UInt32
  | none => (none, cell)
  | some hit => (some hit.text.address, cell.map fun _ => hit.line)

/-- The lookups through a pointer come to what the lookups in a container come to. -/
structure LookupsAgree (memory : List Span) (pointer : UInt64) (container : Container) :
    Prop where
  columnAt_eq : forall kind line column,
    Foreign.columnAt memory pointer kind line column =
      (attempt (container.columnAt kind line column)).map (Option.map ColumnText.address)
  headFor_eq : forall mark column cell,
    Foreign.headFor memory pointer mark column cell =
      (container.findHead mark.toUInt8 column).map (searchAnswer cell)
  rowCount_eq : forall kind, Foreign.rowCount memory pointer kind = container.length kind
  columnAt_stands : forall kind line column text,
    container.columnAt kind line column = .ok text -> StandsBehind pointer container text
  headFor_stands : forall mark column hit,
    container.findHead mark column = .ok (some hit) -> StandsBehind pointer container hit.text

/-- Octets up to the first one that is not wanted are a front of the octets. -/
theorem takeWhile_eq_extract (octets : Bytes) (wanted : UInt8 -> Bool) :
    (octets.takeWhile wanted).size <= octets.size ∧
      octets.takeWhile wanted = octets.extract 0 (octets.takeWhile wanted).size := by
  have front : (octets.takeWhile wanted).toList <+: octets.toList := by
    rw [Array.toList_takeWhile]
    exact List.takeWhile_prefix wanted
  constructor
  · exact front.length_le
  · apply Array.toList_inj.mp
    rw [Array.toList_extract, List.extract_eq_take_drop, Nat.sub_zero, List.drop_zero]
    exact List.prefix_iff_eq_take.mp front

theorem ne_nullAddress_of_pos {address : UInt64} (positive : 0 < address.toNat) :
    address ≠ nullAddress := by
  rintro rfl
  exact Nat.lt_irrefl 0 positive

/-- A column that is read from a row, where it stands in the container. -/
theorem standsBehind_of_column {container : Container} {row : Row} {column : UInt16}
    {text : ColumnText} (whole : row.span = container.span)
    (read : row.column column = .ok text) (nonnull : 0 < container.base.toNat)
    (room : container.base.toNat + container.capacity < addressLimit) :
    StandsBehind container.base container text := by
  rcases Row.exists_place_of_column read with
    ⟨start, reference, place, _, _, _, within, inside, distance, octets⟩
  rw [whole] at inside distance octets
  change place.toNat + row.length <= container.span.bytes.size at inside
  rcases takeWhile_eq_extract (container.span.bytes.extract (place.toNat + start)
    (place.toNat + row.length)) (· ≠ columnTerminator) with ⟨short, front⟩
  rw [<- octets, Array.size_extract, Nat.min_eq_left inside] at short
  rw [<- octets, Array.extract_extract, Nat.add_zero] at front
  have bounded : place.toNat + start + text.octets.size <= container.capacity := by
    change _ <= container.span.bytes.size
    omega
  have address : text.address.toNat = container.base.toNat + (place.toNat + start) := by
    have low : container.base.toNat + (place.toNat + start) < addressLimit := by omega
    rw [<- distance]
    rw [<- distance] at low
    have sum := UInt64.toNat_add container.base (text.address - container.base)
    rw [UInt64.add_comm, UInt64.sub_add_cancel] at sum
    exact sum.trans (Nat.mod_eq_of_lt low)
  rw [Nat.min_eq_left (by omega)] at front
  exact ⟨ne_nullAddress_of_pos (by omega), place.toNat + start, address, bounded, front⟩

/-- The lookups agree as soon as the container is found behind the pointer. -/
theorem lookupsAgree_of_containerAt? {memory : List Span} {container : Container}
    (found : containerAt? memory container.base = some container)
    (nonnull : 0 < container.base.toNat)
    (room : container.base.toNat + container.capacity < addressLimit) :
    LookupsAgree memory container.base container := by
  constructor
  case columnAt_eq =>
    intro kind line column
    unfold columnAt
    simp only [found, Container.columnAddressAt_eq_map, attempt_map]
  case headFor_eq =>
    intro mark column cell
    unfold headFor
    simp only [found]
    cases container.findHead mark.toUInt8 column with
    | error reason => rfl
    | ok searched =>
        cases searched with
        | none => rfl
        | some hit => rfl
  case rowCount_eq =>
    intro kind
    unfold rowCount
    rw [found]
    rfl
  case columnAt_stands =>
    intro kind line column text given
    rcases Container.columnAt_eq_ok_iff.mp given with ⟨index, table, row, _, opened, read, given⟩
    exact standsBehind_of_column (Container.span_of_rowAt opened read) given nonnull room
  case headFor_stands =>
    intro mark column hit given
    rcases Container.findHead_eq_some_iff.mp given with
      ⟨head, index, row, opened, _, read, given, _⟩
    exact standsBehind_of_column (Container.span_of_rowAt opened read) given nonnull room

/-- A descriptor that can be mapped within the process is mapped for a caller by its number. -/
theorem mapDescriptor_of_map {descriptor : SegmentDescriptor} {library : Library}
    {mapping : Mapping} {host : Host}
    (accepted : descriptor.map library.host = (.ok mapping, host)) :
    exists obtained, mapDescriptor descriptor.number library = (mapping.base, obtained) := by
  rcases SegmentDescriptor.map_eq_ok accepted with ⟨id, opened, _⟩
  have made : library.host.mappingOf (.file id) = .ok mapping :=
    (SegmentDescriptor.map_fst opened).symm.trans (congrArg Prod.fst accepted)
  have behind : mappingBehind descriptor.number library.host = .ok mapping := by
    have natural : ¬ (descriptor.number : Int) < 0 := Int.not_lt.mpr (Int.natCast_nonneg _)
    rw [mappingBehind, if_neg natural, Int.toNat_natCast, opened]
    exact made
  rcases mapDescriptor_of_ok behind with ⟨_, _, _, _, run⟩
  exact ⟨_, run⟩

/-- Whatever a segment holds, if a reader in the process can map it then a caller with the
number of the descriptor can, and to everyone who has a pointer to it the lookups through the
pointer come to what the lookups in the reader's container come to. -/
theorem lookups_agree {descriptor : SegmentDescriptor} {library : Library} {mapping : Mapping}
    {host : Host} (accepted : descriptor.map library.host = (.ok mapping, host))
    (nonnull : 0 < library.host.freeAddress)
    (room : library.host.freeAddress + mapping.length < addressLimit) :
    exists container, host.mapped mapping = .ok container ∧
      (exists obtained,
        mapDescriptor descriptor.number library = (mapping.base, obtained) ∧
          Obtains mapping.file library mapping.base obtained) ∧
      forall pointer obtained requests, Obtains mapping.file library pointer obtained ->
        Undisturbed pointer obtained requests ->
          LookupsAgree (afterAll obtained requests).memory pointer container := by
  rcases SegmentDescriptor.map_eq_ok accepted with ⟨id, opened, maps⟩
  rcases maps.opens with ⟨container, view⟩
  have file : mapping.file = id := by rw [maps.mapping_eq]
  have first : mapping.base.toNat = library.host.freeAddress := by
    rw [maps.mapping_eq]
    exact UInt64.toNat_ofNat_of_lt' (Nat.lt_of_le_of_lt (Nat.le_add_right _ _) room)
  rw [file]
  refine ⟨container, view, ?_, ?_⟩
  · rcases mapDescriptor_of_map accepted with ⟨obtained, run⟩
    have given : mapping.base ≠ nullAddress := ne_nullAddress_of_pos (by omega)
    exact ⟨obtained, run, .mapped descriptor.number mapping.base obtained
      (by rw [Int.toNat_natCast]; exact opened) run given⟩
  · intro pointer obtained requests obtains undisturbed
    rcases obtains.exists_container with ⟨again, other, address, alike, shown, found⟩
    -- The reader's mapping and the caller's would both be made at the next free address.
    have same : again = mapping := by rw [alike.mapping_eq, maps.mapping_eq]
    subst same address
    have seen : obtained.host.memory again = host.memory again := by
      rw [alike.memory_eq, maps.memory_eq]
    rw [Host.mapped, seen, view] at shown
    cases shown
    rcases Container.ofRelocated_eq_ok_iff.mp view with ⟨viewed, _⟩
    have base : container.base = again.base := Container.base_of_ofSpan viewed
    have inside : container.capacity <= again.length := by
      have bounded := Container.capacity_le_of_ofSpan viewed
      rw [maps.memory_eq] at bounded
      rw [maps.mapping_eq]
      exact bounded
    rw [<- base] at first found ⊢
    rw [<- base] at undisturbed
    exact lookupsAgree_of_containerAt? (found requests undisturbed) (by omega) (by omega)

/-- A process that has opened a file with the given octets. -/
def libraryHolding (octets : Bytes) : Library where
  host := (SegmentDescriptor.ofFile "kb" "kb" (hostHolding octets)).2

/-- The file holds a container whose one row stops a search, and an octet behind it. -/
def strayLibrary : Library :=
  libraryHolding (Container.strayBytes.push 7)

/-- The descriptor of that file. -/
def strayDescriptor : SegmentDescriptor where
  number := 3
  name := "kb"

/-- What the file is mapped to. -/
def strayMapping : Mapping where
  base := letterPointer
  file := 0
  length := 105

theorem lookups_agree_stray :
    exists host container obtained,
      strayDescriptor.map strayLibrary.host = (.ok strayMapping, host) ∧
        host.mapped strayMapping = .ok container ∧
        mapDescriptor strayDescriptor.number strayLibrary = (strayMapping.base, obtained) ∧
        LookupsAgree obtained.memory strayMapping.base container := by
  have accepted : exists host,
      strayDescriptor.map strayLibrary.host = (.ok strayMapping, host) :=
    ⟨_, Prod.fst_eq_iff.mp (by decide +kernel)⟩
  rcases accepted with ⟨host, accepted⟩
  have nonnull : 0 < strayLibrary.host.freeAddress := by decide +kernel
  have room : strayLibrary.host.freeAddress + strayMapping.length < addressLimit := by
    decide +kernel
  rcases lookups_agree accepted nonnull room with
    ⟨container, view, ⟨obtained, run, obtains⟩, agree⟩
  exact ⟨host, container, obtained, accepted, view, run, agree _ obtained [] obtains trivial⟩

/-- A search through the pointer that stops, as the one in the container does. -/
example :
    headFor (mapDescriptor 3 strayLibrary).2.memory strayMapping.base 83 2 none =
      .error .overflow := by
  decide +kernel

end Foreign
end MappedTables
