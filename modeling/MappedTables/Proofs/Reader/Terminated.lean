import MappedTables.Foreign.Lookup
import MappedTables.Proofs.Reader.Validated

namespace MappedTables

/-!
Where a column ends.

The reader ends a column at the next terminator or at the end of the row.  A
caller who only has the address of a column goes on to the next terminator,
wherever that is.  The two agree, and there is a terminator at all, exactly if
one stands at or behind the start of the column and at most one octet behind the
text of the row.
-/

/-- Of a list and one of its fronts, the octets before the first terminator are the same
exactly if a terminator stands in the front or right behind it. -/
theorem takeWhile_take_eq_iff (octets : List UInt8) (width : Nat) :
    (columnTerminator ∈ octets ∧
      octets.takeWhile (· ≠ columnTerminator) =
        (octets.take width).takeWhile (· ≠ columnTerminator)) <->
      exists index, index <= width ∧ octets[index]? = some columnTerminator := by
  induction octets generalizing width with
  | nil => simp
  | cons octet rest ih =>
      by_cases stop : octet = columnTerminator
      · constructor
        · intro _
          exact ⟨0, Nat.zero_le width, by rw [List.getElem?_cons_zero, stop]⟩
        · intro _
          refine ⟨by rw [stop]; exact List.mem_cons_self, ?_⟩
          cases width with
          | zero => simp [stop]
          | succ width => simp [stop]
      · cases width with
        | zero =>
            constructor
            · rintro ⟨_, same⟩
              simp [stop] at same
            · rintro ⟨index, first, same⟩
              rw [Nat.le_zero.mp first, List.getElem?_cons_zero] at same
              exact absurd (Option.some.inj same) stop
        | succ width =>
            have later : columnTerminator ∈ octet :: rest <-> columnTerminator ∈ rest := by
              simp [Ne.symm stop]
            rw [later, List.take_succ_cons, List.takeWhile_cons_of_pos (by simpa using stop),
              List.takeWhile_cons_of_pos (by simpa using stop), List.cons.injEq,
              eq_self_iff_true, true_and, ih]
            constructor
            · rintro ⟨index, within, same⟩
              exact ⟨index + 1, by omega, same⟩
            · rintro ⟨index, within, same⟩
              cases index with
              | zero => exact absurd (Option.some.inj same) stop
              | succ index => exact ⟨index, by omega, same⟩

namespace Span

/-- The octets from a place to the end of the span. -/
def octetsFrom (span : Span) (offset : Nat) : List UInt8 :=
  span.bytes.toList.drop offset

theorem getElem?_octetsFrom (span : Span) (offset index : Nat) :
    (span.octetsFrom offset)[index]? = span.bytes[offset + index]? := by
  rw [octetsFrom, List.getElem?_drop, Array.getElem?_toList]

theorem length_octetsFrom (span : Span) (offset : Nat) :
    (span.octetsFrom offset).length = span.size - offset := by
  rw [octetsFrom, List.length_drop, Array.length_toList]
  rfl

theorem exists_terminator_iff (span : Span) (offset : Nat) :
    (exists position, offset <= position ∧ span.bytes[position]? = some columnTerminator) <->
      columnTerminator ∈ span.octetsFrom offset := by
  rw [List.mem_iff_getElem?]
  constructor
  · rintro ⟨position, behind, stop⟩
    refine ⟨position - offset, ?_⟩
    rw [getElem?_octetsFrom, Nat.add_sub_cancel' behind]
    exact stop
  · rintro ⟨index, stop⟩
    rw [getElem?_octetsFrom] at stop
    exact ⟨offset + index, Nat.le_add_right offset index, stop⟩

theorem takeWhile_extract (span : Span) (offset stop : Nat) (here : UInt8 -> Bool) :
    ((span.bytes.extract offset stop).takeWhile here).toList =
      ((span.octetsFrom offset).take (stop - offset)).takeWhile here := by
  rw [Array.toList_takeWhile, Array.toList_extract, List.extract_eq_take_drop, octetsFrom]

end Span

/-- A reference means the address at its distance from the base. -/
theorem Reference.address_of_offsetFrom {reference : Reference} {base offset : UInt64}
    (found : reference.offsetFrom base = .ok offset) : reference.address base = base + offset := by
  cases reference with
  | relocatable stored =>
      cases found
      rfl
  | live address =>
      rw [offsetFrom, offsetOf] at found
      by_cases below : address < base
      · rw [if_pos below] at found
        cases found
      · rw [if_neg below] at found
        cases found
        rw [Reference.address, UInt64.add_comm, UInt64.sub_add_cancel]

namespace Row

/-- A terminator stands between the start of a column and the octet right behind the text. -/
def ClosedAt (row : Row) (column : UInt16) : Prop :=
  exists start reference place position, row.columnStart column = .ok start ∧
    row.header.textReference = .ok reference ∧
    reference.offsetFrom row.span.base = .ok place ∧
    start <= position ∧ position <= row.length ∧
    row.span.bytes[place.toNat + position]? = some columnTerminator

/-- The last column of the row, if there is one, is closed. -/
def Closed (row : Row) : Prop :=
  row.header.columns ≠ 0 -> row.ClosedAt row.header.columns

variable {row : Row} {column : UInt16}

/-- The text of a row where it stands in memory. -/
theorem exists_place_of_text {octets : Bytes} (read : row.text = .ok octets) :
    exists reference place, row.header.textReference = .ok reference ∧
      reference.offsetFrom row.span.base = .ok place ∧
      place.toNat + row.length < addressLimit ∧
      place.toNat + row.length <= row.span.size ∧
      octets = row.span.bytes.slice place.toNat row.length := by
  rcases Outcome.bind_eq_ok_iff.mp read with ⟨reference, present, resolved⟩
  rcases Outcome.bind_eq_ok_iff.mp resolved with ⟨place, offset, sliced⟩
  rcases (row.span.slice_eq_ok_iff _ _ octets).mp sliced with ⟨room, inside, same⟩
  exact ⟨reference, place, present, offset, room, inside, same⟩

/-- A distance from the base does not depend on the base. -/
theorem distance_eq (base offset start : UInt64) :
    base + offset + start - base = offset + start := by
  rw [UInt64.add_assoc, UInt64.add_comm, UInt64.add_sub_cancel]

/-- How far an address in a text lies behind the base. -/
theorem toNat_distance {base place : UInt64} {start : Nat}
    (room : place.toNat + start < addressLimit) :
    (base + place + UInt64.ofNat start - base).toNat = place.toNat + start := by
  have low : start < addressLimit := Nat.lt_of_le_of_lt (Nat.le_add_left _ _) room
  rw [distance_eq, UInt64.toNat_add, UInt64.toNat_ofNat_of_lt' low]
  exact Nat.mod_eq_of_lt room

/-- A column that is read, and where it stands in memory. -/
theorem exists_place_of_column {text : ColumnText} (read : row.column column = .ok text) :
    exists start reference place, row.columnStart column = .ok start ∧
      row.header.textReference = .ok reference ∧
      reference.offsetFrom row.span.base = .ok place ∧
      start <= row.length ∧
      place.toNat + row.length <= row.span.size ∧
      (text.address - row.span.base).toNat = place.toNat + start ∧
      text.octets = (row.span.bytes.extract (place.toNat + start)
        (place.toNat + row.length)).takeWhile (· ≠ columnTerminator) := by
  rcases Outcome.bind_eq_ok_iff.mp read with ⟨start, found, rest⟩
  rcases Outcome.lift_bind_eq_ok_iff.mp rest with ⟨octets, textRead, rest⟩
  rcases exists_place_of_text textRead with
    ⟨reference, place, present, offset, room, inside, slice⟩
  have within := le_length_of_columnStart found
  have address : row.textAddress = .ok (row.span.base + place) := by
    rw [textAddress, present]
    exact congrArg Except.ok (Reference.address_of_offsetFrom offset)
  rw [tail_eq_ok textRead within, address] at rest
  cases rest
  refine ⟨start, reference, place, found, present, offset, within, inside,
    toNat_distance (Nat.lt_of_le_of_lt (Nat.add_le_add_left within _) room), ?_⟩
  have width : octets.size = row.length := size_of_text textRead
  change (octets.extract start octets.size).takeWhile _ = _
  rw [width, slice, Bytes.slice, Array.extract_extract, Nat.min_eq_left (Nat.le_refl _)]

theorem closedAt_iff_of_start {start : Nat} {reference : Reference} {place : UInt64}
    (found : row.columnStart column = .ok start)
    (present : row.header.textReference = .ok reference)
    (offset : reference.offsetFrom row.span.base = .ok place) (within : start <= row.length) :
    row.ClosedAt column <->
      exists index, index <= row.length - start ∧
        (row.span.octetsFrom (place.toNat + start))[index]? = some columnTerminator := by
  constructor
  · rintro ⟨other, reference', place', position, again, present', offset', behind, near, stop⟩
    rw [found] at again
    cases again
    rw [present] at present'
    cases present'
    rw [offset] at offset'
    cases offset'
    refine ⟨position - start, by omega, ?_⟩
    rw [Span.getElem?_octetsFrom, Nat.add_assoc, Nat.add_sub_cancel' behind]
    exact stop
  · rintro ⟨index, near, stop⟩
    rw [Span.getElem?_octetsFrom, Nat.add_assoc] at stop
    exact ⟨start, reference, place, start + index, found, present, offset,
      Nat.le_add_right start index, by omega, stop⟩

/-- A column and its address are found together. -/
theorem columnAddress_eq_map (row : Row) (column : UInt16) :
    row.columnAddress column = (row.column column).map (·.address) := by
  rw [columnAddress, Row.column]
  cases row.columnStart column with
  | error fault => rfl
  | ok start =>
      simp only [Outcome.ok_bind]
      cases row.text with
      | error refusal => rfl
      | ok octets =>
          simp only [Outcome.lift_ok, Outcome.ok_bind]
          cases tail octets start with
          | error reason => rfl
          | ok rest =>
              cases row.textAddress with
              | error refusal => rfl
              | ok address => rfl

/-- Only a column that the row has starts somewhere. -/
theorem present_of_columnStart {start : Nat} (found : row.columnStart column = .ok start) :
    column ≠ 0 ∧ column <= row.header.columns := by
  by_cases missing : column = 0 ∨ row.header.columns < column
  · simp [columnStart, missing] at found
  · rw [not_or, UInt16.not_lt] at missing
    exact missing

theorem present_of_column {text : ColumnText} (read : row.column column = .ok text) :
    column ≠ 0 ∧ column <= row.header.columns := by
  rcases exists_place_of_column read with ⟨start, _, _, found, _⟩
  exact present_of_columnStart found

/-- Every column of a sound row is read. -/
theorem Sound.column_eq_ok {starts : List Nat} {octets : Bytes} (sound : row.Sound starts octets)
    (nonzero : column ≠ 0) (within : column <= row.header.columns) :
    exists text, row.column column = .ok text := by
  rcases sound.columnStart_eq nonzero within with ⟨start, entry, found⟩
  have bounded := sound.bounded start (List.mem_of_getElem? entry)
  rcases exists_place_of_text sound.text_eq with ⟨reference, _, present, _⟩
  have address : row.textAddress = .ok (reference.address row.span.base) := by
    rw [textAddress, present]
    rfl
  rw [Row.column, found, Outcome.ok_bind, sound.text_eq, Outcome.lift_ok, Outcome.ok_bind,
    tail_eq_ok sound.text_eq bounded, address]
  exact ⟨_, rfl⟩

/-- The starts of two columns are in the order of the columns. -/
theorem Sound.start_le {starts : List Nat} {octets : Bytes} (sound : row.Sound starts octets)
    {left right : UInt16} {first second : Nat} (ordered : left <= right) (nonzero : left ≠ 0)
    (within : right <= row.header.columns) (leftStart : row.columnStart left = .ok first)
    (rightStart : row.columnStart right = .ok second) : first <= second := by
  have positive : left.toNat ≠ 0 := fun zero => nonzero (UInt16.toNat_inj.mp zero)
  rw [UInt16.le_iff_toNat_le] at ordered
  have rightNonzero : right ≠ 0 := by
    rintro rfl
    exact positive (Nat.le_zero.mp ordered)
  rcases sound.columnStart_eq nonzero (UInt16.le_trans
    (UInt16.le_iff_toNat_le.mpr ordered) within) with ⟨one, oneEntry, oneStart⟩
  rcases sound.columnStart_eq rightNonzero within with ⟨two, twoEntry, twoStart⟩
  rw [leftStart] at oneStart
  rw [rightStart] at twoStart
  cases oneStart
  cases twoStart
  rcases Nat.eq_or_lt_of_le ordered with same | before
  · rw [same] at oneEntry
    rw [oneEntry] at twoEntry
    exact Nat.le_of_eq (Option.some.inj twoEntry)
  · rcases List.getElem?_eq_some_iff.mp oneEntry with ⟨oneInside, oneSame⟩
    rcases List.getElem?_eq_some_iff.mp twoEntry with ⟨twoInside, twoSame⟩
    rw [<- oneSame, <- twoSame]
    exact List.pairwise_iff_getElem.mp sound.ordered _ _ oneInside twoInside (by omega)

/-- In a sound row whose last column is closed every column is. -/
theorem Sound.closedAt {starts : List Nat} {octets : Bytes} (sound : row.Sound starts octets)
    (closed : row.Closed) (nonzero : column ≠ 0) (within : column <= row.header.columns) :
    row.ClosedAt column := by
  have columns : row.header.columns ≠ 0 := by
    intro none
    rw [none, UInt16.le_iff_toNat_le] at within
    exact nonzero (UInt16.toNat_inj.mp (Nat.le_zero.mp within))
  rcases closed columns with
    ⟨last, reference, place, position, lastStart, present, offset, behind, inside, stop⟩
  rcases sound.columnStart_eq nonzero within with ⟨start, _, found⟩
  have before : start <= last := sound.start_le within nonzero (UInt16.le_refl _) found lastStart
  exact ⟨start, reference, place, position, found, present, offset,
    Nat.le_trans before behind, inside, stop⟩

end Row

namespace Foreign

/-- From the address of the text on there is a terminator in the container, and the octets
in front of it are the text. -/
structure Delivers (container : Container) (text : ColumnText) : Prop where
  terminated : exists position, (text.address - container.base).toNat <= position ∧
    container.span.bytes[position]? = some columnTerminator
  text_eq : textAt container text.address = text.octets

/-- A caller who has the address of a column reads the column exactly if it is closed. -/
theorem delivers_iff {container : Container} {row : Row} {column : UInt16} {text : ColumnText}
    (whole : row.span = container.span) (read : row.column column = .ok text) :
    Delivers container text <-> row.ClosedAt column := by
  rcases Row.exists_place_of_column read with
    ⟨start, reference, place, found, present, offset, within, inside, distance, octets⟩
  have closed := Row.closedAt_iff_of_start found present offset within
  rw [whole] at inside distance octets closed
  have reached : (exists position, (text.address - container.base).toNat <= position ∧
      container.span.bytes[position]? = some columnTerminator) <->
      columnTerminator ∈ container.span.octetsFrom (place.toNat + start) := by
    rw [Container.base, distance]
    exact container.span.exists_terminator_iff (place.toNat + start)
  have alike : textAt container text.address = text.octets <->
      (container.span.octetsFrom (place.toNat + start)).takeWhile (· ≠ columnTerminator) =
        ((container.span.octetsFrom (place.toNat + start)).take
          (row.length - start)).takeWhile (· ≠ columnTerminator) := by
    have width : place.toNat + row.length - (place.toNat + start) = row.length - start := by
      omega
    have rest : (container.span.octetsFrom (place.toNat + start)).length <=
        container.capacity - (place.toNat + start) :=
      Nat.le_of_eq (container.span.length_octetsFrom _)
    rw [textAt, untilNul, Container.base, distance, octets, <- Array.toList_inj,
      Span.takeWhile_extract, Span.takeWhile_extract, width, List.take_of_length_le rest]
  rw [closed, <- takeWhile_take_eq_iff, <- reached, <- alike]
  constructor
  · rintro ⟨terminated, same⟩
    exact ⟨terminated, same⟩
  · rintro ⟨terminated, same⟩
    exact ⟨terminated, same⟩

end Foreign

namespace Container

/-- Every row that can be read from the container is closed. -/
def Closed (container : Container) : Prop :=
  forall kind table index row, container.table kind = .ok table ->
    table.rowAt index = .ok row -> row.Closed

theorem columnAddressAt_eq_map (container : Container) (kind : TableKind) (line : UInt32)
    (column : UInt16) :
    container.columnAddressAt kind line column =
      (container.columnAt kind line column).map (·.address) := by
  unfold columnAddressAt columnAt Table.columnAddressAt Table.columnAt
  cases lineIndex line (container.length kind) with
  | error refusal => rfl
  | ok index =>
      simp only [Outcome.lift_ok, Outcome.ok_bind]
      cases container.table kind with
      | error refusal => rfl
      | ok table =>
          simp only [Outcome.lift_ok, Outcome.ok_bind]
          cases table.rowAt index with
          | error refusal => rfl
          | ok row => exact row.columnAddress_eq_map column

/-- Callers who have the address of a column that was looked up read the column, whichever
of the lookups it was. -/
structure DeliversAll (container : Container) : Prop where
  columnAt : forall kind line column text, container.columnAt kind line column = .ok text ->
    Foreign.Delivers container text
  headFor : forall mark column text, container.headFor mark column = .ok (some text) ->
    Foreign.Delivers container text

/-- In a container that passes its check every lookup delivers its text exactly if every
row is closed. -/
theorem deliversAll_iff {container : Container} (valid : container.validate = .ok ()) :
    container.DeliversAll <-> container.Closed := by
  constructor
  · intro delivers kind table index row found read columns
    rcases sound_of_validate valid found read with ⟨starts, octets, sound⟩
    rcases sound.column_eq_ok columns (UInt16.le_refl _) with ⟨text, given⟩
    apply (Foreign.delivers_iff (span_of_rowAt found read) given).mp
    apply delivers.columnAt kind (UInt32.ofNat (index + 1)) row.header.columns text
    apply columnAt_eq_ok_iff.mpr
    exact ⟨index, table, row, lineIndex_succ found read, found, read, given⟩
  · intro closed
    constructor
    · intro kind line column text given
      rcases columnAt_eq_ok_iff.mp given with ⟨index, table, row, _, found, read, given⟩
      rcases sound_of_validate valid found read with ⟨starts, octets, sound⟩
      rcases Row.present_of_column given with ⟨nonzero, within⟩
      apply (Foreign.delivers_iff (span_of_rowAt found read) given).mpr
      exact sound.closedAt (closed kind table index row found read) nonzero within
    · intro mark column text given
      rcases headFor_eq_some_iff.mp given with ⟨hit, searched, same⟩
      rcases findHead_eq_some_iff.mp searched with ⟨head, index, row, found, _, read, given, _⟩
      rw [same] at given
      rcases sound_of_validate valid found read with ⟨starts, octets, sound⟩
      rcases Row.present_of_column given with ⟨nonzero, within⟩
      apply (Foreign.delivers_iff (span_of_rowAt found read) given).mpr
      exact sound.closedAt (closed .head head index row found read) nonzero within

end Container
end MappedTables
