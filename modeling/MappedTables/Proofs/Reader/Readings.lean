import Mathlib.Control.Monad.Basic
import MappedTables.Proofs.Reader.Validated

namespace MappedTables

/-!
Readings of a container.

A reading is one call of the reader: of a container, of one of its tables, of a
row that was read from a table, or of a cursor.  Run with the guarded reader, a
reading stops exactly if it comes to an entry of a table of column starts that
is out of reach, and then with an overflow.  The octets of the container, its
base address and the arguments of the call are arbitrary.
-/

/-- What can be asked of a row. -/
inductive RowReading where
  | text
  | mark
  | columnStarts
  | columnStart (column : UInt16)
  | columnAddress (column : UInt16)
  | column (column : UInt16)
  | columnString (column : UInt16)
  | validate
  deriving DecidableEq, Repr

/-- What can be asked of a container, its tables, their rows and a cursor. -/
inductive Reading where
  | version
  | stats
  | validate
  | columnAt (kind : TableKind) (line : UInt32) (column : UInt16)
  | columnAddressAt (kind : TableKind) (line : UInt32) (column : UInt16)
  | headFor (mark : UInt8) (column : UInt16)
  | findHead (mark : UInt8) (column : UInt16)
  | headRow (line : UInt32) (mark : UInt8)
  | rows (kind : TableKind)
  | validateTable (kind : TableKind)
  | cell (kind : TableKind) (index : Nat) (column : UInt16)
  | cellAddress (kind : TableKind) (index : Nat) (column : UInt16)
  | ofRow (kind : TableKind) (index : Nat) (reading : RowReading)
  | lookup (cursor : HeadCursor) (mark : UInt8) (column : UInt16)
  deriving DecidableEq, Repr

/-- Why a computation stopped, if it did. -/
def stopOf (result : Except Abort α) : Option Abort :=
  match result with
  | .ok _ => none
  | .error reason => some reason

@[simp] theorem stopOf_ok (value : α) : stopOf (.ok value) = none := rfl

theorem stopOf_eq_some_iff {result : Except Abort α} {reason : Abort} :
    stopOf result = some reason <-> result = .error reason := by
  cases result with
  | ok value => simp [stopOf]
  | error other => simp [stopOf]

theorem stopOf_settle_eq_some_iff {result : Except Fault α} {reason : Abort} :
    stopOf (settle result) = some reason <-> result = .error (.abort reason) := by
  cases result with
  | ok value => simp [stopOf, settle]
  | error fault =>
      cases fault with
      | error error => simp [stopOf, settle]
      | abort other => simp [stopOf, settle]

/-! ## Rows -/

namespace RowReading

/-- Why a reading of a row stops, if it does. -/
def stop (row : Row) : RowReading -> Option Abort
  | .text => stopOf (settle (Guarded.text row))
  | .mark => stopOf (Guarded.mark? row)
  | .columnStarts => stopOf (settle (Guarded.columnStarts row))
  | .columnStart number => stopOf (settle (Guarded.columnStart row number))
  | .columnAddress number => stopOf (settle (Guarded.columnAddress row number))
  | .column number => stopOf (settle (Guarded.column row number))
  | .columnString number => stopOf (settle (Guarded.columnString row number))
  | .validate => stopOf (settle (Guarded.validateRow row))

/-- The reading comes to an entry that is out of reach. -/
def Overflows (row : Row) : RowReading -> Prop
  | .text | .mark | .columnStarts | .validate => False
  | .columnStart number | .columnAddress number | .column number | .columnString number =>
      row.Overflows number

theorem stop_eq_some_iff (row : Row) (reading : RowReading) (reason : Abort) :
    reading.stop row = some reason <-> reason = .overflow ∧ reading.Overflows row := by
  cases reading with
  | text => simp [stop, Overflows, Guarded.text_eq]
  | mark => simp [stop, Overflows, Guarded.mark?_eq]
  | columnStarts => simp [stop, Overflows, Guarded.columnStarts_eq]
  | columnStart number =>
      rw [stop, Guarded.columnStart_eq, stopOf_settle_eq_some_iff]
      exact row.columnStart_stops_iff number reason
  | columnAddress number =>
      rw [stop, Guarded.columnAddress_eq, stopOf_settle_eq_some_iff]
      exact row.columnAddress_stops_iff number reason
  | column number =>
      rw [stop, Guarded.column_eq, stopOf_settle_eq_some_iff]
      exact row.column_stops_iff number reason
  | columnString number =>
      rw [stop, Guarded.columnString_eq, stopOf_settle_eq_some_iff]
      exact row.columnString_stops_iff number reason
  | validate => simp [stop, Overflows, Guarded.validateRow_eq]

end RowReading

/-! ## Containers -/

namespace Reading

/-- Why a reading of a table stops, if it does and the container has the table. -/
def stopInTable (container : Container) (kind : TableKind) (stop : Table -> Option Abort) :
    Option Abort :=
  match container.table kind with
  | .ok table => stop table
  | .error _ => none

theorem stopInTable_eq_some_iff {container : Container} {kind : TableKind}
    {stop : Table -> Option Abort} {reason : Abort} :
    stopInTable container kind stop = some reason <->
      exists table, container.table kind = .ok table ∧ stop table = some reason := by
  unfold stopInTable
  cases container.table kind with
  | error refusal => simp
  | ok table => simp

/-- Why a reading of a row that is first read from its table stops, if it does. -/
def stopInRow (table : Table) (index : Nat) (reading : RowReading) : Option Abort :=
  match settle (Guarded.rowAt table index) with
  | .ok (.ok row) => reading.stop row
  | .ok (.error _) => none
  | .error reason => some reason

theorem stopInRow_eq_some_iff {table : Table} {index : Nat} {reading : RowReading}
    {reason : Abort} :
    stopInRow table index reading = some reason <->
      exists row, table.rowAt index = .ok row ∧ reading.stop row = some reason := by
  rw [stopInRow, Guarded.rowAt_eq, settle_lift]
  cases table.rowAt index with
  | error refusal => simp
  | ok row => simp

/-- Why a reading of a container stops, if it does. -/
def stop (container : Container) : Reading -> Option Abort
  | .version => stopOf (Guarded.version container)
  | .stats => stopOf (Guarded.stats container)
  | .validate => stopOf (settle (Guarded.validate container))
  | .columnAt kind line column => stopOf (settle (Guarded.columnAt container kind line column))
  | .columnAddressAt kind line column =>
      stopOf (settle (Guarded.columnAddressAt container kind line column))
  | .headFor mark column => stopOf (Guarded.headFor container mark column)
  | .findHead mark column => stopOf (Guarded.findHead container mark column)
  | .headRow line mark => stopOf (Guarded.headRow? container line mark)
  | .rows kind => stopInTable container kind fun table => stopOf (Guarded.rows table)
  | .validateTable kind =>
      stopInTable container kind fun table =>
        stopOf (settle (Guarded.validateFrom table table.length 0))
  | .cell kind index column =>
      stopInTable container kind fun table => stopOf (settle (Guarded.columnOf table index column))
  | .cellAddress kind index column =>
      stopInTable container kind fun table =>
        stopOf (settle (Guarded.columnAddressOf table index column))
  | .ofRow kind index reading =>
      stopInTable container kind fun table => stopInRow table index reading
  | .lookup cursor mark column => stopOf (Guarded.lookup container cursor mark column)

/-- The reading comes to an entry that is out of reach. -/
def Overflows (container : Container) : Reading -> Prop
  | .version | .stats | .validate | .headRow _ _ | .rows _ | .validateTable _ => False
  | .columnAt kind line column | .columnAddressAt kind line column =>
      container.OverflowsAt kind line column
  | .headFor mark column | .findHead mark column => container.OverflowsFor mark column
  | .cell kind index column | .cellAddress kind index column =>
      exists table, container.table kind = .ok table ∧ table.Overflows index column
  | .ofRow kind index reading =>
      exists table row, container.table kind = .ok table ∧ table.rowAt index = .ok row ∧
        reading.Overflows row
  | .lookup cursor mark column =>
      cursor.Overflows container mark column ∨
        (cursor.tryHint container mark column = .ok none ∧ container.OverflowsFor mark column)

/-- The one way in which a reading stops. -/
theorem stop_eq_some_iff (container : Container) (reading : Reading) (reason : Abort) :
    reading.stop container = some reason <->
      reason = .overflow ∧ reading.Overflows container := by
  cases reading with
  | version => simp [stop, Overflows, Guarded.version_eq]
  | stats => simp [stop, Overflows, Guarded.stats_eq]
  | validate => simp [stop, Overflows, Guarded.validate_eq]
  | columnAt kind line column =>
      rw [stop, Guarded.columnAt_eq, stopOf_settle_eq_some_iff]
      exact container.columnAt_stops_iff kind line column reason
  | columnAddressAt kind line column =>
      rw [stop, Guarded.columnAddressAt_eq, stopOf_settle_eq_some_iff]
      exact container.columnAddressAt_stops_iff kind line column reason
  | headFor mark column =>
      rw [stop, Guarded.headFor_eq, stopOf_eq_some_iff]
      exact container.headFor_stops_iff mark column reason
  | findHead mark column =>
      rw [stop, Guarded.findHead_eq, stopOf_eq_some_iff]
      exact container.findHead_stops_iff mark column reason
  | headRow line mark => simp [stop, Overflows, Guarded.headRow?_eq]
  | rows kind => simp [stop, Overflows, stopInTable_eq_some_iff, Guarded.rows_eq]
  | validateTable kind =>
      simp [stop, Overflows, stopInTable_eq_some_iff, Guarded.validateFrom_eq]
  | cell kind index column =>
      rw [stop, stopInTable_eq_some_iff]
      simp only [Guarded.columnOf_eq, stopOf_settle_eq_some_iff, Table.columnAt_stops_iff]
      constructor
      · rintro ⟨table, read, same, overflows⟩
        exact ⟨same, table, read, overflows⟩
      · rintro ⟨same, table, read, overflows⟩
        exact ⟨table, read, same, overflows⟩
  | cellAddress kind index column =>
      rw [stop, stopInTable_eq_some_iff]
      simp only [Guarded.columnAddressOf_eq, stopOf_settle_eq_some_iff,
        Table.columnAddressAt_stops_iff]
      constructor
      · rintro ⟨table, read, same, overflows⟩
        exact ⟨same, table, read, overflows⟩
      · rintro ⟨same, table, read, overflows⟩
        exact ⟨table, read, same, overflows⟩
  | ofRow kind index reading =>
      rw [stop, stopInTable_eq_some_iff]
      simp only [stopInRow_eq_some_iff, RowReading.stop_eq_some_iff]
      constructor
      · rintro ⟨table, read, row, found, same, overflows⟩
        exact ⟨same, table, row, read, found, overflows⟩
      · rintro ⟨same, table, row, read, found, overflows⟩
        exact ⟨table, read, row, found, same, overflows⟩
  | lookup cursor mark column =>
      rw [stop, Guarded.lookup_eq, stopOf_eq_some_iff]
      exact cursor.lookup_stops_iff container mark column reason

theorem Overflows.exists_row {container : Container} {reading : Reading}
    (overflows : reading.Overflows container) :
    exists kind table index row column, container.table kind = .ok table ∧
      table.rowAt index = .ok row ∧ row.Overflows column := by
  cases reading with
  | version | stats | validate | headRow _ _ | rows _ | validateTable _ => cases overflows
  | columnAt kind line column | columnAddressAt kind line column =>
      rcases overflows with ⟨index, table, _, found, row, read, beyond⟩
      exact ⟨kind, table, index, row, column, found, read, beyond⟩
  | headFor mark column | findHead mark column =>
      rcases overflows with ⟨head, index, found, _, row, read, beyond⟩
      exact ⟨.head, head, index, row, column, found, read, beyond⟩
  | cell kind index column | cellAddress kind index column =>
      rcases overflows with ⟨table, found, row, read, beyond⟩
      exact ⟨kind, table, index, row, column, found, read, beyond⟩
  | ofRow kind index reading =>
      rcases overflows with ⟨table, row, found, read, beyond⟩
      cases reading with
      | text | mark | columnStarts | validate => cases beyond
      | columnStart number | columnAddress number | column number | columnString number =>
          exact ⟨kind, table, index, row, number, found, read, beyond⟩
  | lookup cursor mark column =>
      rcases overflows with ⟨line, row, _, hinted, beyond⟩ |
        ⟨_, head, index, found, _, row, read, beyond⟩
      · rcases container.headRow?_eq_some_iff.mp hinted with ⟨head, index, _, found, read, _⟩
        exact ⟨.head, head, index, row, column, found, read, beyond⟩
      · exact ⟨.head, head, index, row, column, found, read, beyond⟩

/-- A container that passes its check is read without a stop. -/
theorem stop_eq_none_of_validate {container : Container} (valid : container.validate = .ok ())
    (reading : Reading) : reading.stop container = none := by
  cases stopped : reading.stop container with
  | none => rfl
  | some reason =>
      rcases (reading.stop_eq_some_iff container reason).mp stopped with ⟨_, overflows⟩
      rcases overflows.exists_row with ⟨kind, table, index, row, column, found, read, beyond⟩
      rcases Container.sound_of_validate valid found read with ⟨starts, octets, sound⟩
      exact absurd beyond (sound.not_overflows column)

end Reading

namespace Container

/-- Whatever the octets and wherever they stand, opening them never stops, and a reading of
what was opened stops exactly if it comes to an entry out of reach. -/
theorem opened_reading_stops_iff (base : UInt64) (bytes : Bytes) :
    settle (Guarded.ofSpan { base, bytes }) = .ok (ofSpan { base, bytes }) ∧
      forall container, ofSpan { base, bytes } = .ok container ->
        forall (reading : Reading) (reason : Abort),
          reading.stop container = some reason <->
            reason = .overflow ∧ reading.Overflows container := by
  constructor
  · rw [Guarded.ofSpan_eq, settle_lift]
  · intro container _ reading reason
    exact reading.stop_eq_some_iff container reason

/-! ## A stray reference -/

/-- A row of two columns whose table of starts is said to begin at the last address. -/
def strayRow : RowHeader where
  textWord := 0
  startsWord := 18446744073709551615
  length := 8
  columns := 2
  modeFlag := 1
  reserved := 0

/-- A container with that row alone, at the end of the header. -/
def strayHeader : ContainerHeader where
  magic := containerMagic
  layoutVersion := MappedTables.layoutVersion
  modeFlag := 1
  reserved := 0
  head := { arrayWord := 80, length := 1, capacity := 1, modeFlag := 1, reserved := 0 }
  data := { arrayWord := 80, length := 0, capacity := 0, modeFlag := 1, reserved := 0 }
  capacity := 104
  versionWord := 0

def strayBytes : Bytes :=
  (StoredHeader.encode strayHeader ++ StoredHeader.encode strayRow).toArray

def strayContainer : Container where
  span := { base := 4096, bytes := strayBytes }
  header := strayHeader
  mode := .relocatable

theorem strayContainer_opened :
    ofSpan { base := 4096, bytes := strayBytes } = .ok strayContainer := by
  decide +kernel

theorem opened_reading_stops_iff_stray :
    ofSpan { base := 4096, bytes := strayBytes } = .ok strayContainer ∧
      ((Reading.headFor 83 2).stop strayContainer = some .overflow <->
        Abort.overflow = .overflow ∧ (Reading.headFor 83 2).Overflows strayContainer) ∧
      (Reading.validate.stop strayContainer = some .overflow <->
        Abort.overflow = .overflow ∧ Reading.validate.Overflows strayContainer) := by
  have readings :=
    (opened_reading_stops_iff 4096 strayBytes).2 strayContainer strayContainer_opened
  exact ⟨strayContainer_opened, readings (.headFor 83 2) .overflow,
    readings .validate .overflow⟩

/-- The container is opened, and the search for its one row stops. -/
theorem stray_search_stops :
    ofSpan { base := 4096, bytes := strayBytes } = .ok strayContainer ∧
      strayContainer.headFor 83 2 = .error .overflow ∧
      (Reading.headFor 83 2).stop strayContainer = some .overflow :=
  ⟨strayContainer_opened, by decide +kernel, by decide +kernel⟩

end Container
end MappedTables
