import MappedTables.Proofs.Reader.Moved
import MappedTables.Proofs.Reader.Readings

namespace MappedTables

/-!
The answers of a container, wherever it stands.

An answer is all that a caller can learn from a reading: the octets, the lines,
the failure or the stop, and of an address only how far it lies from the base of
the container.  The answers are those of the guarded reader, so that a stop can
come from any step.  A relocatable container gives the same answers at any two
addresses that keep the same distance from the multiples of the header
alignment, and it is opened at both or refused at both for the same reason.

The base of a container enters its reader in two places.  One is the distance of
a live reference; a table and a row in the other mode than the container are
refused before any of their references is followed, so that no live reference is
met.  The other is the check of alignment, which asks for a remainder only.
-/

/-! ## Answers -/

/-- Octets, and how far from the base of the container they stand. -/
structure PlacedText where
  distance : UInt64
  octets : Bytes
  deriving DecidableEq, Repr

/-- A column by its distance from a base. -/
def ColumnText.placed (base : UInt64) (text : ColumnText) : PlacedText where
  distance := text.address - base
  octets := text.octets

namespace RowReading

/-- What a reading of a row gives unless it stops. -/
def Result : RowReading -> Type
  | .text => Except Error PlacedText
  | .mark => Option UInt8
  | .columnStarts => Except Error (List Nat)
  | .columnStart _ => Except Error Nat
  | .columnAddress _ => Except Error UInt64
  | .column _ => Except Error PlacedText
  | .columnString _ => Except Error (Option String)
  | .validate => Except Error Unit

/-- The text of a row and its address. -/
def placedText (row : Row) : Except Fault PlacedText := do
  let octets ← Guarded.text row
  return { distance := (← row.textAddress) - row.span.base, octets }

/-- The answer of a row to a reading. -/
def answer (row : Row) : (reading : RowReading) -> Except Abort reading.Result
  | .text => settle (placedText row)
  | .mark => Guarded.mark? row
  | .columnStarts => settle (Guarded.columnStarts row)
  | .columnStart number => settle (Guarded.columnStart row number)
  | .columnAddress number => settle ((Guarded.columnAddress row number).map (· - row.span.base))
  | .column number => settle ((Guarded.column row number).map (·.placed row.span.base))
  | .columnString number => settle (Guarded.columnString row number)
  | .validate => settle (Guarded.validateRow row)

end RowReading

/-- A row as its slot and its answers, without the memory that holds it. -/
structure RowView where
  header : RowHeader
  answer : (reading : RowReading) -> Except Abort reading.Result

/-- What can be seen of a row. -/
def Row.shown (row : Row) : RowView where
  header := row.header
  answer := RowReading.answer row

/-- The answer to a lookup and the cursor after it. -/
def HeadCursor.answer (container : Container) (cursor : HeadCursor) (mark : UInt8)
    (column : UInt16) : Except Abort (Option PlacedText × HeadCursor) :=
  (Guarded.lookup container cursor mark column).map fun found =>
    (found.1.map (·.placed container.base), found.2)

namespace Reading

/-- What a reading of a container gives unless it stops. -/
def Result : Reading -> Type
  | .version => String
  | .stats => ContainerStats
  | .validate => Except Error Unit
  | .columnAt _ _ _ => Except Error PlacedText
  | .columnAddressAt _ _ _ => Except Error UInt64
  | .headFor _ _ => Option PlacedText
  | .findHead _ _ => Option (UInt32 × PlacedText)
  | .headRow _ _ => Option RowView
  | .rows _ => Except Error (List (Except Error RowView))
  | .validateTable _ => Except Error Unit
  | .cell _ _ _ => Except Error PlacedText
  | .cellAddress _ _ _ => Except Error UInt64
  | .ofRow _ _ reading => Except Error reading.Result
  | .lookup _ _ _ => Option PlacedText × HeadCursor

/-- The answer of a table of the container, if the container has it. -/
def answerOfTable (container : Container) (kind : TableKind)
    (ask : Table -> Except Abort (Except Error α)) : Except Abort (Except Error α) :=
  match container.table kind with
  | .error error => .ok (.error error)
  | .ok table => ask table

/-- The answer of a row that is first read from its table. -/
def answerOfRow (table : Table) (index : Nat) (reading : RowReading) :
    Except Abort (Except Error reading.Result) := do
  match ← settle (Guarded.rowAt table index) with
  | .error error => return .error error
  | .ok row => return .ok (← reading.answer row)

/-- The answer of a container to a reading. -/
def answer (container : Container) : (reading : Reading) -> Except Abort reading.Result
  | .version => Guarded.version container
  | .stats => Guarded.stats container
  | .validate => settle (Guarded.validate container)
  | .columnAt kind line column =>
      settle ((Guarded.columnAt container kind line column).map (·.placed container.base))
  | .columnAddressAt kind line column =>
      settle ((Guarded.columnAddressAt container kind line column).map (· - container.base))
  | .headFor mark column =>
      (Guarded.headFor container mark column).map (Option.map (·.placed container.base))
  | .findHead mark column =>
      (Guarded.findHead container mark column).map
        (Option.map fun hit => (hit.line, hit.text.placed container.base))
  | .headRow line mark => (Guarded.headRow? container line mark).map (Option.map Row.shown)
  | .rows kind =>
      answerOfTable container kind fun table =>
        (Guarded.rows table).map fun rows => .ok (rows.map (Except.map Row.shown))
  | .validateTable kind =>
      answerOfTable container kind fun table =>
        settle (Guarded.validateFrom table table.length 0)
  | .cell kind index column =>
      answerOfTable container kind fun table =>
        settle ((Guarded.columnOf table index column).map (·.placed container.base))
  | .cellAddress kind index column =>
      answerOfTable container kind fun table =>
        settle ((Guarded.columnAddressOf table index column).map (· - container.base))
  | .ofRow kind index reading =>
      answerOfTable container kind fun table => answerOfRow table index reading
  | .lookup cursor mark column => cursor.answer container mark column

end Reading

/-- The answers to a sequence of lookups with one cursor, each with the cursor after it.
A lookup that stops leaves the cursor as it was. -/
def HeadCursor.answers (container : Container) :
    HeadCursor -> List (UInt8 × UInt16) -> List (Except Abort (Option PlacedText) × HeadCursor)
  | _, [] => []
  | cursor, (mark, column) :: rest =>
      match cursor.answer container mark column with
      | .error reason => (.error reason, cursor) :: cursor.answers container rest
      | .ok (found, next) => (.ok found, next) :: next.answers container rest

/-- Two containers cannot be told apart by their answers. -/
structure Container.AnswersAlike (here there : Container) : Prop where
  reading : forall reading : Reading, reading.answer here = reading.answer there
  lookups : forall (cursor : HeadCursor) (calls : List (UInt8 × UInt16)),
    cursor.answers here calls = cursor.answers there calls

/-- Two attempts to open a container fail with the same error, or both succeed and give
containers that are alike. -/
def OpenedAlike (alike : Container -> Container -> Prop) :
    Except Error Container -> Except Error Container -> Prop
  | .error error, .error other => error = other
  | .ok here, .ok there => alike here there
  | _, _ => False

/-! ## Rows -/

namespace Row

variable {row : Row} (mode : row.header.mode = .ok .relocatable) (base : UInt64)
include mode

theorem textAddress_of_mode : row.textAddress = .ok (row.span.base + row.header.textWord) := by
  rw [textAddress, RowHeader.textReference_of_mode mode]
  rfl

theorem mark?_movedTo : (row.movedTo base).mark? = row.mark? := by
  unfold mark?
  rw [text_movedTo mode]

theorem column_movedTo (column : UInt16) :
    ((row.movedTo base).column column).map (·.placed base) =
      (row.column column).map (·.placed row.span.base) := by
  have address : (row.movedTo base).textAddress = .ok (base + row.header.textWord) :=
    @textAddress_of_mode (row.movedTo base) mode
  unfold Row.column
  rw [columnStart_movedTo mode, text_movedTo mode, address, textAddress_of_mode mode]
  cases row.columnStart column with
  | error fault => rfl
  | ok start =>
      cases row.text with
      | error refusal => rfl
      | ok octets =>
          simp only [Outcome.ok_bind, Outcome.lift_ok]
          cases tail octets start with
          | error reason => rfl
          | ok rest =>
              simp only [Outcome.ok_bind, Outcome.liftAbort_ok, Outcome.pure_eq_ok, Except.map,
                ColumnText.placed, distance_eq]

theorem columnAddress_movedTo (column : UInt16) :
    ((row.movedTo base).columnAddress column).map (· - base) =
      (row.columnAddress column).map (· - row.span.base) := by
  have distances : forall whole : Row,
      (whole.columnAddress column).map (· - whole.span.base) =
        ((whole.column column).map (·.placed whole.span.base)).map (·.distance) := by
    intro whole
    rw [columnAddress_eq_map]
    cases whole.column column with
    | error fault => rfl
    | ok text => rfl
  have moved := distances (row.movedTo base)
  rw [distances row, <- column_movedTo mode base column]
  exact moved

theorem columnString_movedTo (column : UInt16) :
    (row.movedTo base).columnString column = row.columnString column := by
  have octets : forall whole : Row, whole.columnString column =
      ((whole.column column).map (·.placed whole.span.base)).map
        fun text => Utf8.decode? text.octets := by
    intro whole
    unfold columnString
    cases whole.column column with
    | error fault => rfl
    | ok text => rfl
  have moved := octets (row.movedTo base)
  rw [octets row, <- column_movedTo mode base column]
  exact moved

theorem placedText_movedTo :
    RowReading.placedText (row.movedTo base) = RowReading.placedText row := by
  have address : (row.movedTo base).textAddress = .ok (base + row.header.textWord) :=
    @textAddress_of_mode (row.movedTo base) mode
  have distance : forall start : UInt64, start + row.header.textWord - start =
      row.header.textWord := by
    intro start
    rw [UInt64.add_comm, UInt64.add_sub_cancel]
  unfold RowReading.placedText
  rw [Guarded.text_eq, Guarded.text_eq, text_movedTo mode, address, textAddress_of_mode mode]
  cases row.text with
  | error refusal => rfl
  | ok octets =>
      simp only [Outcome.lift_ok, Outcome.ok_bind, distance]
      exact congrArg (fun word => Except.ok (PlacedText.mk word octets)) (distance base)

/-- A row answers every reading alike wherever it stands. -/
theorem answer_movedTo (reading : RowReading) :
    reading.answer (row.movedTo base) = reading.answer row := by
  cases reading with
  | text => exact congrArg settle (placedText_movedTo mode base)
  | mark =>
      change Guarded.mark? _ = Guarded.mark? _
      rw [Guarded.mark?_eq, Guarded.mark?_eq, mark?_movedTo mode]
  | columnStarts =>
      change settle (Guarded.columnStarts _) = settle (Guarded.columnStarts _)
      rw [Guarded.columnStarts_eq, Guarded.columnStarts_eq, columnStarts_movedTo mode]
  | columnStart number =>
      change settle (Guarded.columnStart _ number) = settle (Guarded.columnStart _ number)
      rw [Guarded.columnStart_eq, Guarded.columnStart_eq, columnStart_movedTo mode]
  | columnAddress number =>
      simp only [RowReading.answer, Guarded.columnAddress_eq]
      exact congrArg settle (columnAddress_movedTo mode base number)
  | column number =>
      simp only [RowReading.answer, Guarded.column_eq]
      exact congrArg settle (column_movedTo mode base number)
  | columnString number =>
      change settle (Guarded.columnString _ number) = settle (Guarded.columnString _ number)
      rw [Guarded.columnString_eq, Guarded.columnString_eq, columnString_movedTo mode]
  | validate =>
      change settle (Guarded.validateRow _) = settle (Guarded.validateRow _)
      rw [Guarded.validateRow_eq, Guarded.validateRow_eq, validate_movedTo mode]

theorem shown_movedTo : (row.movedTo base).shown = row.shown := by
  have answers : RowReading.answer (row.movedTo base) = RowReading.answer row :=
    funext (answer_movedTo mode base)
  unfold shown
  rw [answers]
  rfl

end Row

/-! ## Tables -/

/-- Treating failures as misses goes along with changing the value. -/
theorem attempt_map (change : α -> β) (result : Except Fault α) :
    attempt (result.map change) = (attempt result).map (Option.map change) := by
  cases result with
  | ok value => rfl
  | error fault =>
      cases fault with
      | error error => rfl
      | abort reason => rfl

namespace Table

variable {table : Table} (mode : table.mode = .relocatable)
  (recorded : table.header.mode = .ok .relocatable) {base : UInt64}
  (aligned : AlignedAlike table.span.base base)
include mode recorded aligned

theorem markAt?_movedTo (index : Nat) :
    (table.movedTo base).markAt? index = table.markAt? index := by
  unfold markAt?
  rw [rowAt_movedTo recorded aligned]
  cases read : table.rowAt index with
  | error refusal => rfl
  | ok row => exact Row.mark?_movedTo (mode_of_rowAt mode read) base

theorem find?_movedTo (mark : UInt8) : (table.movedTo base).find? mark = table.find? mark := by
  have marks : (table.movedTo base).markAt? = table.markAt? :=
    funext (markAt?_movedTo mode recorded aligned)
  unfold find?
  rw [marks]
  rfl

theorem columnAt_movedTo (index : Nat) (column : UInt16) :
    ((table.movedTo base).columnAt index column).map (·.placed base) =
      (table.columnAt index column).map (·.placed table.span.base) := by
  unfold columnAt
  rw [rowAt_movedTo recorded aligned]
  cases read : table.rowAt index with
  | error refusal => rfl
  | ok row =>
      rw [<- span_of_rowAt read]
      exact Row.column_movedTo (mode_of_rowAt mode read) base column

theorem columnAddressAt_movedTo (index : Nat) (column : UInt16) :
    ((table.movedTo base).columnAddressAt index column).map (· - base) =
      (table.columnAddressAt index column).map (· - table.span.base) := by
  unfold columnAddressAt
  rw [rowAt_movedTo recorded aligned]
  cases read : table.rowAt index with
  | error refusal => rfl
  | ok row =>
      rw [<- span_of_rowAt read]
      exact Row.columnAddress_movedTo (mode_of_rowAt mode read) base column

theorem rows_movedTo :
    (table.movedTo base).rows.map (Except.map Row.shown) =
      table.rows.map (Except.map Row.shown) := by
  have count : (table.movedTo base).length = table.length := rfl
  unfold rows
  rw [count, List.map_map, List.map_map]
  apply List.map_congr_left
  intro index _
  rw [Function.comp_apply, Function.comp_apply, rowAt_movedTo recorded aligned]
  cases read : table.rowAt index with
  | error refusal => rfl
  | ok row => exact congrArg Except.ok (Row.shown_movedTo (mode_of_rowAt mode read) base)

theorem answerOfRow_movedTo (index : Nat) (reading : RowReading) :
    Reading.answerOfRow (table.movedTo base) index reading =
      Reading.answerOfRow table index reading := by
  unfold Reading.answerOfRow
  rw [Guarded.rowAt_eq, Guarded.rowAt_eq, rowAt_movedTo recorded aligned]
  cases read : table.rowAt index with
  | error refusal => rfl
  | ok row =>
      change (reading.answer (row.movedTo base) >>= _) = (reading.answer row >>= _)
      rw [Row.answer_movedTo (mode_of_rowAt mode read)]

end Table

/-! ## Containers -/

namespace Container

theorem version_movedTo {container : Container} (mode : container.header.mode = .ok .relocatable)
    (base : UInt64) : (container.movedTo base).version = container.version := by
  have reference : container.header.versionReference =
      .ok (.relocatable container.header.versionWord) := by
    rw [ContainerHeader.versionReference, mode]
    rfl
  have moved : (container.movedTo base).header.versionReference =
      .ok (.relocatable container.header.versionWord) := reference
  unfold version
  rw [moved, reference]
  rfl

theorem stats_movedTo {container : Container} (mode : container.header.mode = .ok .relocatable)
    (base : UInt64) : (container.movedTo base).stats = container.stats := by
  unfold stats
  rw [version_movedTo mode]
  rfl

variable {container : Container} {base : UInt64} (mode : container.mode = .relocatable)
  (aligned : AlignedAlike container.base base)
include mode

/-- What holds of every relocatable table of the container that stands where the container
stands holds of the answer of the table. -/
theorem answerOfTable_movedTo {kind : TableKind} {Answer : Type}
    {askThere askHere : Table -> Except Abort (Except Error Answer)}
    (same : forall table, container.table kind = .ok table -> table.mode = .relocatable ->
      table.header.mode = .ok .relocatable -> table.span.base = container.base ->
      askThere (table.movedTo base) = askHere table) :
    Reading.answerOfTable (container.movedTo base) kind askThere =
      Reading.answerOfTable container kind askHere := by
  unfold Reading.answerOfTable
  rw [table_movedTo]
  cases found : container.table kind with
  | error refusal => rfl
  | ok table =>
      rcases recorded_of_table mode found with ⟨tableMode, recorded⟩
      exact same table found tableMode recorded (congrArg Span.base (span_of_table found))

include aligned

theorem columnAt_movedTo (kind : TableKind) (line : UInt32) (column : UInt16) :
    ((container.movedTo base).columnAt kind line column).map (·.placed base) =
      (container.columnAt kind line column).map (·.placed container.base) := by
  have count : (container.movedTo base).length kind = container.length kind := rfl
  unfold columnAt
  rw [count, table_movedTo]
  cases lineIndex line (container.length kind) with
  | error refusal => rfl
  | ok index =>
      cases found : container.table kind with
      | error refusal => rfl
      | ok table =>
          rcases recorded_of_table mode found with ⟨tableMode, recorded⟩
          rw [Container.base, <- span_of_table found] at aligned ⊢
          exact Table.columnAt_movedTo tableMode recorded aligned index column

theorem columnAddressAt_movedTo (kind : TableKind) (line : UInt32) (column : UInt16) :
    ((container.movedTo base).columnAddressAt kind line column).map (· - base) =
      (container.columnAddressAt kind line column).map (· - container.base) := by
  have count : (container.movedTo base).length kind = container.length kind := rfl
  unfold columnAddressAt
  rw [count, table_movedTo]
  cases lineIndex line (container.length kind) with
  | error refusal => rfl
  | ok index =>
      cases found : container.table kind with
      | error refusal => rfl
      | ok table =>
          rcases recorded_of_table mode found with ⟨tableMode, recorded⟩
          rw [Container.base, <- span_of_table found] at aligned ⊢
          exact Table.columnAddressAt_movedTo tableMode recorded aligned index column

theorem findHead_movedTo (mark : UInt8) (column : UInt16) :
    ((container.movedTo base).findHead mark column).map
        (Option.map fun hit => (hit.line, hit.text.placed base)) =
      (container.findHead mark column).map
        (Option.map fun hit => (hit.line, hit.text.placed container.base)) := by
  unfold findHead
  rw [table_movedTo]
  cases found : container.table .head with
  | error refusal => rfl
  | ok head =>
      rcases recorded_of_table mode found with ⟨headMode, recorded⟩
      rw [Container.base, <- span_of_table found] at aligned ⊢
      simp only [Except.map, Table.find?_movedTo headMode recorded aligned]
      cases hit : head.find? mark with
      | none => rfl
      | some index =>
          -- Where the match stands is all that its place in memory decides.
          have matched : forall (origin : UInt64) (result : Except Fault ColumnText)
              (found : Option ColumnText -> Except Abort (Option HeadMatch)),
              found none = .ok none ->
              (forall text, found (some text) = .ok (some ⟨UInt32.ofNat (index + 1), text⟩)) ->
              (attempt result >>= found).map
                  (Option.map fun hit => (hit.line, hit.text.placed origin)) =
                (attempt (result.map (·.placed origin))).map
                  (Option.map fun text => (UInt32.ofNat (index + 1), text)) := by
            intro origin result found missing present
            rw [attempt_map]
            cases attempt result with
            | error reason => rfl
            | ok answer =>
                cases answer with
                | none => exact congrArg _ missing
                | some text => exact congrArg _ (present text)
          refine Eq.trans (matched base _ _ ?_ ?_) (Eq.trans ?_ (matched _ _ _ ?_ ?_).symm)
          · rfl
          · exact fun _ => rfl
          · rw [Table.columnAt_movedTo headMode recorded aligned]
          · rfl
          · exact fun _ => rfl

theorem headFor_movedTo (mark : UInt8) (column : UInt16) :
    ((container.movedTo base).headFor mark column).map (Option.map (·.placed base)) =
      (container.headFor mark column).map (Option.map (·.placed container.base)) := by
  have texts : forall whole : Container,
      (whole.headFor mark column).map (Option.map (·.placed whole.base)) =
        ((whole.findHead mark column).map
          (Option.map fun hit => (hit.line, hit.text.placed whole.base))).map
          (Option.map (·.2)) := by
    intro whole
    unfold headFor
    cases whole.findHead mark column with
    | error reason => rfl
    | ok found =>
        cases found with
        | none => rfl
        | some hit => rfl
  have moved := texts (container.movedTo base)
  rw [texts container, <- findHead_movedTo mode aligned]
  exact moved

theorem headRow?_movedTo (line : UInt32) (mark : UInt8) :
    (container.movedTo base).headRow? line mark =
      (container.headRow? line mark).map (·.movedTo base) := by
  have count : (container.movedTo base).length .head = container.length .head := rfl
  unfold headRow?
  rw [count, table_movedTo]
  cases lineIndex line (container.length .head) with
  | error refusal => rfl
  | ok index =>
      cases found : container.table .head with
      | error refusal => rfl
      | ok head =>
          rcases recorded_of_table mode found with ⟨headMode, recorded⟩
          rw [Container.base, <- span_of_table found] at aligned
          simp only [Outcome.ok_bind, Except.map, Table.rowAt_movedTo recorded aligned]
          cases read : head.rowAt index with
          | error refusal => rfl
          | ok row =>
              simp only [Row.mark?_movedTo (Table.mode_of_rowAt headMode read)]
              by_cases marked : row.mark? = some mark
              · simp only [if_pos marked, Option.map_some]
              · simp only [if_neg marked, Option.map_none]

omit mode aligned in
theorem mode_of_headRow? {line : UInt32} {mark : UInt8} {row : Row}
    (mode : container.mode = .relocatable) (hinted : container.headRow? line mark = some row) :
    row.header.mode = .ok .relocatable ∧ row.span = container.span := by
  rcases container.headRow?_eq_some_iff.mp hinted with ⟨head, index, _, found, read, _⟩
  exact ⟨Table.mode_of_rowAt (recorded_of_table mode found).1 read, span_of_rowAt found read⟩

end Container

/-! ## Cursors -/

namespace HeadCursor

/-- The answer to a lookup by its two halves: the remembered row, and the search when that
row gives nothing. -/
theorem answer_eq (cursor : HeadCursor) (container : Container) (mark : UInt8)
    (column : UInt16) :
    cursor.answer container mark column =
      ((cursor.tryHint container mark column).map (Option.map (·.placed container.base)) >>=
        fun hinted =>
          match hinted with
          | some text => .ok (some text, cursor)
          | none =>
              ((container.findHead mark column).map
                (Option.map fun hit => (hit.line, hit.text.placed container.base))).map
                fun found =>
                  match found with
                  | none => (none, cursor)
                  | some hit => (some hit.2, { lastLine := some hit.1 })) := by
  unfold answer
  rw [Guarded.lookup_eq, lookup]
  cases cursor.tryHint container mark column with
  | error reason => rfl
  | ok hinted =>
      cases hinted with
      | some text => rfl
      | none =>
          simp only [Outcome.ok_bind, Except.map, Option.map_none]
          cases container.findHead mark column with
          | error reason => rfl
          | ok found =>
              cases found with
              | none => rfl
              | some hit => rfl

variable {container : Container} {base : UInt64} (mode : container.mode = .relocatable)
  (aligned : AlignedAlike container.base base)
include mode aligned

theorem tryHint_movedTo (cursor : HeadCursor) (mark : UInt8) (column : UInt16) :
    (cursor.tryHint (container.movedTo base) mark column).map (Option.map (·.placed base)) =
      (cursor.tryHint container mark column).map (Option.map (·.placed container.base)) := by
  unfold tryHint
  cases cursor.lastLine with
  | none => rfl
  | some line =>
      simp only [Container.headRow?_movedTo mode aligned]
      cases hinted : container.headRow? line mark with
      | none => rfl
      | some row =>
          rcases Container.mode_of_headRow? mode hinted with ⟨rowMode, whole⟩
          simp only [Option.map_some]
          rw [<- attempt_map, <- attempt_map, Row.column_movedTo rowMode, Container.base, whole]

theorem answer_movedTo (cursor : HeadCursor) (mark : UInt8) (column : UInt16) :
    cursor.answer (container.movedTo base) mark column = cursor.answer container mark column := by
  have moved := cursor.answer_eq (container.movedTo base) mark column
  rw [cursor.answer_eq container, <- tryHint_movedTo mode aligned,
    <- Container.findHead_movedTo mode aligned]
  exact moved

/-- By induction on the calls: the cursor after each call is the same at both places. -/
theorem answers_movedTo (cursor : HeadCursor) (calls : List (UInt8 × UInt16)) :
    cursor.answers (container.movedTo base) calls = cursor.answers container calls := by
  induction calls generalizing cursor with
  | nil => rfl
  | cons call rest ih =>
      rcases call with ⟨mark, column⟩
      rw [answers, answers, answer_movedTo mode aligned]
      cases cursor.answer container mark column with
      | error reason => exact congrArg _ (ih cursor)
      | ok found => exact congrArg _ (ih found.2)

end HeadCursor

/-! ## Two addresses -/

namespace Container

variable {container : Container} {base : UInt64}

/-- A relocatable container answers every reading alike wherever it stands. -/
theorem answer_movedTo (mode : container.mode = .relocatable)
    (recorded : container.header.mode = .ok .relocatable)
    (aligned : AlignedAlike container.base base) (reading : Reading) :
    reading.answer (container.movedTo base) = reading.answer container := by
  cases reading with
  | version =>
      change Guarded.version _ = Guarded.version _
      rw [Guarded.version_eq, Guarded.version_eq, version_movedTo recorded]
  | stats =>
      change Guarded.stats _ = Guarded.stats _
      rw [Guarded.stats_eq, Guarded.stats_eq, stats_movedTo recorded]
  | validate =>
      change settle (Guarded.validate _) = settle (Guarded.validate _)
      rw [Guarded.validate_eq, Guarded.validate_eq, validate_movedTo mode aligned]
  | columnAt kind line column =>
      simp only [Reading.answer, Guarded.columnAt_eq]
      exact congrArg settle (columnAt_movedTo mode aligned kind line column)
  | columnAddressAt kind line column =>
      simp only [Reading.answer, Guarded.columnAddressAt_eq]
      exact congrArg settle (columnAddressAt_movedTo mode aligned kind line column)
  | headFor mark column =>
      simp only [Reading.answer, Guarded.headFor_eq]
      exact headFor_movedTo mode aligned mark column
  | findHead mark column =>
      simp only [Reading.answer, Guarded.findHead_eq]
      exact findHead_movedTo mode aligned mark column
  | headRow line mark =>
      simp only [Reading.answer, Guarded.headRow?_eq, headRow?_movedTo mode aligned]
      cases hinted : container.headRow? line mark with
      | none => rfl
      | some row =>
          have shown := Row.shown_movedTo (mode_of_headRow? mode hinted).1 base
          exact congrArg (fun view => Except.ok (some view)) shown
  | rows kind =>
      apply answerOfTable_movedTo mode
      intro table _ tableMode headerMode whole
      have rows := Table.rows_movedTo tableMode headerMode (whole ▸ aligned)
      rw [Guarded.rows_eq, Guarded.rows_eq]
      exact congrArg (fun views => Except.ok (Except.ok views)) rows
  | validateTable kind =>
      apply answerOfTable_movedTo mode
      intro table _ tableMode headerMode whole
      rw [Guarded.validateFrom_eq, Guarded.validateFrom_eq,
        Table.validateFrom_movedTo tableMode headerMode (whole ▸ aligned)]
      rfl
  | cell kind index column =>
      apply answerOfTable_movedTo mode
      intro table _ tableMode headerMode whole
      have cells := Table.columnAt_movedTo tableMode headerMode (whole ▸ aligned) index column
      rw [Guarded.columnOf_eq, Guarded.columnOf_eq, <- whole]
      exact congrArg settle cells
  | cellAddress kind index column =>
      apply answerOfTable_movedTo mode
      intro table _ tableMode headerMode whole
      have cells :=
        Table.columnAddressAt_movedTo tableMode headerMode (whole ▸ aligned) index column
      rw [Guarded.columnAddressOf_eq, Guarded.columnAddressOf_eq, <- whole]
      exact congrArg settle cells
  | ofRow kind index reading =>
      apply answerOfTable_movedTo mode
      intro table _ tableMode headerMode whole
      exact Table.answerOfRow_movedTo tableMode headerMode (whole ▸ aligned) index reading
  | lookup cursor mark column =>
      exact HeadCursor.answer_movedTo mode aligned cursor mark column

theorem answersAlike_movedTo (mode : container.mode = .relocatable)
    (recorded : container.header.mode = .ok .relocatable)
    (aligned : AlignedAlike container.base base) :
    AnswersAlike container (container.movedTo base) where
  reading reading := (answer_movedTo mode recorded aligned reading).symm
  lookups cursor calls := (HeadCursor.answers_movedTo mode aligned cursor calls).symm

/-- A container in a mode has a header in that mode. -/
theorem mode_of_ofSpan {span : Span} (opened : ofSpan span = .ok container) :
    container.header.mode = .ok container.mode := by
  rcases ofSpan_eq_ok_iff.mp opened with ⟨_, header, mode, _, _, recorded, rfl⟩
  exact recorded

theorem base_of_ofSpan {span : Span} (opened : ofSpan span = .ok container) :
    container.base = span.base := by
  rcases ofSpan_eq_ok_iff.mp opened with ⟨_, header, mode, _, _, _, rfl⟩
  rfl

/-- A container has no more octets than the span that it was found in. -/
theorem capacity_le_of_ofSpan {span : Span} (opened : ofSpan span = .ok container) :
    container.capacity <= span.size := by
  rcases ofSpan_eq_ok_iff.mp opened with ⟨_, header, mode, _, _, _, rfl⟩
  change (span.bytes.extract 0 header.capacity.toNat).size <= span.bytes.size
  rw [Array.size_extract, Nat.sub_zero]
  exact Nat.min_le_right _ _

/-- Octets that open at one address open at every other one with the same remainder, as a
container that gives the same answers. -/
theorem exists_ofRelocated_alike {bytes : Bytes} {left right : UInt64}
    (aligned : AlignedAlike left right) {here : Container}
    (opened : ofRelocated { base := left, bytes } = .ok here) :
    exists there, ofRelocated { base := right, bytes } = .ok there ∧ AnswersAlike here there := by
  rcases ofRelocated_eq_ok_iff.mp opened with ⟨viewed, mode⟩
  have recorded := mode_of_ofSpan viewed
  have moved := @ofRelocated_movedTo right { base := left, bytes } aligned
  rw [mode] at recorded
  rw [opened] at moved
  exact ⟨here.movedTo right, moved,
    answersAlike_movedTo mode recorded ((base_of_ofSpan viewed).symm ▸ aligned)⟩

/-- Octets that stand at two addresses with the same remainder are opened as a container at
both or refused at both with the same error, and a relocatable container gives the same
answers at both. -/
theorem same_answers_at_aligned_bases (bytes : Bytes) {left right : UInt64}
    (aligned : AlignedAlike left right) :
    OpenedAlike (fun here there => here.mode = .relocatable -> AnswersAlike here there)
        (ofSpan { base := left, bytes }) (ofSpan { base := right, bytes }) ∧
      OpenedAlike AnswersAlike
        (ofRelocated { base := left, bytes }) (ofRelocated { base := right, bytes }) := by
  have alike : forall here, ofSpan { base := left, bytes } = .ok here ->
      here.mode = .relocatable -> AnswersAlike here (here.movedTo right) := by
    intro here opened mode
    have recorded := mode_of_ofSpan opened
    rw [mode] at recorded
    exact answersAlike_movedTo mode recorded ((base_of_ofSpan opened).symm ▸ aligned)
  constructor
  · have moved := @ofSpan_movedTo right { base := left, bytes } aligned
    change ofSpan { base := right, bytes } = _ at moved
    rw [moved]
    cases opened : ofSpan { base := left, bytes } with
    | error refusal => exact rfl
    | ok here => exact alike here opened
  · have moved := @ofRelocated_movedTo right { base := left, bytes } aligned
    change ofRelocated { base := right, bytes } = _ at moved
    rw [moved]
    cases opened : ofRelocated { base := left, bytes } with
    | error refusal => exact rfl
    | ok here =>
        rcases ofRelocated_eq_ok_iff.mp opened with ⟨viewed, mode⟩
        exact alike here viewed mode

/-- The container with a stray reference, of which one search stops, at two addresses. -/
theorem same_answers_at_aligned_bases_stray :
    AlignedAlike 4096 1099511627784 ∧
      ofSpan { base := 4096, bytes := strayBytes } = .ok strayContainer ∧
      OpenedAlike (fun here there => here.mode = .relocatable -> AnswersAlike here there)
        (ofSpan { base := 4096, bytes := strayBytes })
        (ofSpan { base := 1099511627784, bytes := strayBytes }) ∧
      OpenedAlike AnswersAlike
        (ofRelocated { base := 4096, bytes := strayBytes })
        (ofRelocated { base := 1099511627784, bytes := strayBytes }) := by
  have aligned : AlignedAlike 4096 1099511627784 := by decide
  exact ⟨aligned, strayContainer_opened, same_answers_at_aligned_bases strayBytes aligned⟩

end Container
end MappedTables
