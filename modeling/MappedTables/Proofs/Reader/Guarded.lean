import MappedTables.Container.HeadCursor

namespace MappedTables

/-!
A reader that checks each of its own steps.

The reader of a container checks most of what it computes before it computes it,
and so takes sums, differences, products and slices for granted afterwards.  The
functions of this module follow it step by step but take nothing for granted: a
number that is no machine word and a slice that is not there stop the
computation.  A stop is therefore possible at every step at which a step could
go wrong, and it is a result of the analysis, not of the definitions, that only
one of them can.
-/

/-- Keep a reported failure as an outcome; a stop remains one. -/
def settle (result : Except Fault α) : Except Abort (Except Error α) :=
  match result with
  | .ok value => .ok (.ok value)
  | .error (.error error) => .ok (.error error)
  | .error (.abort reason) => .error reason

namespace Guarded

/-! ## Steps -/

/-- The sum of two machine words. -/
def add (left right : Nat) : Except Abort Nat :=
  if addressLimit <= left + right then .error .overflow else .ok (left + right)

/-- The difference of two machine words. -/
def sub (left right : Nat) : Except Abort Nat :=
  if left < right then .error .overflow else .ok (left - right)

/-- The product of two machine words. -/
def mul (left right : Nat) : Except Abort Nat :=
  if addressLimit <= left * right then .error .overflow else .ok (left * right)

/-- The successor of a number of 32 bits. -/
def next (value : UInt32) : Except Abort UInt32 :=
  if 1 <<< 32 <= value.toNat + 1 then .error .overflow else .ok (value + 1)

/-- The octets from `start` to `stop`. -/
def cut (octets : Bytes) (start stop : Nat) : Except Abort Bytes :=
  if start <= stop ∧ stop <= octets.size then .ok (octets.extract start stop)
  else .error .outOfRange

/-- The octet at a position. -/
def octetAt (octets : Bytes) (position : Nat) : Except Abort UInt8 :=
  match octets[position]? with
  | some octet => .ok octet
  | none => .error .outOfRange

/-! ## Spans -/

variable (span : Span)

/-- The `length` octets from `offset` on. -/
def slice (offset length : Nat) : Except Fault Bytes := do
  span.checkRange offset length
  cut span.bytes offset (offset + length)

/-- The `length` octets at the place that `reference` means. -/
def resolve (reference : Reference) (length : Nat) : Except Fault Bytes := do
  let offset ← reference.offsetFrom span.base
  slice span offset.toNat length

/-- The header stored at `offset`. -/
def headerAt (Header : Type) [StoredHeader Header] (offset : Nat) : Except Fault Header := do
  let stored ← slice span offset (StoredHeader.size Header)
  if (span.base.toNat + offset) % headerAlignment ≠ 0 then
    throw (.error (.alignment offset headerAlignment))
  return StoredHeader.decode stored

/-! ## Rows -/

/-- The number in two octets. -/
def entry (pair : Bytes) : Except Abort Nat := do
  let low ← octetAt pair 0
  let high ← octetAt pair 1
  return low.toNat + 256 * high.toNat

/-- The whole pairs of octets, an odd last octet left out. -/
def pairs (octets : Bytes) : List Bytes :=
  (List.range (octets.size / 2)).map fun index => octets.slice (2 * index) 2

variable (row : Row)

/-- The whole text. -/
def text : Except Fault Bytes := do
  resolve row.span (← row.header.textReference) row.length

/-- The first octet of the text. -/
def mark? : Except Abort (Option UInt8) := do
  match ← settle (text row) with
  | .ok octets => return octets[0]?
  | .error _ => return none

/-- All column starts. -/
def columnStarts : Except Fault (List Nat) := do
  match ← row.header.startsReference with
  | none => return []
  | some reference =>
      let size ← mul row.columnCount 2
      let table ← resolve row.span reference size
      let starts ← ((pairs table).mapM entry : Except Abort (List Nat))
      return starts

/-- The position in the text where a column begins. -/
def columnStart (column : UInt16) : Except Fault Nat := do
  if column = 0 ∨ row.header.columns < column then
    throw (.error (.outOfBounds .column column.toNat row.columnCount))
  match ← row.header.startsReference with
  | none => throw (.error (.outOfBounds .column column.toNat 0))
  | some reference =>
      let table ← reference.offsetFrom row.span.base
      let index ← sub column.toNat 1
      let distance ← mul index 2
      let place ← add table.toNat distance
      let start ← entry (← slice row.span place 2)
      if row.length < start then
        throw (.error (.malformed (.columnPastRow column.toNat start row.length)))
      return start

/-- The address of the first octet of a column. -/
def columnAddress (column : UInt16) : Except Fault UInt64 := do
  let start ← columnStart row column
  let octets ← text row
  let _ ← cut octets start octets.size
  return (← row.textAddress) + UInt64.ofNat start

/-- A column: its octets up to the next terminator or the end of the row. -/
def column (column : UInt16) : Except Fault ColumnText := do
  let start ← columnStart row column
  let octets ← text row
  let tail ← cut octets start octets.size
  let stop := (tail.findIdx? (· = columnTerminator)).getD tail.size
  let octets ← cut tail 0 stop
  return { address := (← row.textAddress) + UInt64.ofNat start, octets }

/-- A column as characters. -/
def columnString (number : UInt16) : Except Fault (Option String) := do
  return Utf8.decode? (← column row number).octets

/-- Refuse column starts that decrease or pass the end of the text. -/
def checkStarts (length : Nat) : Nat -> Nat -> List Nat -> Except Fault Unit
  | _, _, [] => .ok ()
  | index, previous, start :: rest =>
      if start < previous ∨ length < start then do
        let column ← add index 1
        throw (.error (.malformed (.columnOrder column start previous length)))
      else checkStarts length (index + 1) start rest

/-- Refuse a row that is not well formed. -/
def validateRow : Except Fault Unit := do
  checkStarts row.length 0 0 (← columnStarts row)
  let _ ← text row

/-! ## Tables -/

variable (table : Table)

/-- The row at a position counted from zero. -/
def rowAt (index : Nat) : Except Fault Row := do
  if table.length <= index then
    throw (.error (.outOfBounds .row index table.length))
  let array ← (← table.header.arrayReference).offsetFrom table.span.base
  let distance ← mul index rowSlotSize
  if addressLimit <= array.toNat + distance then
    throw (.error (.malformed (.rowArrayOverflow array.toNat)))
  let header ← headerAt table.span RowHeader (array.toNat + distance)
  Row.ofHeader table.span header table.mode

/-- The address of a column of the row at `index`. -/
def columnAddressOf (index : Nat) (number : UInt16) : Except Fault UInt64 := do
  columnAddress (← rowAt table index) number

/-- A column of the row at `index`. -/
def columnOf (index : Nat) (number : UInt16) : Except Fault ColumnText := do
  column (← rowAt table index) number

/-- Every row, or what keeps it from being read. -/
def rows : Except Abort (List (Except Error Row)) :=
  (List.range table.length).mapM fun index => settle (rowAt table index)

/-- The mark of the row at `index`, if there is such a row and it has one. -/
def markAt? (index : Nat) : Except Abort (Option UInt8) := do
  match ← settle (rowAt table index) with
  | .ok row => mark? row
  | .error _ => return none

/-- The position of the first of `count` rows from `start` on with a given mark. -/
def findFrom (mark : UInt8) : Nat -> Nat -> Except Abort (Option Nat)
  | 0, _ => return none
  | count + 1, start => do
      if (← markAt? table start) = some mark then return some start
      findFrom mark count (start + 1)

/-- Refuse the rows at the `count` positions from `start` on. -/
def validateFrom : Nat -> Nat -> Except Fault Unit
  | 0, _ => .ok ()
  | count + 1, start => do
      validateRow (← rowAt table start)
      validateFrom count (start + 1)

/-! ## Containers -/

/-- View a span as a container in either mode. -/
def ofSpan : Except Fault Container := do
  if span.size < leastContainerSize then
    throw (.error (.malformed (.shortSpan span.size)))
  let header ← headerAt span ContainerHeader 0
  header.validate span.size
  let octets ← cut span.bytes 0 header.capacity.toNat
  return { span := { span with bytes := octets }, header, mode := ← header.mode }

/-- The position, counted from zero, of a line counted from one. -/
def lineIndex (line : UInt32) (length : Nat) : Except Fault Nat := do
  if line = 0 ∨ length < line.toNat then
    throw (.error (.outOfBounds .line line.toNat length))
  sub line.toNat 1

variable (container : Container)

/-- A column of a line. -/
def columnAt (kind : TableKind) (line : UInt32) (number : UInt16) :
    Except Fault ColumnText := do
  let index ← lineIndex line (container.length kind)
  columnOf (← container.table kind) index number

/-- The address of the first octet of a column of a line. -/
def columnAddressAt (kind : TableKind) (line : UInt32) (number : UInt16) :
    Except Fault UInt64 := do
  let index ← lineIndex line (container.length kind)
  columnAddressOf (← container.table kind) index number

/-- A column of the first head row with a mark, and the line of that row. -/
def findHead (mark : UInt8) (number : UInt16) : Except Abort (Option HeadMatch) := do
  match container.table .head with
  | .error _ => return none
  | .ok head =>
      match ← findFrom head mark head.length 0 with
      | none => return none
      | some index =>
          match ← settle (columnOf head index number) with
          | .error _ => return none
          | .ok text => return some { line := ← next (UInt32.ofNat index), text }

/-- A column of the first head row with a mark. -/
def headFor (mark : UInt8) (number : UInt16) : Except Abort (Option ColumnText) := do
  return (← findHead container mark number).map (·.text)

/-- The head row at a line, if it has the given mark. -/
def headRow? (line : UInt32) (mark : UInt8) : Except Abort (Option Row) := do
  match ← settle (lineIndex line (container.length .head)) with
  | .error _ => return none
  | .ok index =>
      match container.table .head with
      | .error _ => return none
      | .ok head =>
          match ← settle (rowAt head index) with
          | .error _ => return none
          | .ok row => if (← mark? row) = some mark then return some row else return none

/-- The version tag. -/
def version : Except Abort String := do
  match container.header.versionReference with
  | .error _ => return ""
  | .ok reference =>
      let available :=
        match reference.offsetFrom container.base with
        | .ok offset => min (container.capacity - offset.toNat) versionAreaSize
        | .error _ => 0
      match ← settle (resolve container.span reference available) with
      | .error _ => return ""
      | .ok area =>
          match area.findIdx? (· = columnTerminator) with
          | none => return ""
          | some stop => return (Utf8.decode? (← cut area 0 stop)).getD ""

/-- Refuse a container with a table or row that is not well formed. -/
def validate : Except Fault Unit := do
  let head ← container.table .head
  validateFrom head head.length 0
  let data ← container.table .data
  validateFrom data data.length 0

/-- Figures that describe the container. -/
def stats : Except Abort ContainerStats := do
  return {
    version := ← version container
    capacity := container.capacity
    mode := container.mode
    headRows := container.header.head.length.toNat
    headCapacity := container.header.head.capacity.toNat
    dataRows := container.header.data.length.toNat
    dataCapacity := container.header.data.capacity.toNat }

/-! ## Cursors -/

/-- The remembered row's column, if that row has the mark and the column. -/
def tryHint (cursor : HeadCursor) (mark : UInt8) (number : UInt16) :
    Except Abort (Option ColumnText) := do
  match cursor.lastLine with
  | none => return none
  | some line =>
      match ← headRow? container line mark with
      | none => return none
      | some row => attempt (column row number)

/-- A column of a head row with a mark, and the cursor after the search. -/
def lookup (cursor : HeadCursor) (mark : UInt8) (number : UInt16) :
    Except Abort (Option ColumnText × HeadCursor) := do
  match ← tryHint container cursor mark number with
  | some text => return (some text, cursor)
  | none =>
      match ← findHead container mark number with
      | none => return (none, cursor)
      | some found => return (some found.text, { lastLine := some found.line })

end Guarded
end MappedTables
