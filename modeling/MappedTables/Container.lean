import MappedTables.Table

namespace MappedTables

/-!
Containers: the view through which a span is looked up.

A view exists for every span that starts with an acceptable header, cut to the
capacity which that header records.  Rows are checked when they are read, or
all at once by `validate`.  Lines and columns are counted from one; head rows
can also be found by their mark, the first octet of their text, and the first
row with a mark is the one that counts.
-/

/-- A span that starts with an acceptable container header. -/
structure Container where
  span : Span
  header : ContainerHeader
  mode : AddressMode
  deriving DecidableEq, Repr

/-- A head row found by its mark: its line, counted from one, and the column that was asked for. -/
structure HeadMatch where
  line : UInt32
  text : ColumnText
  deriving DecidableEq, Repr

/-- Figures that describe a container. -/
structure ContainerStats where
  version : String
  capacity : Nat
  mode : AddressMode
  headRows : Nat
  headCapacity : Nat
  dataRows : Nat
  dataCapacity : Nat
  deriving DecidableEq, Repr

namespace Container

/-- View a span as a container in either mode. -/
def ofSpan (span : Span) : Except Error Container := do
  if span.size < leastContainerSize then
    throw (.malformed (.shortSpan span.size))
  let header ← span.headerAt ContainerHeader 0
  header.validate span.size
  return { span := span.take header.capacity.toNat, header, mode := ← header.mode }

/-- View a span as a container that means the same in every process. -/
def ofRelocated (span : Span) : Except Error Container := do
  let container ← ofSpan span
  if container.mode ≠ .relocatable then
    throw (.modeViolation .spanNotRelocated)
  return container

def base (container : Container) : UInt64 :=
  container.span.base

def capacity (container : Container) : Nat :=
  container.span.size

def table (container : Container) (kind : TableKind) : Except Error Table :=
  Table.ofHeader container.span (container.header.table kind) container.mode

/-- Number of rows that the header records for a table. -/
def length (container : Container) (kind : TableKind) : Nat :=
  (container.header.table kind).length.toNat

/-- The position, counted from zero, of a line counted from one. -/
def lineIndex (line : UInt32) (length : Nat) : Except Error Nat :=
  if line = 0 ∨ length < line.toNat then .error (.outOfBounds .line line.toNat length)
  else .ok (line.toNat - 1)

def columnAt (container : Container) (kind : TableKind) (line : UInt32) (column : UInt16) :
    Except Fault ColumnText := do
  let index ← lineIndex line (container.length kind)
  (← container.table kind).columnAt index column

/-- The address of the first octet of a column of a line. -/
def columnAddressAt (container : Container) (kind : TableKind) (line : UInt32)
    (column : UInt16) : Except Fault UInt64 := do
  let index ← lineIndex line (container.length kind)
  (← container.table kind).columnAddressAt index column

/-- A column of the first head row with a mark, and the line of that row.  If
that row lacks the column the search has failed; later rows do not count. -/
def findHead (container : Container) (mark : UInt8) (column : UInt16) :
    Except Abort (Option HeadMatch) := do
  match container.table .head with
  | .error _ => return none
  | .ok head =>
      match head.find? mark with
      | none => return none
      | some index =>
          match ← attempt (head.columnAt index column) with
          | none => return none
          | some text => return some { line := UInt32.ofNat (index + 1), text }

/-- A column of the first head row with a mark. -/
def headFor (container : Container) (mark : UInt8) (column : UInt16) :
    Except Abort (Option ColumnText) := do
  return (← container.findHead mark column).map (·.text)

/-- The head row at a line, if it has the given mark. -/
def headRow? (container : Container) (line : UInt32) (mark : UInt8) : Option Row :=
  let row : Except Error Row := do
    let index ← lineIndex line (container.length .head)
    (← container.table .head).rowAt index
  match row with
  | .ok row => if row.mark? = some mark then some row else none
  | .error _ => none

/-- The version tag: the text up to the first NUL of the version area.  It is
empty when the area cannot be read, holds no NUL within its size and the end of
the container, or does not hold well-formed UTF-8. -/
def version (container : Container) : String :=
  match container.header.versionReference with
  | .error _ => ""
  | .ok reference =>
      let available :=
        match reference.offsetFrom container.base with
        | .ok offset => min (container.capacity - offset.toNat) versionAreaSize
        | .error _ => 0
      match container.span.resolve reference available with
      | .error _ => ""
      | .ok area =>
          match area.findIdx? (· = columnTerminator) with
          | none => ""
          | some stop => (Utf8.decode? (area.extract 0 stop)).getD ""

/-- The address of the version area, where the version tag starts. -/
def versionAddress (container : Container) : Except Error UInt64 := do
  return (← container.header.versionReference).address container.base

/-- Refuse a container with a table or row that is not well formed. -/
def validate (container : Container) : Except Error Unit := do
  (← container.table .head).validate
  (← container.table .data).validate

def stats (container : Container) : ContainerStats where
  version := container.version
  capacity := container.capacity
  mode := container.mode
  headRows := container.header.head.length.toNat
  headCapacity := container.header.head.capacity.toNat
  dataRows := container.header.data.length.toNat
  dataCapacity := container.header.data.capacity.toNat

end Container
end MappedTables
