import MappedTables.Error
import MappedTables.Error.SystemTable

namespace MappedTables

/-!
The wording of failures.

Numbers are written in decimal, except that offsets and addresses are written
in lower-case hexadecimal after `0x`.  `Error.message` is the only place where
a failure becomes text.
-/

/-- A number in lower-case hexadecimal after `0x`. -/
def hexadecimal (value : Nat) : String :=
  "0x" ++ String.ofList (Nat.toDigits 16 value)

namespace OsError

/-- How the system's table lists the refusal, if it does. -/
def entry? (reason : OsError) : Option SystemEntry :=
  SystemEntry.ofNumber? reason.number

/-- What the system's own message table says about the refusal.  Zero stands for
no refusal there. -/
def text (reason : OsError) : String :=
  match reason.entry? with
  | some entry => entry.text
  | none => if reason.number = 0 then "Success" else s!"Unknown error {reason.number}"

/-- The description used in platform failures. -/
def description (reason : OsError) : String :=
  (reason.entry?.map (·.description)).getD "Unknown errno"

def symbol (reason : OsError) : String :=
  (reason.entry?.map (·.symbol)).getD "UnknownErrno"

end OsError

def IoFault.message : IoFault -> String
  | .os reason => s!"{reason.text} (os error {reason.number})"
  | .notUtf8 => "stream did not contain valid UTF-8"
  | .shortRead => "failed to fill whole buffer"
  | .nulInPath => "file name contained an unexpected NUL byte"
  | .described text => text

def FileOperation.message : FileOperation -> String
  | .unspecified => "I/O operation failed"
  | .reading path => s!"Failed to read {path}"
  | .writing path => s!"Failed to write {path}"
  | .statingSegment => "Failed to stat segment"
  | .sizingSegment => "Failed to set segment size"
  | .openingSegment => "Failed to open segment file"
  | .creatingSegment => "Failed to create segment file"
  | .removingSegment => "Failed to remove segment file"
  | .mappingSegment => "Failed to create memory mapping"
  | .flushingSegment => "Failed to flush memory mapping"
  | .duplicatingDescriptor => "Failed to duplicate descriptor"
  | .closingDescriptor => "Failed to close descriptor"
  | .described text => text

/-- The word for what is being counted. -/
def Coordinate.name : Coordinate -> String
  | .line => "line"
  | .row => "row"
  | .column => "column"
  | .named text => text

def TableKind.name : TableKind -> String
  | .head => "head"
  | .data => "data"

def Malformation.message : Malformation -> String
  | .modeFlag flag => s!"invalid addressing mode flag {flag.toNat}"
  | .magic => "invalid magic number"
  | .layoutVersion found => s!"unsupported layout version {found}"
  | .capacity found least most => s!"capacity {found} outside {least}..={most}"
  | .tableLength table length slots =>
      s!"{table} table length {length} exceeds capacity {slots}"
  | .shortSpan size => s!"span of {size} bytes is smaller than the 80 byte container header"
  | .shortSegment size =>
      s!"segment of {size} bytes is smaller than the 80 byte container header"
  | .offsetOverflow offset => s!"offset {hexadecimal offset} overflows"
  | .outsideSpan start stop size =>
      s!"range {hexadecimal start}..{hexadecimal stop} exceeds span of {size} bytes"
  | .rowArrayOverflow offset => s!"row array offset {hexadecimal offset} overflows"
  | .columnPastRow column start length =>
      s!"column {column} starts at {start} past row length {length}"
  | .columnOrder column start previous length =>
      s!"column {column} offset {start} breaks ordering (previous {previous}, length {length})"
  | .noVersionToken => "first line carries no version token"
  | .versionUnterminated => "version tag is not NUL-terminated"
  | .versionNotUtf8 => "version tag is not UTF-8"
  | .versionNotPrintable => "version tag is not printable"
  | .described text => text

def ModeConflict.message : ModeConflict -> String
  | .belowBase address base =>
      s!"address {hexadecimal address.toNat} lies below base {hexadecimal base.toNat}"
  | .referenceRelocated => "reference is already relocatable"
  | .rowInTable row table => s!"{row.name} row inside {table.name} table"
  | .tableInContainer table container =>
      s!"{table.name} table inside {container.name} container"
  | .spanNotRelocated => "span was published before relocation"
  | .imageRelocated => "image is already relocatable"
  | .imageNotRelocated => "live image must be relocated before it leaves the process"
  | .loadedImageLive => "binary image is not relocatable"
  | .binaryFileLive => "binary KB file is not relocatable"
  | .described text => text

def Refusal.parameter : Refusal -> String
  | .nulInColumn => "column"
  | .rowTooLong => "row"
  | .tooManyColumns => "row"
  | .tooManyRows => "table"
  | .versionToken => "version"
  | .emptyName => "name"
  | .nulInName => "name"
  | .sharedMemoryName => "name"
  | .detachedHandle => "handle"
  | .negativeDescriptor => "fd"
  | .foreignPointer => "kb"
  | .nullOutput => "dest"
  | .nullHandle => "dest"
  | .nullText => "string"
  | .textNotUtf8 => "string"
  | .notANumber argument _ => argument
  | .headPrefixLength => "prefix"
  | .headLineMissing => "line"
  | .dataLineMissing => "line"
  | .described parameter _ => parameter

def Refusal.reason : Refusal -> String
  | .nulInColumn => "Column contains a NUL byte"
  | .rowTooLong => "Row exceeds 65535 bytes"
  | .tooManyColumns => "Row exceeds 65535 columns"
  | .tooManyRows => "Too many rows"
  | .versionToken => "Version must be 1..20 printable ASCII bytes"
  | .emptyName => "Segment name cannot be empty"
  | .nulInName => "Name contains null bytes"
  | .sharedMemoryName => "Shared memory name must be 1..=255 characters without '/'"
  | .detachedHandle => "Segment is not attached"
  | .negativeDescriptor => "Invalid file descriptor"
  | .foreignPointer => "Pointer was not mapped by this library"
  | .nullOutput => "Null output pointer"
  | .nullHandle => "Null handle pointer"
  | .nullText => "Null pointer"
  | .textNotUtf8 => "Invalid UTF-8"
  | .notANumber _ numeral => s!"'{numeral}' is not a number"
  | .headPrefixLength => "Prefix must be one byte"
  | .headLineMissing => "Either --line or --prefix is required"
  | .dataLineMissing => "--line is required"
  | .described _ text => text

def PlatformFault.message : PlatformFault -> String
  | .os reason => s!"{reason.description} ({reason.symbol}: {reason.description})"
  | .described text => text

def Error.message : Error -> String
  | .io operation fault => s!"I/O error: {operation.message}: {fault.message}"
  | .notFound name => s!"Segment not found: {name}"
  | .alreadyExists name => s!"Segment already exists: {name}"
  | .malformed flaw => s!"Malformed segment: {flaw.message}"
  | .outOfBounds what index limit => s!"Out of bounds: {what.name} {index} (limit {limit})"
  | .modeViolation conflict => s!"Addressing mode violation: {conflict.message}"
  | .invalidParameter refusal => s!"Invalid parameter: {refusal.parameter} - {refusal.reason}"
  | .alignment offset required =>
      s!"Alignment error: offset {hexadecimal offset} not aligned to {required}"
  | .platform fault => s!"Platform error: {fault.message}"

example : OsError.accessDenied.text = "Permission denied" := by decide

example : OsError.text ⟨-1⟩ = "Unknown error -1" := by decide

end MappedTables
