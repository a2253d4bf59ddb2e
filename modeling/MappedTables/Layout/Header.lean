import MappedTables.Bytes
import MappedTables.LittleEndian
import MappedTables.Reference

namespace MappedTables

/-!
The three headers of a container.

A container starts with a `ContainerHeader`, which holds the `TableHeader`s of
its two tables; each table refers to an array of `RowHeader` slots, and each row
refers to its text and to the table of its column starts.  All fields are
little-endian numbers at fixed places, and every octet string of the right
length is the stored form of exactly one header, reserved octets included.
-/

/-- Octets of a version area, the final NUL included. -/
def versionAreaSize : Nat := 20

/-- The number that opens every container, the octets of `SHAREDKB`. -/
def containerMagic : UInt64 := 4776986894279985235

/-- The only layout that this library reads and writes. -/
def layoutVersion : UInt32 := 1

/-- Every header starts at a multiple of this number. -/
def headerAlignment : Nat := 8

/-- Every table of column starts begins at a multiple of this number. -/
def startsAlignment : Nat := 2

/-- Values with a stored form of fixed size. -/
class StoredHeader (Header : Type) where
  size : Nat
  encode : Header -> List UInt8
  /-- The header whose stored form begins the given octets. -/
  decode : Bytes -> Header

/-- The number stored in a field of `width` octets at `offset`. -/
def Bytes.field (bytes : Bytes) (offset width : Nat) : Nat :=
  LittleEndian.decode (Bytes.slice bytes offset width).toList

/-- One row: its text of `length` octets and the starts of its columns. -/
structure RowHeader where
  textWord : UInt64
  startsWord : UInt64
  length : UInt16
  columns : UInt16
  modeFlag : UInt8
  reserved : BitVec 24
  deriving DecidableEq, Repr

/-- A sequence of row slots, the first `length` of which are in use. -/
structure TableHeader where
  arrayWord : UInt64
  length : UInt32
  capacity : UInt32
  modeFlag : UInt8
  reserved : BitVec 56
  deriving DecidableEq, Repr

/-- The start of a container, which has `capacity` octets altogether. -/
structure ContainerHeader where
  magic : UInt64
  layoutVersion : UInt32
  modeFlag : UInt8
  reserved : BitVec 24
  head : TableHeader
  data : TableHeader
  capacity : UInt64
  versionWord : UInt64
  deriving DecidableEq, Repr

namespace RowHeader

instance : StoredHeader RowHeader where
  size := 24
  encode header :=
    LittleEndian.encode 8 header.textWord.toNat
      ++ LittleEndian.encode 8 header.startsWord.toNat
      ++ LittleEndian.encode 2 header.length.toNat
      ++ LittleEndian.encode 2 header.columns.toNat
      ++ LittleEndian.encode 1 header.modeFlag.toNat
      ++ LittleEndian.encode 3 header.reserved.toNat
  decode bytes :=
    { textWord := UInt64.ofNat (bytes.field 0 8)
      startsWord := UInt64.ofNat (bytes.field 8 8)
      length := UInt16.ofNat (bytes.field 16 2)
      columns := UInt16.ofNat (bytes.field 18 2)
      modeFlag := UInt8.ofNat (bytes.field 20 1)
      reserved := BitVec.ofNat 24 (bytes.field 21 3) }

/-- The header of a row with the given references, which must agree in mode. -/
def ofReferences (text starts : Reference) (length columns : UInt16) :
    Except Abort RowHeader :=
  if text.mode = starts.mode then
    .ok
      { textWord := text.word
        startsWord := starts.word
        length := length
        columns := columns
        modeFlag := text.mode.flag
        reserved := 0 }
  else .error .mixedModes

def mode (header : RowHeader) : Except Error AddressMode :=
  AddressMode.ofFlag header.modeFlag

def textReference (header : RowHeader) : Except Error Reference := do
  return Reference.ofWord header.textWord (← header.mode)

/-- The reference to the column starts, which only a row with columns has. -/
def startsReference (header : RowHeader) : Except Error (Option Reference) :=
  if header.columns = 0 then .ok none
  else do return some (Reference.ofWord header.startsWord (← header.mode))

/-- The same row with both references in relocatable form. -/
def relocate (header : RowHeader) (base : UInt64) : Except Error RowHeader := do
  let text ← (Reference.ofWord header.textWord (← header.mode)).relocate base
  let starts ← (Reference.ofWord header.startsWord (← header.mode)).relocate base
  return { header with
    textWord := text.word
    startsWord := starts.word
    modeFlag := AddressMode.relocatable.flag }

end RowHeader

namespace TableHeader

instance : StoredHeader TableHeader where
  size := 24
  encode header :=
    LittleEndian.encode 8 header.arrayWord.toNat
      ++ LittleEndian.encode 4 header.length.toNat
      ++ LittleEndian.encode 4 header.capacity.toNat
      ++ LittleEndian.encode 1 header.modeFlag.toNat
      ++ LittleEndian.encode 7 header.reserved.toNat
  decode bytes :=
    { arrayWord := UInt64.ofNat (bytes.field 0 8)
      length := UInt32.ofNat (bytes.field 8 4)
      capacity := UInt32.ofNat (bytes.field 12 4)
      modeFlag := UInt8.ofNat (bytes.field 16 1)
      reserved := BitVec.ofNat 56 (bytes.field 17 7) }

/-- The header of a table whose slots start at `array`. -/
def ofReference (array : Reference) (length capacity : UInt32) : TableHeader where
  arrayWord := array.word
  length := length
  capacity := capacity
  modeFlag := array.mode.flag
  reserved := 0

def mode (header : TableHeader) : Except Error AddressMode :=
  AddressMode.ofFlag header.modeFlag

def arrayReference (header : TableHeader) : Except Error Reference := do
  return Reference.ofWord header.arrayWord (← header.mode)

/-- Refuse a table with more rows than slots or without a mode. -/
def validate (header : TableHeader) (name : String) : Except Error Unit := do
  if header.capacity < header.length then
    throw (.malformed (.tableLength name header.length.toNat header.capacity.toNat))
  let _ ← header.mode

end TableHeader

namespace ContainerHeader

instance : StoredHeader ContainerHeader where
  size := 80
  encode header :=
    LittleEndian.encode 8 header.magic.toNat
      ++ LittleEndian.encode 4 header.layoutVersion.toNat
      ++ LittleEndian.encode 1 header.modeFlag.toNat
      ++ LittleEndian.encode 3 header.reserved.toNat
      ++ StoredHeader.encode header.head
      ++ StoredHeader.encode header.data
      ++ LittleEndian.encode 8 header.capacity.toNat
      ++ LittleEndian.encode 8 header.versionWord.toNat
  decode bytes :=
    { magic := UInt64.ofNat (bytes.field 0 8)
      layoutVersion := UInt32.ofNat (bytes.field 8 4)
      modeFlag := UInt8.ofNat (bytes.field 12 1)
      reserved := BitVec.ofNat 24 (bytes.field 13 3)
      head := StoredHeader.decode (Bytes.slice bytes 16 24)
      data := StoredHeader.decode (Bytes.slice bytes 40 24)
      capacity := UInt64.ofNat (bytes.field 64 8)
      versionWord := UInt64.ofNat (bytes.field 72 8) }

/-- The header of a container of the current layout. -/
def ofParts (mode : AddressMode) (head data : TableHeader) (capacity : UInt64)
    (version : Reference) : ContainerHeader where
  magic := containerMagic
  layoutVersion := MappedTables.layoutVersion
  modeFlag := mode.flag
  reserved := 0
  head := head
  data := data
  capacity := capacity
  versionWord := version.word

def mode (header : ContainerHeader) : Except Error AddressMode :=
  AddressMode.ofFlag header.modeFlag

def versionReference (header : ContainerHeader) : Except Error Reference := do
  return Reference.ofWord header.versionWord (← header.mode)

def table (header : ContainerHeader) : TableKind -> TableHeader
  | .head => header.head
  | .data => header.data

end ContainerHeader

/-- Octets of a row slot. -/
def rowSlotSize : Nat := StoredHeader.size RowHeader

/-- The least size of a container, that of its header. -/
def leastContainerSize : Nat := StoredHeader.size ContainerHeader

/-- Refuse a header that is not the start of a container of at most `spanSize`
octets.  Of several flaws the first in the order of the fields is reported. -/
def ContainerHeader.validate (header : ContainerHeader) (spanSize : Nat) :
    Except Error Unit := do
  if header.magic ≠ containerMagic then
    throw (.malformed .magic)
  if header.layoutVersion ≠ MappedTables.layoutVersion then
    throw (.malformed (.layoutVersion header.layoutVersion.toNat))
  if header.capacity.toNat < leastContainerSize ∨ spanSize < header.capacity.toNat then
    throw (.malformed (.capacity header.capacity.toNat leastContainerSize spanSize))
  let _ ← header.mode
  header.head.validate "head"
  header.data.validate "data"

end MappedTables
