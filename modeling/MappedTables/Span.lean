import MappedTables.Layout.Header

namespace MappedTables

/-!
Octets at an address, read with a check.

A `Span` is a piece of memory: octets and the address of the first of them.
Nothing is read from it or written to it except through a range check, and a
header only at an address that is a multiple of eight.  The base address takes
part in two ways only, in that alignment check and in the distance of a live
reference.
-/

/-- Octets in memory, the first of them at `base`. -/
structure Span where
  base : UInt64
  bytes : Bytes
  deriving DecidableEq, Repr

namespace Span

def size (span : Span) : Nat :=
  span.bytes.size

def take (span : Span) (length : Nat) : Span :=
  { span with bytes := span.bytes.extract 0 length }

/-- Refuse a range that ends behind the span or behind the address space. -/
def checkRange (span : Span) (offset length : Nat) : Except Error Unit :=
  if addressLimit <= offset + length then
    .error (.malformed (.offsetOverflow offset))
  else if span.size < offset + length then
    .error (.malformed (.outsideSpan offset (offset + length) span.size))
  else .ok ()

/-- The `length` octets from `offset` on. -/
def slice (span : Span) (offset length : Nat) : Except Error Bytes := do
  span.checkRange offset length
  return span.bytes.slice offset length

/-- The `length` octets at the place that `reference` means. -/
def resolve (span : Span) (reference : Reference) (length : Nat) : Except Error Bytes := do
  let offset ← reference.offsetFrom span.base
  span.slice offset.toNat length

/-- Refuse a place where a header of the given kind cannot stand. -/
def checkHeader (span : Span) (Header : Type) [StoredHeader Header] (offset : Nat) :
    Except Error Unit := do
  span.checkRange offset (StoredHeader.size Header)
  if (span.base.toNat + offset) % headerAlignment ≠ 0 then
    throw (.alignment offset headerAlignment)

def headerAt (span : Span) (Header : Type) [StoredHeader Header] (offset : Nat) :
    Except Error Header := do
  span.checkHeader Header offset
  return StoredHeader.decode (span.bytes.slice offset (StoredHeader.size Header))

def putHeader (span : Span) {Header : Type} [StoredHeader Header] (offset : Nat)
    (header : Header) : Except Error Span := do
  span.checkHeader Header offset
  return { span with bytes := span.bytes.overlay offset (StoredHeader.encode header) }

/-- Store octets at `offset`; stops where they do not fit. -/
def put (span : Span) (offset : Nat) (payload : List UInt8) : Except Abort Span :=
  if offset + payload.length <= span.size then
    .ok { span with bytes := span.bytes.overlay offset payload }
  else .error .outOfRange

end Span
end MappedTables
