import MappedTables.Span

namespace MappedTables

/-!
Converting the references of a span in place.

A container becomes independent of its address by one walk over its headers:
every slot of both tables, used or not, and the container header itself.  The
walk changes the span step by step and a step may fail, so the span belongs to
the outcome of a failure as well; whether a failing walk can leave a half
converted span behind is then a question that can be asked.
-/

/-- A computation that changes a span and may fail part of the way. -/
abbrev Relocation := EStateM Error Span

namespace Relocation

/-- Take over an outcome that does not depend on the span. -/
def ofExcept (outcome : Except Error α) : Relocation α :=
  match outcome with
  | .ok value => pure value
  | .error error => throw error

def headerAt (Header : Type) [StoredHeader Header] (offset : Nat) : Relocation Header := do
  ofExcept ((← get).headerAt Header offset)

def putHeader {Header : Type} [StoredHeader Header] (offset : Nat) (header : Header) :
    Relocation Unit := fun span =>
  match span.checkHeader Header offset with
  | .error error => .error error span
  | .ok () =>
      let base := span.base
      .ok () ⟨base, span.bytes.overlay offset (StoredHeader.encode header)⟩

/-- Relocate the row slot at `offset`. -/
def relocateSlot (offset : Nat) : Relocation Unit := do
  let header ← headerAt RowHeader offset
  putHeader offset (← ofExcept (header.relocate (← get).base))

/-- Relocate `count` neighbouring row slots, the first of them at `offset`. -/
def relocateSlots : Nat -> Nat -> Relocation Unit
  | 0, _ => pure ()
  | count + 1, offset => do
      relocateSlot offset
      relocateSlots count (offset + rowSlotSize)

/-- Relocate all slots of a table and give the table's header after that. -/
def relocateTable (header : TableHeader) : Relocation TableHeader := do
  let base := (← get).base
  let array ← ofExcept header.arrayReference
  let offset ← ofExcept (array.offsetFrom base)
  relocateSlots header.capacity.toNat offset.toNat
  let relocated ← ofExcept (array.relocate base)
  return TableHeader.ofReference relocated header.length header.capacity

/-- Relocate a whole container, which has to be live. -/
def relocateContainer : Relocation Unit := do
  let header ← headerAt ContainerHeader 0
  if (← ofExcept header.mode) ≠ .live then
    throw (.modeViolation .imageRelocated)
  let head ← relocateTable header.head
  let data ← relocateTable header.data
  let version ← ofExcept header.versionReference
  let relocated ← ofExcept (version.relocate (← get).base)
  putHeader 0 (ContainerHeader.ofParts .relocatable head data header.capacity relocated)

end Relocation
end MappedTables
