namespace MappedTables

/-!
Byte sequences with random access.

Everything this library stores or maps is one flat sequence of octets.  Reading
takes a slice; writing overlays a slice in place and never changes the length.
-/

/-- A sequence of octets. -/
abbrev Bytes := Array UInt8

namespace Bytes

/-- The sequence of `size` zero octets. -/
def zeros (size : Nat) : Bytes :=
  Array.replicate size 0

/-- The octets from `offset` on, at most `length` of them. -/
def slice (bytes : Bytes) (offset length : Nat) : Bytes :=
  bytes.extract offset (offset + length)

/-- Cut to `length` octets, or fill up to `length` with zeros. -/
def resize (bytes : Bytes) (length : Nat) : Bytes :=
  if bytes.size < length then bytes ++ zeros (length - bytes.size)
  else bytes.extract 0 length

/-- Replace the octets from `offset` on by `payload`; what would fall behind
the end is dropped, so the length stays as it was. -/
def overlay (bytes : Bytes) (offset : Nat) : List UInt8 -> Bytes
  | [] => bytes
  | octet :: rest => overlay (bytes.setIfInBounds offset octet) (offset + 1) rest

@[simp] theorem size_zeros (size : Nat) : (zeros size).size = size := by
  simp [zeros]

@[simp] theorem size_slice (bytes : Bytes) (offset length : Nat) :
    (slice bytes offset length).size = min length (bytes.size - offset) := by
  simp only [slice, Array.size_extract]
  omega

@[simp] theorem size_overlay (bytes : Bytes) (offset : Nat) (payload : List UInt8) :
    (overlay bytes offset payload).size = bytes.size := by
  induction payload generalizing bytes offset with
  | nil => rfl
  | cons octet rest ih => simp [overlay, ih]

end Bytes
end MappedTables
