import Mathlib.Algebra.Group.Nat.Defs
import MappedTables.Span

namespace MappedTables

/-!
Memory as a list of parts.

What stands in a piece of memory is described by one list, the concatenation of
its parts in order.  Reading and writing at the place where a part begins then
concerns that part alone: an overlay replaces it, a slice gives it, and a header
is decoded from it.  The statements take the part out of its surroundings once,
so that no later argument has to count octets again.
-/

/-- A run of `size` zero octets. -/
abbrev blank (size : Nat) : List UInt8 := List.replicate size 0

theorem blank_split {part whole : Nat} (within : part <= whole) :
    blank whole = blank part ++ blank (whole - part) := by
  rw [List.replicate_append_replicate, Nat.add_sub_cancel' within]

/-- Parts of one size take up the sum of their sizes. -/
theorem length_flatMap_of_length {Part : Type} {size : Nat} {octets : Part -> List UInt8}
    (sized : forall part, (octets part).length = size) (parts : List Part) :
    (parts.flatMap octets).length = size * parts.length := by
  induction parts with
  | nil => rfl
  | cons part rest ih =>
      rw [List.flatMap_cons, List.length_append, sized, ih, List.length_cons, Nat.mul_add,
        Nat.mul_one, Nat.add_comm]

namespace LittleEndian

theorem decode_encode (width value : Nat) :
    decode (encode width value) = value % 256 ^ width := by
  induction width generalizing value with
  | zero => simp [encode, decode, Nat.mod_one]
  | succ width ih =>
      have low : (UInt8.ofNat (value % 256)).toNat = value % 256 := by simp
      simp only [encode, decode, ih, low, Nat.pow_succ]
      rw [Nat.mul_comm (256 ^ width) 256, Nat.mod_mul]

/-- Only the remainder of a number that does not fit is stored. -/
theorem encode_mod (width value : Nat) :
    encode width (value % 256 ^ width) = encode width value := by
  have stored := encode_decode (encode width value)
  rwa [length_encode, decode_encode] at stored

end LittleEndian

namespace Bytes

/-- Overlaying replaces the part that begins at the place and has the length of
the payload. -/
theorem overlay_append (front hidden back payload : List UInt8)
    (fits : payload.length = hidden.length) :
    overlay (front ++ hidden ++ back).toArray front.length payload =
      (front ++ payload ++ back).toArray := by
  induction payload generalizing front hidden with
  | nil =>
      have nothing : hidden = [] := List.length_eq_zero_iff.mp fits.symm
      subst nothing
      rfl
  | cons octet rest ih =>
      cases hidden with
      | nil => exact absurd fits (Nat.succ_ne_zero _)
      | cons covered hidden =>
          have replaced : (front ++ covered :: hidden ++ back).toArray.setIfInBounds
              front.length octet = ((front ++ [octet]) ++ hidden ++ back).toArray := by
            simp [List.setIfInBounds_toArray]
          have next : front.length + 1 = (front ++ [octet]).length := by simp
          rw [overlay, replaced, next, ih (front ++ [octet]) hidden (by simpa using fits)]
          simp only [List.append_assoc, List.nil_append, List.cons_append]

/-- A slice that begins where a part begins and has its length is that part. -/
theorem slice_append (front part back : List UInt8) :
    slice (front ++ part ++ back).toArray front.length part.length = part.toArray := by
  simp [slice]

/-- The number in a field that is one of the parts of memory. -/
theorem field_append (front back : List UInt8) (width value : Nat) :
    field (front ++ LittleEndian.encode width value ++ back).toArray front.length width =
      value % 256 ^ width := by
  have part := slice_append front (LittleEndian.encode width value) back
  rw [LittleEndian.length_encode] at part
  rw [field, part, LittleEndian.decode_encode]

end Bytes

namespace LittleEndian

/-- Several numbers, each in a field of its own width. -/
def encodeFields (fields : List (Nat × Nat)) : List UInt8 :=
  fields.flatMap fun field => encode field.1 field.2

/-- The numbers that memory holds in neighbouring fields from `offset` on. -/
def HoldsFrom (stored : Bytes) : Nat -> List (Nat × Nat) -> Prop
  | _, [] => True
  | offset, (width, value) :: rest =>
      stored.field offset width = value ∧ HoldsFrom stored (offset + width) rest

/-- Numbers that fit into their fields are read back from where they stand. -/
theorem holdsFrom_encodeFields (front back : List UInt8) (fields : List (Nat × Nat))
    (fit : forall field, field ∈ fields -> field.2 < 256 ^ field.1) :
    HoldsFrom (front ++ encodeFields fields ++ back).toArray front.length fields := by
  induction fields generalizing front with
  | nil => trivial
  | cons field rest ih =>
      rcases field with ⟨width, value⟩
      have bounded : value < 256 ^ width := fit (width, value) List.mem_cons_self
      have split : front ++ encodeFields ((width, value) :: rest) ++ back =
          front ++ encode width value ++ (encodeFields rest ++ back) := by
        simp [encodeFields]
      have next := ih (front ++ encode width value)
        (fun other member => fit other (List.mem_cons_of_mem _ member))
      rw [List.length_append, length_encode, List.append_assoc _ _ back] at next
      constructor
      · rw [split, Bytes.field_append, Nat.mod_eq_of_lt bounded]
      · rw [split]
        exact next

end LittleEndian

namespace Span

theorem checkRange_eq_ok_iff (span : Span) (offset length : Nat) :
    span.checkRange offset length = .ok () <->
      offset + length < addressLimit ∧ offset + length <= span.size := by
  unfold checkRange
  by_cases overflows : addressLimit <= offset + length
  · rw [if_pos overflows]
    constructor
    · intro impossible
      cases impossible
    · intro inside
      exact absurd inside.1 (Nat.not_lt.mpr overflows)
  · rw [if_neg overflows]
    by_cases outside : span.size < offset + length
    · rw [if_pos outside]
      constructor
      · intro impossible
        cases impossible
      · intro inside
        exact absurd outside (Nat.not_lt.mpr inside.2)
    · rw [if_neg outside]
      exact ⟨fun _ => ⟨Nat.not_le.mp overflows, Nat.not_lt.mp outside⟩, fun _ => rfl⟩

/-- A slice of exactly one part is read. -/
theorem slice_append (base : UInt64) (front part back : List UInt8)
    (room : front.length + part.length < addressLimit) :
    Span.slice ⟨base, (front ++ part ++ back).toArray⟩ front.length part.length =
      .ok part.toArray := by
  have inside : checkRange ⟨base, (front ++ part ++ back).toArray⟩ front.length part.length =
      .ok () := by
    apply (checkRange_eq_ok_iff _ _ _).mpr
    refine ⟨room, ?_⟩
    simp only [size, List.size_toArray, List.length_append]
    omega
  rw [Span.slice, inside]
  exact congrArg Except.ok (Bytes.slice_append front part back)

/-- A part of a span is read, whatever else the span holds. -/
theorem slice_part {span : Span} {front part back : List UInt8}
    (parts : span.bytes = (front ++ part ++ back).toArray) (room : span.size < addressLimit) :
    span.slice front.length part.length = .ok part.toArray := by
  rcases span with ⟨base, bytes⟩
  subst parts
  apply slice_append
  simp only [size, List.size_toArray, List.length_append] at room
  omega

/-- A part of a span is read through a reference to it. -/
theorem resolve_part {span : Span} {front part back : List UInt8} {reference : Reference}
    (parts : span.bytes = (front ++ part ++ back).toArray) (room : span.size < addressLimit)
    (offset : reference.offsetFrom span.base = .ok (UInt64.ofNat front.length)) :
    span.resolve reference part.length = .ok part.toArray := by
  have place : (UInt64.ofNat front.length).toNat = front.length := by
    rw [UInt64.toNat_ofNat', Nat.mod_eq_of_lt]
    simp only [size, parts, List.size_toArray, List.length_append, addressLimit] at room
    omega
  rw [resolve, offset]
  change span.slice (UInt64.ofNat front.length).toNat part.length = _
  rw [place, slice_part parts room]

/-- Octets that have the length of a part are stored in its place. -/
theorem put_append (base : UInt64) (front hidden back payload : List UInt8)
    (fits : payload.length = hidden.length) :
    put ⟨base, (front ++ hidden ++ back).toArray⟩ front.length payload =
      .ok ⟨base, (front ++ payload ++ back).toArray⟩ := by
  have inside : front.length + payload.length <=
      size ⟨base, (front ++ hidden ++ back).toArray⟩ := by
    simp only [size, List.size_toArray, List.length_append]
    omega
  rw [put, if_pos inside, Bytes.overlay_append front hidden back payload fits]

end Span

end MappedTables
