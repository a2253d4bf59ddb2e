namespace MappedTables
namespace LittleEndian

/-!
Little-endian numbers of a fixed width.

Every field of a stored header is a natural number written with its least
significant octet first.  `encode` keeps the low octets of a number, `decode`
weighs the octets of a field, and the two are inverse to each other between the
numbers below `256 ^ width` and the fields of `width` octets.
-/

/-- The `width` low octets of a number, least significant first. -/
def encode : Nat -> Nat -> List UInt8
  | 0, _ => []
  | width + 1, value => UInt8.ofNat (value % 256) :: encode width (value / 256)

/-- The number that a field of octets stands for. -/
def decode : List UInt8 -> Nat
  | [] => 0
  | octet :: rest => octet.toNat + 256 * decode rest

@[simp] theorem length_encode (width value : Nat) : (encode width value).length = width := by
  induction width generalizing value with
  | zero => rfl
  | succ width ih => simp [encode, ih]

theorem encode_decode (octets : List UInt8) :
    encode octets.length (decode octets) = octets := by
  induction octets with
  | nil => rfl
  | cons octet rest ih =>
      have small := octet.toNat_lt
      have low : (octet.toNat + 256 * decode rest) % 256 = octet.toNat := by omega
      have high : (octet.toNat + 256 * decode rest) / 256 = decode rest := by omega
      simp only [List.length_cons, decode, encode, low, high, ih, UInt8.ofNat_toNat]

end LittleEndian
end MappedTables
