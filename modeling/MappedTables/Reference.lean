import MappedTables.Fault

namespace MappedTables

/-!
Stored words as references.

An address and a base determine an offset when the address does not lie below
the base, and a base and an offset always determine an address, modulo the size
of the address space.  A `Reference` remembers in which of the two forms a word
is stored, so that nothing above this module has to know.
-/

/-- The number of addresses, one more than the greatest machine word. -/
def addressLimit : Nat := 1 <<< 64

/-- The distance of `address` from `base`, which must not lie above it. -/
def offsetOf (base address : UInt64) : Except Error UInt64 :=
  if address < base then .error (.modeViolation (.belowBase address base))
  else .ok (address - base)

/-- The address at a distance from `base`, wrapping around at the end of the
address space. -/
def addressAt (base offset : UInt64) : UInt64 :=
  base + offset

/-- The mode recorded by an octet, or the report that it records none. -/
def AddressMode.ofFlag (flag : UInt8) : Except Error AddressMode :=
  match AddressMode.ofFlag? flag with
  | some mode => .ok mode
  | none => .error (.malformed (.modeFlag flag))

/-- A stored word together with the way it is to be read: as an address, or as a distance from the
base of the container. -/
inductive Reference where
  | live (address : UInt64)
  | relocatable (offset : UInt64)
  deriving DecidableEq, Repr

namespace Reference

/-- Read a word in the mode of the entity that holds it. -/
def ofWord (word : UInt64) : AddressMode -> Reference
  | .live => .live word
  | .relocatable => .relocatable word

def word : Reference -> UInt64
  | .live address => address
  | .relocatable offset => offset

def mode : Reference -> AddressMode
  | .live _ => .live
  | .relocatable _ => .relocatable

/-- The address meant by the reference in a container at `base`. -/
def address (reference : Reference) (base : UInt64) : UInt64 :=
  match reference with
  | .live address => address
  | .relocatable offset => addressAt base offset

/-- The distance from `base` of the place meant by the reference. -/
def offsetFrom (reference : Reference) (base : UInt64) : Except Error UInt64 :=
  match reference with
  | .live address => offsetOf base address
  | .relocatable offset => .ok offset

/-- The relocatable form of a live reference.  The null address stands for an
absent referent and becomes offset zero. -/
def relocate (reference : Reference) (base : UInt64) : Except Error Reference :=
  match reference with
  | .live address =>
      if address = 0 then .ok (.relocatable 0)
      else (offsetOf base address).map .relocatable
  | .relocatable _ => .error (.modeViolation .referenceRelocated)

@[simp] theorem word_ofWord (stored : UInt64) (mode : AddressMode) :
    (ofWord stored mode).word = stored := by
  cases mode <;> rfl

@[simp] theorem mode_ofWord (stored : UInt64) (mode : AddressMode) :
    (ofWord stored mode).mode = mode := by
  cases mode <;> rfl

end Reference
end MappedTables
