namespace MappedTables

/-!
The two ways in which a stored word can refer to a place in a container.

A container is written by one process and read by others.  While it is being
written its references are addresses of the writing process; before it leaves
that process they are turned into distances from the container's base.  A
one-octet flag beside each group of references says which form they have.
-/

/-- How the references of a container, a table or a row are to be read: as addresses in the process
that wrote them, or as distances from the base of the container. -/
inductive AddressMode where
  | live
  | relocatable
  deriving DecidableEq, Repr

namespace AddressMode

/-- The octet that records the mode. -/
def flag : AddressMode -> UInt8
  | .live => 0
  | .relocatable => 1

/-- The mode that an octet records; all octets but two record none. -/
def ofFlag? (flag : UInt8) : Option AddressMode :=
  if flag = 0 then some .live
  else if flag = 1 then some .relocatable
  else none

def name : AddressMode -> String
  | .live => "live"
  | .relocatable => "relocatable"

theorem ofFlag?_eq_some_iff (octet : UInt8) (mode : AddressMode) :
    ofFlag? octet = some mode <-> octet = mode.flag := by
  cases mode with
  | live =>
      by_cases zero : octet = 0
      · simp [ofFlag?, flag, zero]
      · by_cases one : octet = 1 <;> simp [ofFlag?, flag, zero, one]
  | relocatable =>
      by_cases zero : octet = 0
      · simp [ofFlag?, flag, zero]
      · by_cases one : octet = 1 <;> simp [ofFlag?, flag, zero, one]

end AddressMode
end MappedTables
