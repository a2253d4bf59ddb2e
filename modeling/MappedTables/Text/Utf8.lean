import MappedTables.Bytes

namespace MappedTables
namespace Utf8

/-!
UTF-8, read by a machine that takes one octet at a time.

Between characters the machine waits for a first octet.  After the first octet
of a longer sequence it knows how many continuation octets are owed and, for
the next one, the least and greatest octet that may follow; the bounds exclude
overlong forms, surrogates and numbers past the last code point.  An octet that
does not fit ends the damaged sequence in front of it and is then read as a
first octet.  So every damaged sequence is as long as a well-formed one could
have begun, and it leaves one `none` in the output.
-/

/-- What the machine knows in the middle of a character: how many continuation octets are owed,
between which bounds the next one must be, and the bits of the code point read so far. -/
structure Pending where
  owed : Nat
  least : UInt8
  greatest : UInt8
  value : Nat
  deriving DecidableEq, Repr

structure Reading where
  pending : Option Pending := none
  /-- The characters read, with `none` for each damaged sequence. -/
  units : Array (Option Char) := #[]

namespace Reading

/-- Take `octet` as the first of a character. -/
def start (units : Array (Option Char)) (octet : UInt8) : Reading :=
  let value := octet.toNat
  if octet < 0x80 then { units := units.push (some (Char.ofNat value)) }
  else if 0xC2 <= octet ∧ octet <= 0xDF then
    { units, pending := some ⟨1, 0x80, 0xBF, value - 0xC0⟩ }
  else if octet = 0xE0 then { units, pending := some ⟨2, 0xA0, 0xBF, 0⟩ }
  else if octet = 0xED then { units, pending := some ⟨2, 0x80, 0x9F, 0xD⟩ }
  else if 0xE1 <= octet ∧ octet <= 0xEF then
    { units, pending := some ⟨2, 0x80, 0xBF, value - 0xE0⟩ }
  else if octet = 0xF0 then { units, pending := some ⟨3, 0x90, 0xBF, 0⟩ }
  else if 0xF1 <= octet ∧ octet <= 0xF3 then
    { units, pending := some ⟨3, 0x80, 0xBF, value - 0xF0⟩ }
  else if octet = 0xF4 then { units, pending := some ⟨3, 0x80, 0x8F, 4⟩ }
  else { units := units.push none }

def step (reading : Reading) (octet : UInt8) : Reading :=
  match reading.pending with
  | none => start reading.units octet
  | some pending =>
      if pending.least <= octet ∧ octet <= pending.greatest then
        let value := 64 * pending.value + (octet.toNat - 0x80)
        if pending.owed <= 1 then { units := reading.units.push (some (Char.ofNat value)) }
        else { reading with pending := some ⟨pending.owed - 1, 0x80, 0xBF, value⟩ }
      else start (reading.units.push none) octet

/-- What has been read when the octets end; an unfinished character is damaged. -/
def finish (reading : Reading) : Array (Option Char) :=
  match reading.pending with
  | none => reading.units
  | some _ => reading.units.push none

end Reading

/-- The characters of an octet sequence, with `none` for each damaged sequence. -/
def units (octets : Bytes) : Array (Option Char) :=
  (octets.foldl Reading.step {}).finish

def characters? (octets : Bytes) : Option (List Char) :=
  let read := (units octets).toList
  if read.all Option.isSome then some (read.filterMap id) else none

def decode? (octets : Bytes) : Option String :=
  (characters? octets).map String.ofList

/-- The text of any octets, each damaged sequence being replaced by the
replacement character. -/
def decodeLossy (octets : Bytes) : String :=
  String.ofList ((units octets).toList.map (·.getD (Char.ofNat 0xFFFD)))

def encode (characters : List Char) : Bytes :=
  (characters.flatMap String.utf8EncodeChar).toArray

def ofString (text : String) : Bytes :=
  encode text.toList

end Utf8
end MappedTables
