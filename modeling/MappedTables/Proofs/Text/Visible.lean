import MappedTables.Proofs.Text.Utf8
import MappedTables.VersionTag

namespace MappedTables

/-!
Visible characters as octets.

A version tag consists of visible ASCII characters.  Each of them is stored as
one octet, which is not a NUL, so a tag takes as many octets as it has characters
and ends at the first NUL behind it.
-/

/-- Visible characters are those from the exclamation mark to the tilde. -/
theorem toNat_of_isVisible {character : Char} (visible : isVisible character = true) :
    33 <= character.toNat ∧ character.toNat <= 126 := by
  simp only [isVisible, Bool.and_eq_true, decide_eq_true_eq, Char.le_def,
    UInt32.le_iff_toNat_le] at visible
  exact visible

theorem toNat_toUInt8_of_isVisible {character : Char} (visible : isVisible character = true) :
    character.toUInt8.toNat = character.toNat := by
  have range := toNat_of_isVisible visible
  have low : character.toUInt8.toNat = character.toNat % 2 ^ 8 := UInt32.toNat_toUInt8 _
  omega

/-- No visible character is stored as a NUL. -/
theorem toUInt8_ne_zero_of_isVisible {character : Char} (visible : isVisible character = true) :
    character.toUInt8 ≠ 0 := by
  intro zero
  have range := toNat_of_isVisible visible
  have same := toNat_toUInt8_of_isVisible visible
  rw [zero] at same
  simp only [UInt8.toNat_zero] at same
  omega

namespace Utf8

theorem utf8EncodeChar_of_isVisible {character : Char} (visible : isVisible character = true) :
    String.utf8EncodeChar character = [character.toUInt8] := by
  have range := toNat_of_isVisible visible
  rw [encode_one (by omega), <- toNat_toUInt8_of_isVisible visible, UInt8.ofNat_toNat]

/-- A visible text is stored octet by octet. -/
theorem encode_of_visible {characters : List Char} (visible : characters.all isVisible = true) :
    encode characters = (characters.map Char.toUInt8).toArray := by
  have octets : characters.flatMap String.utf8EncodeChar = characters.map Char.toUInt8 := by
    induction characters with
    | nil => rfl
    | cons character rest ih =>
        rw [List.all_cons, Bool.and_eq_true] at visible
        rw [List.flatMap_cons, utf8EncodeChar_of_isVisible visible.1, ih visible.2]
        rfl
  rw [encode, octets]

/-- The octets of a visible text, of which there are as many as characters. -/
theorem size_ofString_of_visible {text : String} (visible : text.toList.all isVisible = true) :
    (ofString text).size = text.toList.length := by
  rw [ofString, encode_of_visible visible, List.size_toArray, List.length_map]

theorem zero_notMem_ofString_of_visible {text : String}
    (visible : text.toList.all isVisible = true) : (0 : UInt8) ∉ ofString text := by
  intro member
  rw [ofString, encode_of_visible visible, List.mem_toArray] at member
  rcases List.mem_map.mp member with ⟨character, inside, zero⟩
  exact toUInt8_ne_zero_of_isVisible (List.all_eq_true.mp visible character inside) zero

end Utf8
end MappedTables
