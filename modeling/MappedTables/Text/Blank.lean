namespace MappedTables

/-!
The characters that count as white space.

Unicode gives the property `White_Space` to twenty-five characters: the ASCII
controls from tab to carriage return, the space, the next-line control, the
no-break space, the spaces of fixed width, and the two separators.  Trailing
characters of this class do not belong to a version token.
-/

/-- The ranges of code points, both ends included, that are white space. -/
def blankRanges : List (Nat × Nat) :=
  [(0x09, 0x0D), (0x20, 0x20), (0x85, 0x85), (0xA0, 0xA0), (0x1680, 0x1680),
    (0x2000, 0x200A), (0x2028, 0x2029), (0x202F, 0x202F), (0x205F, 0x205F),
    (0x3000, 0x3000)]

def isBlank (character : Char) : Bool :=
  blankRanges.any fun range =>
    range.1 <= character.toNat && character.toNat <= range.2

/-- A text without the white space at its end. -/
def trimEnd (text : List Char) : List Char :=
  (text.reverse.dropWhile isBlank).reverse

example : (blankRanges.map fun range => range.2 - range.1 + 1).sum = 25 := by decide

end MappedTables
