namespace MappedTables

/-!
Texts as lines, and lines as fields.

`pieces` cuts a text at every separator and so gives one piece more than there
are separators.  A line is ended by a line feed, and a carriage return in front
of that line feed belongs to the ending; what follows the last line feed is a
line only if it is not empty, and then a carriage return at its end is text.
-/

/-- Put a character in front of the first piece. -/
def consFirst (character : Char) : List (List Char) -> List (List Char)
  | [] => [[character]]
  | piece :: rest => (character :: piece) :: rest

/-- The pieces of a text between the separators in it. -/
def pieces (separator : Char) (text : List Char) : List (List Char) :=
  text.foldr
    (fun character rest =>
      if character = separator then [] :: rest else consFirst character rest)
    [[]]

/-- A line without the carriage return of its ending. -/
def dropReturn (line : List Char) : List Char :=
  if line.getLast? = some '\r' then line.dropLast else line

def lines (text : List Char) : List (List Char) :=
  let parts := pieces '\n' text
  let ended := parts.dropLast.map dropReturn
  match parts.getLast? with
  | some (character :: rest) => ended ++ [character :: rest]
  | _ => ended

@[simp] theorem pieces_nil (separator : Char) : pieces separator [] = [[]] := rfl

theorem pieces_cons (separator character : Char) (text : List Char) :
    pieces separator (character :: text) =
      if character = separator then [] :: pieces separator text
      else consFirst character (pieces separator text) := rfl

example : lines "a\r\n\nb\r".toList = [['a'], [], ['b', '\r']] := by decide

end MappedTables
