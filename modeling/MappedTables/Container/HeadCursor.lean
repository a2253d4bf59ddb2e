import MappedTables.Container

namespace MappedTables

/-!
Repeated searches for head rows.

A cursor remembers the line of its last hit and tries it first.  As long as no
two head rows share a mark this changes nothing but the effort; with shared
marks a remembered later row may answer in place of the first.
-/

/-- The line to try first, if any. -/
structure HeadCursor where
  lastLine : Option UInt32 := none
  deriving DecidableEq, Repr

namespace HeadCursor

/-- A cursor that starts from a line known elsewhere; there is no line zero. -/
def ofHint (line : UInt32) : HeadCursor where
  lastLine := if line = 0 then none else some line

/-- The remembered row's column, if that row has the mark and the column. -/
def tryHint (cursor : HeadCursor) (container : Container) (mark : UInt8)
    (column : UInt16) : Except Abort (Option ColumnText) :=
  match cursor.lastLine with
  | none => .ok none
  | some line =>
      match container.headRow? line mark with
      | none => .ok none
      | some row => attempt (row.column column)

/-- A column of a head row with a mark, and the cursor after the search. -/
def lookup (cursor : HeadCursor) (container : Container) (mark : UInt8)
    (column : UInt16) : Except Abort (Option ColumnText × HeadCursor) := do
  match ← cursor.tryHint container mark column with
  | some text => return (some text, cursor)
  | none =>
      match ← container.findHead mark column with
      | none => return (none, cursor)
      | some found => return (some found.text, { lastLine := some found.line })

end HeadCursor
end MappedTables
