import MappedTables.Draft
import MappedTables.Text.Lines

namespace MappedTables

/-!
Drafts written as text.

The lines of a text source are, in this order: a version line, if the first
line starts like one; the head rows, up to the first empty line; and the data
rows, in which later empty lines count as rows with one empty column.  The
columns of a row are separated by tabs.  A version line whose token is no
version tag gives the empty tag.
-/

structure SourceParts where
  version : String
  headLines : List (List Char)
  dataLines : List (List Char)
  deriving DecidableEq, Repr

namespace SourceParts

/-- Divide the lines that follow the version line. -/
def ofBody (version : String) (body : List (List Char)) : SourceParts where
  version := version
  headLines := body.takeWhile (· ≠ [])
  dataLines := (body.dropWhile (· ≠ [])).drop 1

/-- Divide the lines of a source. -/
def ofLines : List (List Char) -> SourceParts
  | [] => ofBody "" []
  | first :: rest =>
      if isVersionLine first then ofBody ((versionOfLine? first).getD "") rest
      else ofBody "" (first :: rest)

end SourceParts

def columnsOfLine (line : List Char) : List Bytes :=
  (pieces '\t' line).map Utf8.encode

namespace Draft

/-- The draft with one more row for each of the lines. -/
def pushLines (draft : Draft) (kind : TableKind) (sourceLines : List (List Char)) :
    Except Error Draft :=
  sourceLines.foldlM (fun grown line => grown.push kind (columnsOfLine line)) draft

/-- The draft that a text describes. -/
def ofText (text : List Char) : Except Error Draft := do
  let parts := SourceParts.ofLines (lines text)
  let withHead ← pushLines { version := parts.version } .head parts.headLines
  withHead.pushLines .data parts.dataLines

end Draft
end MappedTables
