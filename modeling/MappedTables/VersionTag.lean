import MappedTables.Layout.Header
import MappedTables.Text.Blank

namespace MappedTables

/-!
Version tags.

A container may carry a tag that says which edition of its tables it holds.  A
tag is a short run of visible ASCII characters, one fewer at most than the
version area has octets, so that a NUL always follows it there.  In a text
source the tag is given by a first line `VERSION=` followed by the tag.
-/

def isVisible (character : Char) : Bool :=
  '!' <= character && character <= '~'

/-- Whether a text can be used as a version tag. -/
def isVersionTag (token : List Char) : Bool :=
  !token.isEmpty && token.length < versionAreaSize && token.all isVisible

/-- What opens the version line of a text source. -/
def versionKey : List Char := "VERSION=".toList

/-- Whether a line is meant as a version line, whatever follows the key. -/
def isVersionLine (line : List Char) : Bool :=
  versionKey.isPrefixOf line

/-- The tag on a version line, white space at the end of the line left out. -/
def versionOfLine? (line : List Char) : Option String :=
  if isVersionLine line then
    let token := trimEnd (line.drop versionKey.length)
    if isVersionTag token then some (String.ofList token) else none
  else none

end MappedTables
