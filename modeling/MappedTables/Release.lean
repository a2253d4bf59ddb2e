namespace MappedTables

/-!
The release of the library.
-/

/-- A release by its three numbers. -/
structure Release where
  major : Nat
  minor : Nat
  patch : Nat
  deriving DecidableEq, Repr

/-- The numbers of a release with dots between them. -/
def Release.text (release : Release) : String :=
  s!"{release.major}.{release.minor}.{release.patch}"

def currentRelease : Release where
  major := 0
  minor := 1
  patch := 0

end MappedTables
