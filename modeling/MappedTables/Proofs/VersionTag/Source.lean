import MappedTables.Draft.File
import MappedTables.Proofs.Draft.History
import MappedTables.Proofs.Text.Lines
import MappedTables.Proofs.VersionTag.Line

namespace MappedTables

/-!
The tag of a text source, read twice.

A draft takes its tag from the whole first line of a source.  The tag shown for
the file takes it from the first octets of the file and treats what it finds
there as a whole line.  The two agree unless the line goes on behind these octets
and the cut matters: it takes away text behind a tag, or it falls inside a
character of a line that gives a tag.
-/

/-- The line is cut where it makes a difference. -/
inductive Misread (line : List Char) : Prop where
  /-- The octets looked at end with a character and give a tag, but more than blanks follow. -/
  | shortened (front rest : List Char) (split : line = front ++ rest)
      (size : (Utf8.encode front).size = versionLineLimit)
      (given : (versionOfLine? front).isSome)
      (continued : exists character, character ∈ rest ∧ isBlank character = false)
  /-- The octets looked at end inside a character, and the line gives a tag. -/
  | broken (long : versionLineLimit < (Utf8.encode line).size)
      (inside : forall front, front <+: line -> (Utf8.encode front).size ≠ versionLineLimit)
      (given : (versionOfLine? line).isSome)

/-- The text that is shown for an outcome. -/
def shownFor (outcome : Except Error String) : String :=
  match outcome with
  | .ok tag => tag
  | .error _ => ""

/-! ## The tag of a draft -/

theorem SourceParts.version_lines (text : List Char) :
    (ofLines (lines text)).version = (versionOfLine? (leadingLine text)).getD "" := by
  have unbroken := notMem_leadingLine text
  rcases leadingLine_split text with whole | ⟨rest, split⟩
  · rw [<- whole] at unbroken ⊢
    rw [lines_of_notMem unbroken]
    by_cases empty : text = []
    · rw [if_pos empty, empty]
      rfl
    · rw [if_neg empty, version_cons]
  · generalize leadingLine text = line at unbroken split ⊢
    rw [split, lines_append_cons rest unbroken, version_cons, versionOfLine?_dropReturn]

/-! ## The octets that are looked at -/

/-- The octet of a line feed. -/
def lineFeed : UInt8 := 10

theorem notMem_encode {line : List Char} (unbroken : '\n' ∉ line) :
    lineFeed ∉ Utf8.encode line := fun member =>
  unbroken ((@Utf8.mem_encode_iff '\n' line (by decide)).mp member)

theorem findIdx?_lineFeed {octets : Bytes} (unbroken : lineFeed ∉ octets) :
    octets.findIdx? (· = 10) = none := by
  rw [Array.findIdx?_eq_none_iff]
  intro octet member
  apply decide_eq_false
  intro same
  subst same
  exact unbroken member

theorem firstLine_of_notMem {octets : Bytes} (unbroken : lineFeed ∉ octets) :
    firstLine octets = octets := by
  rw [firstLine, findIdx?_lineFeed unbroken]

theorem firstLine_append {octets : Bytes} (rest : Bytes) (unbroken : lineFeed ∉ octets) :
    firstLine (octets ++ #[lineFeed] ++ rest) = octets ++ #[lineFeed] := by
  have found : (octets ++ #[lineFeed] ++ rest).findIdx? (· = 10) = some octets.size := by
    rw [Array.append_assoc, Array.findIdx?_append, findIdx?_lineFeed unbroken,
      Array.findIdx?_append]
    simp [lineFeed]
  have size : octets.size + 1 = (octets ++ #[lineFeed]).size := by simp
  rw [firstLine, found]
  simp only
  rw [size, Array.extract_append_left, Array.extract_size]

/-- A short line is seen as a whole, with its line feed if it has one. -/
theorem firstLine_window_of_short {line : List Char} (unbroken : '\n' ∉ line)
    (short : (Utf8.encode line).size < versionLineLimit) {text : List Char}
    (split : text = line ∨ exists rest, text = line ++ '\n' :: rest) :
    exists ending, (forall character, character ∈ ending -> isBlank character = true) ∧
      firstLine ((Utf8.encode text).extract 0 versionLineLimit) =
        Utf8.encode (line ++ ending) := by
  rcases split with whole | ⟨rest, split⟩
  · refine ⟨[], nofun, ?_⟩
    rw [whole, Array.extract_eq_self_of_le (Nat.le_of_lt short), List.append_nil,
      firstLine_of_notMem (notMem_encode unbroken)]
  · refine ⟨['\n'], blank_singleton (by decide), ?_⟩
    have octets : Utf8.encode text =
        Utf8.encode line ++ #[lineFeed] ++ Utf8.encode rest := by
      rw [split, List.append_cons, Utf8.encode_append, Utf8.encode_append]
      rfl
    have window : (Utf8.encode text).extract 0 versionLineLimit =
        Utf8.encode line ++ #[lineFeed] ++
          (Utf8.encode rest).extract 0 (versionLineLimit - ((Utf8.encode line).size + 1)) := by
      rw [octets, Array.extract_append, Array.extract_eq_self_of_le]
      · simp
      · rw [Array.size_append]
        exact short
    rw [window, firstLine_append _ (notMem_encode unbroken), Utf8.encode_append]
    rfl

/-- Of a line that is not short, the octets looked at are a part. -/
theorem firstLine_window_of_long {line : List Char} (unbroken : '\n' ∉ line)
    (long : versionLineLimit <= (Utf8.encode line).size) {text : List Char}
    (opens : line <+: text) :
    firstLine ((Utf8.encode text).extract 0 versionLineLimit) =
      (Utf8.encode line).extract 0 versionLineLimit := by
  rcases opens with ⟨rest, split⟩
  have window : (Utf8.encode text).extract 0 versionLineLimit =
      (Utf8.encode line).extract 0 versionLineLimit := by
    rw [<- split, Utf8.encode_append, Array.extract_append,
      Nat.sub_eq_zero_of_le long]
    simp
  rw [window, firstLine_of_notMem]
  intro member
  rcases Array.mem_extract_iff_getElem.mp member with ⟨_, _, same⟩
  exact notMem_encode unbroken (same ▸ Array.getElem_mem _)

/-! ## The tag shown for a source -/

/-- The report on a line. -/
def reportFor (given : Option String) : Except Error String :=
  match given with
  | none => .error (.malformed .noVersionToken)
  | some tag => .ok tag

theorem shownFor_reportFor (given : Option String) :
    shownFor (reportFor given) = given.getD "" := by
  cases given with
  | none => rfl
  | some tag => rfl

/-- Octets that are those of a line give what the line gives. -/
theorem versionOfSource_of_firstLine {octets : Bytes} {line : List Char}
    (seen : firstLine (octets.extract 0 versionLineLimit) = Utf8.encode line) :
    versionOfSource octets = reportFor (versionOfLine? line) := by
  rw [versionOfSource, seen, Utf8.characters?_encode]
  simp only
  rw [versionOfLine?_dropLineEnd]
  rfl

theorem versionOfSource_of_short {text : List Char}
    (short : (Utf8.encode (leadingLine text)).size < versionLineLimit) :
    versionOfSource (Utf8.encode text) = reportFor (versionOfLine? (leadingLine text)) := by
  rcases firstLine_window_of_short (notMem_leadingLine text) short (leadingLine_split text) with
    ⟨ending, blank, seen⟩
  rw [versionOfSource_of_firstLine seen, versionOfLine?_append_blanks _ blank]

theorem leadingLine_opens (text : List Char) : leadingLine text <+: text :=
  List.takeWhile_prefix _

/-- A line that is cut between characters is taken for its front. -/
theorem versionOfSource_of_cut {text front rest : List Char}
    (split : leadingLine text = front ++ rest)
    (size : (Utf8.encode front).size = versionLineLimit) :
    versionOfSource (Utf8.encode text) = reportFor (versionOfLine? front) := by
  have octets : Utf8.encode (leadingLine text) = Utf8.encode front ++ Utf8.encode rest := by
    rw [split, Utf8.encode_append]
  have long : versionLineLimit <= (Utf8.encode (leadingLine text)).size := by
    rw [octets, Array.size_append, size]
    exact Nat.le_add_right _ _
  apply versionOfSource_of_firstLine
  rw [firstLine_window_of_long (notMem_leadingLine text) long (leadingLine_opens text), octets,
    <- size, Array.extract_append_left, Array.extract_size]

/-- A line that is cut inside a character is not read at all. -/
theorem versionOfSource_of_broken {text : List Char}
    (long : versionLineLimit <= (Utf8.encode (leadingLine text)).size)
    (inside : forall front, front <+: leadingLine text ->
      (Utf8.encode front).size ≠ versionLineLimit) :
    versionOfSource (Utf8.encode text) = .error (.io .unspecified .notUtf8) := by
  have seen := firstLine_window_of_long (notMem_leadingLine text) long (leadingLine_opens text)
  have damaged : Utf8.characters? (firstLine
      ((Utf8.encode text).extract 0 versionLineLimit)) = none := by
    cases read : Utf8.characters? (firstLine
        ((Utf8.encode text).extract 0 versionLineLimit)) with
    | none => rfl
    | some front =>
        have octets := Utf8.characters?_eq_some_iff.mp read
        rw [seen] at octets
        have size : (Utf8.encode front).size = versionLineLimit := by
          rw [<- octets, Array.size_extract]
          omega
        have whole : Utf8.encode front ++ (Utf8.encode (leadingLine text)).extract versionLineLimit
            (Utf8.encode (leadingLine text)).size = Utf8.encode (leadingLine text) := by
          rw [<- octets, Array.extract_append_extract, Nat.zero_min, Nat.max_eq_right long,
            Array.extract_size]
        exact absurd size (inside front (Utf8.prefix_of_encode_append whole))
  rw [versionOfSource, damaged]

/-! ## When a line is misread -/

theorem not_misread_of_short {line : List Char}
    (short : (Utf8.encode line).size < versionLineLimit) : ¬ Misread line := by
  intro misread
  cases misread with
  | shortened front rest split size given continued =>
      rw [split, Utf8.encode_append, Array.size_append, size] at short
      omega
  | broken long inside given => omega

/-- A line is divided in one way at a given number of octets. -/
theorem front_unique {front other rest others : List Char}
    (same : front ++ rest = other ++ others)
    (size : (Utf8.encode front).size = (Utf8.encode other).size) :
    front = other ∧ rest = others := by
  have octets : Utf8.encode front ++ Utf8.encode rest =
      Utf8.encode other ++ Utf8.encode others := by
    rw [<- Utf8.encode_append, <- Utf8.encode_append, same]
  rcases Array.append_inj octets size with ⟨fronts, rests⟩
  exact ⟨Utf8.encode_inj.mp fronts, Utf8.encode_inj.mp rests⟩

theorem misread_iff_of_cut {front rest : List Char}
    (size : (Utf8.encode front).size = versionLineLimit) :
    Misread (front ++ rest) <->
      (versionOfLine? front).getD "" ≠ (versionOfLine? (front ++ rest)).getD "" := by
  have far : versionKey.length + versionAreaSize <= (Utf8.encode front).size := by
    rw [size]
    decide
  constructor
  · intro misread
    cases misread with
    | shortened other others split sameSize given continued =>
        rcases front_unique split (size.trans sameSize.symm) with ⟨same, sameRest⟩
        subst same sameRest
        rcases continued with ⟨character, member, text⟩
        have none := versionOfLine?_eq_none_of_far far member text
        rw [none]
        intro same
        rw [getD_versionOfLine?_eq_empty_iff.mp same] at given
        cases given
    | broken long inside given => exact absurd size (inside front (List.prefix_append _ _))
  · intro different
    -- Only blanks behind the cut would leave the whole line with the tag of its front.
    by_cases blank : forall character, character ∈ rest -> isBlank character = true
    · rw [versionOfLine?_append_blanks front blank] at different
      exact absurd rfl different
    · simp only [Classical.not_forall, Bool.not_eq_true] at blank
      rcases blank with ⟨character, member, text⟩
      have none := versionOfLine?_eq_none_of_far far member text
      have given : (versionOfLine? front).isSome := by
        rw [none] at different
        rw [Option.isSome_iff_ne_none]
        intro absent
        exact different (getD_versionOfLine?_eq_empty_iff.mpr absent)
      exact .shortened front rest rfl size given ⟨character, member, text⟩

theorem misread_iff_of_broken {line : List Char}
    (long : versionLineLimit <= (Utf8.encode line).size)
    (inside : forall front, front <+: line -> (Utf8.encode front).size ≠ versionLineLimit) :
    Misread line <-> (versionOfLine? line).getD "" ≠ "" := by
  rw [Ne, getD_versionOfLine?_eq_empty_iff, <- Ne, <- Option.isSome_iff_ne_none]
  constructor
  · intro misread
    cases misread with
    | shortened front rest split size =>
        exact absurd size (inside front ⟨rest, split.symm⟩)
    | broken _ _ given => exact given
  · intro given
    exact .broken (Nat.lt_of_le_of_ne long (inside line List.prefix_rfl).symm) inside given

/-- The tag shown for a source is that of its first line unless the line is misread. -/
theorem shown_eq_iff (text : List Char) :
    shownFor (versionOfSource (Utf8.encode text)) = (versionOfLine? (leadingLine text)).getD "" <->
      ¬ Misread (leadingLine text) := by
  by_cases short : (Utf8.encode (leadingLine text)).size < versionLineLimit
  · rw [versionOfSource_of_short short, shownFor_reportFor]
    exact iff_of_true rfl (not_misread_of_short short)
  · have long := Nat.not_lt.mp short
    by_cases cut : exists front, front <+: leadingLine text ∧
        (Utf8.encode front).size = versionLineLimit
    · rcases cut with ⟨front, ⟨rest, split⟩, size⟩
      rw [versionOfSource_of_cut split.symm size, shownFor_reportFor, <- split,
        misread_iff_of_cut size, ne_eq, Classical.not_not]
    · have inside : forall front, front <+: leadingLine text ->
          (Utf8.encode front).size ≠ versionLineLimit :=
        fun front opens size => cut ⟨front, opens, size⟩
      rw [versionOfSource_of_broken long inside, misread_iff_of_broken long inside, ne_eq,
        Classical.not_not]
      exact eq_comm

end MappedTables
