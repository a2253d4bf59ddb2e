import MappedTables.Proofs.Image.Loaded
import MappedTables.Proofs.Reader.WellFormed
import MappedTables.Proofs.VersionTag.Readers

namespace MappedTables

/-!
The tag that a binary file records.

The tag of a binary file is read from the file, the tag of a container from its
span, and a file may go on behind the container in it.  Both readers look at the
octets of one version area at the same place, up to a NUL.  They differ in where
the octets end: for the container at its recorded capacity, for the file at the
end of the file.  So they agree unless a tag stands at that place whose NUL is
none of the container's octets.
-/

/-! ## Texts that end in a NUL -/

/-- A text stands in the octets from a place on, with a NUL behind it and none in it. -/
structure TextStands (octets : Bytes) (place : Nat) (text : String) : Prop where
  unbroken : columnTerminator ∉ (Utf8.ofString text).toList
  stands : (Utf8.ofString text).toList ++ [columnTerminator] <+: octets.toList.drop place

/-- The text up to the first NUL. -/
def leadingText? (area : Bytes) : Option String :=
  (area.findIdx? (· = columnTerminator)).bind fun stop => Utf8.decode? (area.extract 0 stop)

theorem leadingText?_eq_some_iff {area : Bytes} {text : String} :
    leadingText? area = some text <-> TextStands area 0 text := by
  unfold leadingText?
  rw [Option.bind_eq_some_iff]
  constructor
  · rintro ⟨stop, found, decoded⟩
    rcases Array.findIdx?_eq_some_iff_getElem.mp found with ⟨inside, ends, before⟩
    have front : (Utf8.ofString text).toList = area.toList.take stop := by
      rw [<- Utf8.decode?_eq_some_iff.mp decoded, Array.toList_extract, List.extract_eq_take_drop]
      rfl
    have last : area.toList[stop] = columnTerminator := of_decide_eq_true ends
    constructor
    · intro member
      rw [front] at member
      rcases List.mem_take_iff_getElem.mp member with ⟨index, low, same⟩
      have early : index < stop := by omega
      exact before index early (decide_eq_true same)
    · rw [front, List.drop_zero, <- last, List.take_append_getElem]
      exact List.take_prefix _ _
  · rintro ⟨unbroken, rest, parts⟩
    have nowhere : (Utf8.ofString text).toList.findIdx? (· = columnTerminator) = none := by
      rw [List.findIdx?_eq_none_iff]
      intro octet member
      exact decide_eq_false fun terminates => unbroken (terminates ▸ member)
    have whole : area = ((Utf8.ofString text).toList ++ [columnTerminator] ++ rest).toArray := by
      rw [parts]
      rfl
    refine ⟨(Utf8.ofString text).size, ?_, ?_⟩
    · rw [whole, List.findIdx?_toArray, List.append_assoc, List.findIdx?_append, nowhere]
      simp [List.findIdx?_cons]
    · rw [Utf8.decode?_eq_some_iff, whole]
      simp

/-- A text stands in a window exactly if it stands in the octets and its NUL is one of those
that the window shows. -/
theorem textStands_slice {octets : Bytes} {place count : Nat} {text : String} :
    TextStands (octets.slice place count) 0 text <->
      TextStands octets place text ∧ (Utf8.ofString text).size < count := by
  have window : (octets.slice place count).toList = (octets.toList.drop place).take count := by
    rw [Bytes.slice, Array.toList_extract, List.extract_eq_take_drop, Nat.add_sub_cancel_left]
  have size : ((Utf8.ofString text).toList ++ [columnTerminator]).length <= count <->
      (Utf8.ofString text).size < count := by
    rw [List.length_append, Array.length_toList, List.length_singleton]
    exact Nat.succ_le_iff
  constructor
  · rintro ⟨unbroken, stands⟩
    rw [window, List.drop_zero, List.prefix_take_iff, size] at stands
    exact ⟨⟨unbroken, stands.1⟩, stands.2⟩
  · rintro ⟨⟨unbroken, stands⟩, inside⟩
    refine ⟨unbroken, ?_⟩
    rw [window, List.drop_zero, List.prefix_take_iff, size]
    exact ⟨stands, inside⟩

/-- A text stands in the first octets exactly if it stands in all of them and its NUL is one of
the first. -/
theorem textStands_extract {octets : Bytes} {place stop : Nat} {text : String} :
    TextStands (octets.extract 0 stop) place text <->
      TextStands octets place text ∧ place + (Utf8.ofString text).size < stop := by
  have front : (octets.extract 0 stop).toList.drop place =
      (octets.toList.drop place).take (stop - place) := by
    rw [Array.toList_extract, List.extract_eq_take_drop, List.drop_zero, Nat.sub_zero,
      List.drop_take]
  have size : ((Utf8.ofString text).toList ++ [columnTerminator]).length <= stop - place <->
      place + (Utf8.ofString text).size < stop := by
    rw [List.length_append, Array.length_toList, List.length_singleton]
    omega
  constructor
  · rintro ⟨unbroken, stands⟩
    rw [front, List.prefix_take_iff, size] at stands
    exact ⟨⟨unbroken, stands.1⟩, stands.2⟩
  · rintro ⟨⟨unbroken, stands⟩, inside⟩
    refine ⟨unbroken, ?_⟩
    rw [front, List.prefix_take_iff, size]
    exact ⟨stands, inside⟩

theorem TextStands.lt_size {octets : Bytes} {place : Nat} {text : String}
    (stands : TextStands octets place text) :
    place + (Utf8.ofString text).size < octets.size := by
  have within := stands.stands.length_le
  rw [List.length_append, Array.length_toList, List.length_singleton, List.length_drop,
    Array.length_toList] at within
  omega

/-- The place of the version area in octets that begin with a relocatable container. -/
def tagPlace (octets : Bytes) : Nat :=
  (frontHeader octets).versionWord.toNat

/-! ## The tag of a container -/

namespace Container

variable {container : Container}

/-- The version of a container by the window of its version area. -/
theorem version_of_reference {reference : Reference} {offset : UInt64}
    (recorded : container.header.versionReference = .ok reference)
    (placed : reference.offsetFrom container.base = .ok offset)
    (small : container.capacity < addressLimit) :
    container.version =
      (leadingText? (container.span.bytes.slice offset.toNat versionAreaSize)).getD "" := by
  have window : container.span.bytes.slice offset.toNat
      (min (container.capacity - offset.toNat) versionAreaSize) =
      container.span.bytes.slice offset.toNat versionAreaSize := by
    rw [Bytes.slice, Bytes.slice, Array.extract_eq_extract_right]
    change min _ (container.capacity - _) = min _ (container.capacity - _)
    omega
  unfold version
  have base : container.base = container.span.base := rfl
  rw [base] at placed
  simp only [recorded, base, placed, Span.resolve, Outcome.ok_bind, Span.slice]
  by_cases inside : offset.toNat <= container.capacity
  · have checked : container.span.checkRange offset.toNat
        (min (container.capacity - offset.toNat) versionAreaSize) = .ok () := by
      apply (Span.checkRange_eq_ok_iff _ _ _).mpr
      change _ ∧ _ <= container.capacity
      omega
    simp only [checked, Outcome.ok_bind, Outcome.pure_eq_ok, window]
    unfold leadingText?
    cases (container.span.bytes.slice offset.toNat versionAreaSize).findIdx?
      (· = columnTerminator) with
    | none => rfl
    | some stop => rfl
  · have nothing : container.span.bytes.slice offset.toNat versionAreaSize = #[] := by
      apply Array.extract_empty_of_size_le_start
      exact Nat.le_of_not_le inside
    have silent : leadingText? #[] = none := by simp [leadingText?]
    rw [nothing, silent]
    cases checked : container.span.checkRange offset.toNat
        (min (container.capacity - offset.toNat) versionAreaSize) with
    | error flaw => rfl
    | ok _ =>
        have within := ((Span.checkRange_eq_ok_iff _ _ _).mp checked).2
        exact absurd (Nat.le_trans (Nat.le_add_right _ _) within) inside

/-- The tag of a container: its version, if that is a version tag. -/
def tag (container : Container) : String :=
  if isVersionTag container.version.toList then container.version else ""

end Container

section Held

variable {octets : Bytes} (holds : HoldsContainer octets)
include holds

/-- What the version of a container is that octets begin with, unless it is empty. -/
theorem HoldsContainer.version_eq_iff (base : UInt64) {text : String} (filled : text ≠ "") :
    (containerAt base octets).version = text <->
      TextStands octets (tagPlace octets) text ∧ (Utf8.ofString text).size < versionAreaSize ∧
        tagPlace octets + (Utf8.ofString text).size < (frontHeader octets).capacity.toNat := by
  have recorded : (containerAt base octets).header.versionReference =
      .ok (.relocatable (frontHeader octets).versionWord) := by
    change ((frontHeader octets).mode >>= _) = _
    rw [holds.relocatable]
    rfl
  have small : (containerAt base octets).capacity < addressLimit := by
    rw [holds.capacity_containerAt]
    exact (frontHeader octets).capacity.toNat_lt
  have shown : forall given : Option String, given.getD "" = text <-> given = some text := by
    intro given
    cases given with
    | none => simp [filled.symm]
    | some other => simp
  rw [Container.version_of_reference recorded rfl small, shown, leadingText?_eq_some_iff,
    textStands_slice]
  change TextStands (octets.extract 0 _) (tagPlace octets) text ∧ _ <-> _
  rw [textStands_extract]
  exact and_right_comm.trans and_assoc

end Held

/-! ## The tag of a file -/

/-- The size of a version tag, which is less than that of a version area. -/
theorem size_of_isVersionTag {tag : String} (valid : isVersionTag tag.toList = true) :
    (Utf8.ofString tag).size = tag.toList.length ∧ tag.toList.length < versionAreaSize := by
  rcases isVersionTag_iff.mp valid with ⟨_, short, visible⟩
  exact ⟨Utf8.size_ofString_of_visible visible, short⟩

theorem versionOfArea_eq_ok_iff {area : Bytes} {tag : String} :
    versionOfArea area = .ok tag <->
      leadingText? area = some tag ∧ isVersionTag tag.toList = true := by
  have zero : columnTerminator = 0 := rfl
  unfold versionOfArea leadingText? Utf8.decode?
  rw [zero]
  cases area.findIdx? (· = 0) with
  | none => simp
  | some stop =>
      simp only [Option.bind_some]
      cases Utf8.characters? (area.extract 0 stop) with
      | none => simp
      | some characters =>
          by_cases valid : isVersionTag characters = true
          · simp only [valid, if_true, Except.ok.injEq, Option.map_some, Option.some.injEq]
            constructor
            · rintro rfl
              exact ⟨rfl, by rw [String.toList_ofList]; exact valid⟩
            · exact fun given => given.1
          · simp only [valid, Option.map_some, Option.some.injEq]
            constructor
            · intro impossible
              cases impossible
            · rintro ⟨rfl, other⟩
              rw [String.toList_ofList] at other
              exact absurd other valid

/-- Only from octets that begin with a relocatable container a tag is read. -/
theorem holds_of_versionOfBinary {octets : Bytes} {tag : String}
    (given : versionOfBinary octets = .ok tag) : HoldsContainer octets := by
  unfold versionOfBinary at given
  by_cases short : octets.size < leastContainerSize
  · simp only [short, if_true] at given
    cases given
  · simp only [short, if_false] at given
    rcases Outcome.bind_eq_ok_iff.mp given with ⟨_, accepted, rest⟩
    rcases Outcome.bind_eq_ok_iff.mp rest with ⟨mode, recorded, rest⟩
    cases mode with
    | live => cases rest
    | relocatable => exact ⟨Nat.not_lt.mp short, accepted, recorded⟩

/-- From octets that begin with a relocatable container, the tag is read in the window of the
version area, if the file can be read there at all. -/
theorem HoldsContainer.versionOfBinary_eq {octets : Bytes} (holds : HoldsContainer octets) :
    versionOfBinary octets =
      if filePositionLimit <= tagPlace octets then
        .error (.io .unspecified (.os .invalidArgument))
      else versionOfArea (octets.slice (tagPlace octets) versionAreaSize) := by
  have long : ¬ octets.size < leastContainerSize := Nat.not_lt.mpr holds.least
  have front : StoredHeader.decode (octets.extract 0 leastContainerSize) = frontHeader octets := rfl
  have reference : (frontHeader octets).versionReference =
      .ok (.relocatable (frontHeader octets).versionWord) := by
    rw [ContainerHeader.versionReference, holds.relocatable]
    rfl
  have place : (Reference.relocatable (frontHeader octets).versionWord).word.toNat =
      tagPlace octets := rfl
  unfold versionOfBinary
  simp only [long, if_false, front, holds.accepted, holds.relocatable, reference, place,
    Outcome.ok_bind, ne_eq, not_true_eq_false]
  by_cases far : filePositionLimit <= tagPlace octets
  · simp only [far, if_true, Outcome.throw_eq_error, Outcome.error_bind]
  · simp only [far, if_false]

/-- What reading the tag of a binary file finds. -/
theorem versionOfBinary_eq_ok_iff {octets : Bytes} (holds : HoldsContainer octets) {tag : String} :
    versionOfBinary octets = .ok tag <->
      isVersionTag tag.toList = true ∧ TextStands octets (tagPlace octets) tag ∧
        tagPlace octets < filePositionLimit := by
  rw [holds.versionOfBinary_eq]
  by_cases far : filePositionLimit <= tagPlace octets
  · rw [if_pos far]
    constructor
    · intro impossible
      cases impossible
    · rintro ⟨_, _, near⟩
      exact absurd near (Nat.not_lt.mpr far)
  · rw [if_neg far, versionOfArea_eq_ok_iff, leadingText?_eq_some_iff, textStands_slice]
    constructor
    · rintro ⟨⟨stands, _⟩, valid⟩
      exact ⟨valid, stands, Nat.not_le.mp far⟩
    · rintro ⟨valid, stands, _⟩
      rcases size_of_isVersionTag valid with ⟨size, short⟩
      exact ⟨⟨stands, size ▸ short⟩, valid⟩

/-! ## The two tags -/

/-- A tag stands at the place of the version area, and only one of its two readers can reach it. -/
inductive Overrun (octets : Bytes) (tag : String) : Prop where
  /-- The NUL behind the tag is not one of the octets of the container. -/
  | behind (stands : TextStands octets (tagPlace octets) tag)
      (outside : (frontHeader octets).capacity.toNat <= tagPlace octets + tag.toList.length)
      (reached : tagPlace octets < filePositionLimit)
  /-- The tag lies at a position from which no file is read. -/
  | beyond (stands : TextStands octets (tagPlace octets) tag)
      (inside : tagPlace octets + tag.toList.length < (frontHeader octets).capacity.toNat)
      (far : filePositionLimit <= tagPlace octets)

theorem overrun_iff {octets : Bytes} {tag : String} :
    Overrun octets tag <->
      TextStands octets (tagPlace octets) tag ∧
        ¬ (tagPlace octets + tag.toList.length < (frontHeader octets).capacity.toNat <->
          tagPlace octets < filePositionLimit) := by
  constructor
  · intro overrun
    cases overrun with
    | behind stands outside reached => exact ⟨stands, by omega⟩
    | beyond stands inside far => exact ⟨stands, by omega⟩
  · rintro ⟨stands, apart⟩
    by_cases inside : tagPlace octets + tag.toList.length < (frontHeader octets).capacity.toNat
    · exact .beyond stands inside (by omega)
    · exact .behind stands (by omega) (by omega)

/-- No tag is overrun where nothing follows the container. -/
theorem not_overrun_of_whole {octets : Bytes} {tag : String}
    (valid : isVersionTag tag.toList = true)
    (whole : octets.size = (frontHeader octets).capacity.toNat)
    (storable : octets.size <= filePositionLimit) : ¬ Overrun octets tag := by
  have size := (size_of_isVersionTag valid).1
  rw [overrun_iff]
  rintro ⟨stands, apart⟩
  have within := stands.lt_size
  exact apart (by omega)

theorem ne_empty_of_isVersionTag {tag : String} (valid : isVersionTag tag.toList = true) :
    tag ≠ "" := by
  rintro rfl
  exact (isVersionTag_iff.mp valid).1 rfl

/-- When the tag of the container is a given one. -/
theorem HoldsContainer.tag_eq_iff {octets : Bytes} (holds : HoldsContainer octets) (base : UInt64)
    {tag : String} (valid : isVersionTag tag.toList = true) :
    (containerAt base octets).tag = tag <->
      TextStands octets (tagPlace octets) tag ∧
        tagPlace octets + tag.toList.length < (frontHeader octets).capacity.toNat := by
  have filled := ne_empty_of_isVersionTag valid
  rcases size_of_isVersionTag valid with ⟨size, short⟩
  have same : (containerAt base octets).tag = tag <->
      (containerAt base octets).version = tag := by
    unfold Container.tag
    constructor
    · intro given
      by_cases accepted : isVersionTag (containerAt base octets).version.toList = true
      · rwa [if_pos accepted] at given
      · rw [if_neg accepted] at given
        exact absurd given.symm filled
    · rintro rfl
      exact if_pos valid
  rw [same, holds.version_eq_iff base filled, size]
  exact and_congr_right fun _ => and_iff_right short

/-- When the tag shown for the octets is a given one. -/
theorem HoldsContainer.shown_eq_tag_iff {octets : Bytes} (holds : HoldsContainer octets)
    {tag : String} (valid : isVersionTag tag.toList = true) :
    shownFor (versionOfBinary octets) = tag <->
      TextStands octets (tagPlace octets) tag ∧ tagPlace octets < filePositionLimit := by
  have filled := ne_empty_of_isVersionTag valid
  have given : shownFor (versionOfBinary octets) = tag <-> versionOfBinary octets = .ok tag := by
    cases versionOfBinary octets with
    | error error => simp [shownFor, filled.symm]
    | ok other => simp [shownFor]
  rw [given, versionOfBinary_eq_ok_iff holds]
  exact and_iff_right valid

/-- The tag that is shown is a version tag, if it is not empty. -/
theorem HoldsContainer.shown_cases {octets : Bytes} (holds : HoldsContainer octets) :
    shownFor (versionOfBinary octets) = "" ∨
      isVersionTag (shownFor (versionOfBinary octets)).toList = true := by
  cases given : versionOfBinary octets with
  | error error => exact Or.inl rfl
  | ok tag => exact Or.inr ((versionOfBinary_eq_ok_iff holds).mp given).1

theorem Container.tag_cases (container : Container) :
    container.tag = "" ∨ isVersionTag container.tag.toList = true := by
  unfold tag
  by_cases valid : isVersionTag container.version.toList = true
  · rw [if_pos valid]
    exact Or.inr valid
  · exact Or.inl (if_neg valid)

/-- Texts that are version tags or empty are equal if they agree on every version tag. -/
theorem eq_of_tags {first second : String}
    (one : first = "" ∨ isVersionTag first.toList = true)
    (other : second = "" ∨ isVersionTag second.toList = true)
    (agree : forall tag : String, isVersionTag tag.toList = true ->
      (first = tag <-> second = tag)) :
    first = second := by
  rcases one with rfl | valid
  · rcases other with rfl | valid
    · rfl
    · exact (agree second valid).mpr rfl
  · exact ((agree first valid).mp rfl).symm

/-- The tag shown for the octets is that of the container exactly if no tag is overrun. -/
theorem HoldsContainer.shown_eq_iff {octets : Bytes} (holds : HoldsContainer octets)
    (base : UInt64) :
    shownFor (versionOfBinary octets) = (containerAt base octets).tag <->
      forall tag : String, isVersionTag tag.toList = true -> ¬ Overrun octets tag := by
  have agree {tag : String} (valid : isVersionTag tag.toList = true) :
      (shownFor (versionOfBinary octets) = tag <-> (containerAt base octets).tag = tag) <->
        ¬ Overrun octets tag := by
    rw [holds.shown_eq_tag_iff valid, holds.tag_eq_iff base valid, overrun_iff, not_and, not_not,
      and_congr_right_iff]
    exact forall_congr' fun _ => iff_comm
  constructor
  · intro same tag valid
    rw [<- agree valid, same]
  · intro none
    exact eq_of_tags holds.shown_cases (containerAt base octets).tag_cases fun tag valid =>
      (agree valid).mpr (none tag valid)

namespace VersionedFile

/-- For a file with octets that are refused as an image, no tag is shown.  For one with octets
that are loaded, the tag shown is that of the container exactly if no tag is overrun. -/
theorem binary_tag_iff_not_overrun (host : Host) (path : String) (stored : StoredFile)
    (base : UInt64) (read : host.files.read path = .ok stored)
    (aligned : base.toNat % headerAlignment = 0) :
    (forall error, Image.ofBytes base stored.content = .error error ->
        (binary.versionShown path host).1 = "") ∧
      forall image, Image.ofBytes base stored.content = .ok image ->
        exists container, image.view = .ok container ∧
          ((binary.versionShown path host).1 = container.tag <->
            forall tag : String, isVersionTag tag.toList = true ->
              ¬ Overrun stored.content tag) := by
  have shown : (binary.versionShown path host).1 = shownFor (versionOfBinary stored.content) :=
    versionShown_of_read read
  rw [shown]
  constructor
  · intro error refused
    cases given : versionOfBinary stored.content with
    | error _ => rfl
    | ok tag =>
        have loaded := (Image.ofBytes_eq_ok_iff aligned).mpr ⟨holds_of_versionOfBinary given, rfl⟩
        rw [refused] at loaded
        cases loaded
  · intro image loaded
    rcases (Image.ofBytes_eq_ok_iff aligned).mp loaded with ⟨holds, rfl⟩
    exact ⟨_, holds.view_eq aligned, holds.shown_eq_iff base⟩

/-- The octets of the container, and behind them an `x` and a NUL. -/
def trailedBytes : Bytes :=
  (StoredHeader.encode bareHeader ++ [120, 0]).toArray

theorem binary_tag_iff_not_overrun_trailed :
    (hostHolding trailedBytes).files.read "kb" =
        .ok { content := trailedBytes, permissions := FileSystem.plainPermissions } ∧
      (4096 : UInt64).toNat % headerAlignment = 0 ∧
      (forall error, Image.ofBytes 4096 trailedBytes = .error error ->
          (binary.versionShown "kb" (hostHolding trailedBytes)).1 = "") ∧
        forall image, Image.ofBytes 4096 trailedBytes = .ok image ->
          exists container, image.view = .ok container ∧
            ((binary.versionShown "kb" (hostHolding trailedBytes)).1 = container.tag <->
              forall tag : String, isVersionTag tag.toList = true ->
                ¬ Overrun trailedBytes tag) := by
  have aligned : (4096 : UInt64).toNat % headerAlignment = 0 := by decide
  exact ⟨read_hostHolding trailedBytes, aligned,
    binary_tag_iff_not_overrun (hostHolding trailedBytes) "kb" _ 4096
      (read_hostHolding trailedBytes) aligned⟩

/-- The octets are loaded, the container has no tag, and the tag shown for the file is `x`. -/
theorem trailedBytes_overrun :
    (exists image container, Image.ofBytes 4096 trailedBytes = .ok image ∧
        image.view = .ok container ∧ container.version = "" ∧ container.tag = "") ∧
      (binary.versionShown "kb" (hostHolding trailedBytes)).1 = "x" := by
  constructor
  · refine ⟨bareImage, ⟨bareImage.span, bareHeader, .relocatable⟩, ?_, ?_, ?_, ?_⟩
    · decide +kernel
    · decide +kernel
    · decide +kernel
    · decide +kernel
  · rw [versionShown_of_read (read_hostHolding trailedBytes)]
    decide +kernel

end VersionedFile
end MappedTables
