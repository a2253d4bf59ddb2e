import MappedTables.Proofs.Foreign.Lookups
import MappedTables.Proofs.VersionTag.Recorded

namespace MappedTables

/-!
The version area.

The version of a container is read from a window that starts where the version
word refers to and ends with the version area or with the container, whichever is
first.  Said without the window: there is a version exactly if octets stand at
that place that encode it, with a NUL behind them and none among them, fewer than
the area has room for, and the NUL is one of the container's octets.  So a caller
who is given the place of a version reads on to a NUL that is in the container.
-/

/-- From the place that the version word refers to on, `size` octets of the container encode
the text, and the NUL behind them is the first. -/
structure RecordsTag (container : Container) (text : String) (place size : Nat) : Prop where
  designates : Designates container.mode container.base container.header.versionWord place
  filled : 1 <= size
  short : size < versionAreaSize
  inside : place + size < container.capacity
  octets_eq : container.span.bytes.slice place size = Utf8.ofString text
  unbroken : columnTerminator ∉ container.span.bytes.slice place size
  ends : container.span.bytes[place + size]? = some columnTerminator

theorem append_singleton_prefix_iff {front octets : List UInt8} {last : UInt8} :
    front ++ [last] <+: octets <->
      octets.take front.length = front ∧ octets[front.length]? = some last := by
  constructor
  · rintro ⟨rest, rfl⟩
    rw [List.append_assoc]
    constructor
    · exact List.take_left
    · simp
  · rintro ⟨first, next⟩
    rcases List.getElem?_eq_some_iff.mp next with ⟨inside, same⟩
    rw [<- same]
    conv_lhs => lhs; rw [<- first]
    rw [List.take_append_getElem]
    exact List.take_prefix _ _

theorem Utf8.size_ofString_pos_iff {text : String} :
    1 <= (Utf8.ofString text).size <-> text ≠ "" := by
  constructor
  · rintro filled rfl
    exact Nat.not_succ_le_zero 0 filled
  · intro filled
    apply Nat.pos_of_ne_zero
    intro nothing
    have decoded := Utf8.decode?_ofString text
    rw [Array.eq_empty_of_size_eq_zero nothing] at decoded
    exact filled (Option.some.inj decoded).symm

theorem textStands_iff {octets : Bytes} {place : Nat} {text : String} :
    TextStands octets place text <->
      columnTerminator ∉ Utf8.ofString text ∧
        octets.slice place (Utf8.ofString text).size = Utf8.ofString text ∧
        octets[place + (Utf8.ofString text).size]? = some columnTerminator := by
  have window : octets.slice place (Utf8.ofString text).size = Utf8.ofString text <->
      (octets.toList.drop place).take (Utf8.ofString text).toList.length =
        (Utf8.ofString text).toList := by
    rw [<- Array.toList_inj, Bytes.slice, Array.toList_extract, List.extract_eq_take_drop,
      Nat.add_sub_cancel_left, Array.length_toList]
  have next : octets[place + (Utf8.ofString text).size]? =
      (octets.toList.drop place)[(Utf8.ofString text).toList.length]? := by
    rw [List.getElem?_drop, Array.length_toList, Array.getElem?_toList]
  rw [window, next, <- append_singleton_prefix_iff, Array.mem_def]
  constructor
  · intro stands
    exact ⟨stands.unbroken, stands.stands⟩
  · rintro ⟨unbroken, stands⟩
    exact ⟨unbroken, stands⟩

namespace Container

variable {container : Container} {text : String} {place size : Nat}

theorem recordsTag_iff :
    RecordsTag container text place size <->
      Designates container.mode container.base container.header.versionWord place ∧
        TextStands container.span.bytes place text ∧ text ≠ "" ∧
        size = (Utf8.ofString text).size ∧ size < versionAreaSize := by
  constructor
  · intro records
    have counted : size = (Utf8.ofString text).size := by
      have within : place + size < container.span.bytes.size := records.inside
      rw [<- records.octets_eq, Bytes.size_slice]
      omega
    have octets := records.octets_eq
    have unbroken := records.unbroken
    have ends := records.ends
    have filled := records.filled
    rw [octets] at unbroken
    rw [counted] at octets ends filled
    exact ⟨records.designates, textStands_iff.mpr ⟨unbroken, octets, ends⟩,
      Utf8.size_ofString_pos_iff.mp filled, counted, records.short⟩
  · rintro ⟨designates, stands, filled, rfl, short⟩
    rcases textStands_iff.mp stands with ⟨unbroken, octets, ends⟩
    exact ⟨designates, Utf8.size_ofString_pos_iff.mpr filled, short, stands.lt_size, octets,
      octets.symm ▸ unbroken, ends⟩

variable {span : Span} (opened : ofSpan span = .ok container)
include opened

theorem versionReference_of_ofSpan :
    container.header.versionReference =
      .ok (.ofWord container.header.versionWord container.mode) := by
  rw [ContainerHeader.versionReference, mode_of_ofSpan opened]
  rfl

/-- A container has the text as its version exactly if it records it. -/
theorem version_eq_iff_recordsTag :
    container.version = text ∧ text ≠ "" <-> exists place size,
      RecordsTag container text place size := by
  simp only [recordsTag_iff]
  have recorded := versionReference_of_ofSpan opened
  have shown : forall given : Option String,
      given.getD "" = text ∧ text ≠ "" <-> given = some text ∧ text ≠ "" := by
    intro given
    cases given with
    | none =>
        constructor
        · rintro ⟨same, filled⟩
          exact absurd same.symm filled
        · rintro ⟨impossible, _⟩
          cases impossible
    | some other => simp
  cases placed : (Reference.ofWord container.header.versionWord container.mode).offsetFrom
      container.base with
  | error flaw =>
      have nowhere : forall place,
          ¬ Designates container.mode container.base container.header.versionWord place := by
        intro place designates
        rcases designates.exists_offset with ⟨offset, found, _⟩
        rw [placed] at found
        cases found
      have silent : container.version = "" := by
        have base : container.base = container.span.base := rfl
        rw [base] at placed
        unfold version
        simp only [recorded, base, placed, Span.resolve, Outcome.error_bind]
      constructor
      · rintro ⟨same, filled⟩
        exact absurd (same.symm.trans silent) filled
      · rintro ⟨place, size, designates, _⟩
        exact absurd designates (nowhere place)
  | ok offset =>
      have here := Reference.offsetFrom_eq_ok_iff.mp placed
      rw [version_of_reference recorded placed (capacity_lt_of_ofSpan opened), shown,
        leadingText?_eq_some_iff, textStands_slice]
      constructor
      · rintro ⟨⟨stands, short⟩, filled⟩
        exact ⟨offset.toNat, _, here, stands, filled, rfl, short⟩
      · rintro ⟨place, size, designates, stands, filled, rfl, short⟩
        rcases designates.exists_offset with ⟨again, found, rfl⟩
        rw [placed] at found
        cases found
        exact ⟨⟨stands, short⟩, filled⟩

/-- A version is the first text that a caller reads from the address of the version area on. -/
theorem exists_recordsTag_of_version (filled : container.version ≠ "") :
    exists address place size, container.versionAddress = .ok address ∧
      (address - container.base).toNat = place ∧
      RecordsTag container container.version place size := by
  rcases (version_eq_iff_recordsTag opened).mp ⟨rfl, filled⟩ with ⟨place, size, records⟩
  rcases records.designates.exists_offset with ⟨offset, found, rfl⟩
  refine ⟨container.base + offset, offset.toNat, size, ?_, ?_, records⟩
  · rw [versionAddress, versionReference_of_ofSpan opened]
    exact congrArg Except.ok (Reference.address_of_offsetFrom found)
  · rw [UInt64.add_comm, UInt64.add_sub_cancel]

end Container

namespace Foreign

/-- A text that is given for the version of a container ends inside the container, if it starts
there, and is the version. -/
inductive GivesVersion (container : Container) : TagText -> Prop where
  | within (address : UInt64) (size : Nat)
      (records : RecordsTag container container.version (address - container.base).toNat size) :
      GivesVersion container (.within address)
  | empty (silent : container.version = "") : GivesVersion container .empty

variable {container : Container}

theorem textAt_of_textStands {address : UInt64} {text : String}
    (stands : TextStands container.span.bytes (address - container.base).toNat text) :
    textAt container address = Utf8.ofString text := by
  rcases stands with ⟨unbroken, rest, parts⟩
  have whole : (container.span.octetsFrom (address - container.base).toNat).length <=
      container.capacity - (address - container.base).toNat :=
    Nat.le_of_eq (container.span.length_octetsFrom _)
  have kept : forall octet, octet ∈ (Utf8.ofString text).toList ->
      decide (octet ≠ columnTerminator) = true := by
    intro octet member
    exact decide_eq_true fun terminates => unbroken (terminates ▸ member)
  rw [textAt, untilNul, <- Array.toList_inj, Span.takeWhile_extract,
    List.take_of_length_le whole, Span.octetsFrom, <- parts, List.append_assoc,
    List.takeWhile_append_of_pos kept]
  simp

theorem givesVersion_tagText {span : Span} (opened : Container.ofSpan span = .ok container) :
    GivesVersion container (tagText container) ∧
      (tagText container).read? container = some container.version := by
  by_cases silent : container.version = ""
  · have given : tagText container = .empty := by
      unfold tagText
      cases container.versionAddress with
      | error flaw => rfl
      | ok address => exact if_pos silent
    rw [given, silent]
    exact ⟨.empty silent, rfl⟩
  · rcases Container.exists_recordsTag_of_version opened silent with
      ⟨address, _, size, found, rfl, records⟩
    have given : tagText container = .within address := by
      unfold tagText
      rw [found]
      exact if_neg silent
    rw [given]
    refine ⟨.within address size records, ?_⟩
    rw [TagText.read?, textAt_of_textStands (Container.recordsTag_iff.mp records).2.1]
    exact Utf8.decode?_ofString _

/-- The version of a container is the text that it records, in either mode and at any address,
and empty if it records none.  A caller who has a pointer to a mapped container is always given a
text for it, which ends inside the container or is the empty text of the library. -/
theorem version_is_recorded_tag :
    (forall base bytes container, Container.ofSpan ⟨base, bytes⟩ = .ok container ->
      (forall text, container.version = text ∧ text ≠ "" <-> exists place size,
        RecordsTag container text place size) ∧
      (container.version = "" <-> forall text place size,
        ¬ RecordsTag container text place size)) ∧
    forall id before pointer obtained requests, Obtains id before pointer obtained ->
      Undisturbed pointer obtained requests -> exists mapping container given,
        mapping.base = pointer ∧ obtained.host.mapped mapping = .ok container ∧
          tagTextAt? (afterAll obtained requests).memory pointer = some given ∧
          GivesVersion container given ∧
          version? (afterAll obtained requests).memory pointer = some container.version := by
  constructor
  · intro base bytes container opened
    have recorded : forall text, container.version = text ∧ text ≠ "" <-> exists place size,
        RecordsTag container text place size :=
      fun _ => Container.version_eq_iff_recordsTag opened
    refine ⟨recorded, ?_⟩
    constructor
    · intro silent text place size records
      rcases (recorded text).mpr ⟨place, size, records⟩ with ⟨same, filled⟩
      exact filled (same.symm.trans silent)
    · intro unrecorded
      by_contra filled
      rcases (recorded container.version).mp ⟨rfl, filled⟩ with ⟨place, size, records⟩
      exact unrecorded _ place size records
  · intro id before pointer obtained requests obtains undisturbed
    rcases obtains.exists_container with ⟨mapping, container, base, _, shown, found⟩
    rcases Container.ofRelocated_eq_ok_iff.mp shown with ⟨opened, _⟩
    have here := found requests undisturbed
    rcases givesVersion_tagText opened with ⟨gives, read⟩
    refine ⟨mapping, container, tagText container, base, shown, ?_, gives, ?_⟩
    · rw [tagTextAt?, here]
      rfl
    · rw [version?, here]
      exact read

/-- A container without rows, with the tag `v1` and its NUL at the end. -/
def taggedHeader (mode : AddressMode) (word : UInt64) : ContainerHeader where
  magic := containerMagic
  layoutVersion := MappedTables.layoutVersion
  modeFlag := mode.flag
  reserved := 0
  head := { arrayWord := 0, length := 0, capacity := 0, modeFlag := mode.flag, reserved := 0 }
  data := { arrayWord := 0, length := 0, capacity := 0, modeFlag := mode.flag, reserved := 0 }
  capacity := 83
  versionWord := word

def taggedBytes (mode : AddressMode) (word : UInt64) : Bytes :=
  (StoredHeader.encode (taggedHeader mode word) ++ [118, 49, 0]).toArray

theorem version_is_recorded_tag_tagged :
    (exists container,
      Container.ofSpan ⟨4096, taggedBytes .live 4176⟩ = .ok container ∧
        container.version = "v1" ∧ exists place size, RecordsTag container "v1" place size) ∧
    exists obtained container given,
      mapDescriptor 3 (libraryHolding (taggedBytes .relocatable 80)) = (letterPointer, obtained) ∧
        tagTextAt? obtained.memory letterPointer = some given ∧ GivesVersion container given ∧
        version? obtained.memory letterPointer = some container.version := by
  constructor
  · let container : Container :=
      ⟨⟨4096, taggedBytes .live 4176⟩, taggedHeader .live 4176, .live⟩
    have opened : Container.ofSpan ⟨4096, taggedBytes .live 4176⟩ = .ok container := by
      decide +kernel
    have version : container.version = "v1" := by decide +kernel
    exact ⟨container, opened, version,
      ((version_is_recorded_tag.1 _ _ container opened).1 "v1").mp ⟨version, by decide⟩⟩
  · have mapped : exists obtained,
        mapDescriptor 3 (libraryHolding (taggedBytes .relocatable 80)) =
          (letterPointer, obtained) :=
      ⟨_, Prod.fst_eq_iff.mp (by decide +kernel)⟩
    rcases mapped with ⟨obtained, mapped⟩
    have obtains : Obtains 0 (libraryHolding (taggedBytes .relocatable 80)) letterPointer obtained :=
      .mapped 3 letterPointer obtained (by decide +kernel) mapped (by decide)
    rcases version_is_recorded_tag.2 _ _ _ _ [] obtains trivial with
      ⟨mapping, container, given, _, _, found, gives, read⟩
    exact ⟨obtained, container, given, mapped, found, gives, read⟩

/-- A tag whose NUL would stand behind the end of the container counts as none. -/
example :
    let header := { taggedHeader .live 4176 with capacity := 82 }
    let container : Container :=
      ⟨⟨4096, (StoredHeader.encode header ++ [118, 49]).toArray⟩, header, .live⟩
    Container.ofSpan container.span = .ok container ∧ container.version = "" := by
  decide +kernel

end Foreign
end MappedTables
