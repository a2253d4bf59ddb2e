import MappedTables.Proofs.Octets

namespace MappedTables

/-!
Headers in memory.

Each of the three kinds of header has a stored form of fixed length from which
it is read back field by field.  A header is therefore found again wherever it
was put, provided that the place is aligned; this is the only way in which the
address of a piece of memory matters for it.
-/

/-- Headers whose stored form has the recorded size and is read back exactly. -/
class LawfulStoredHeader (Header : Type) [StoredHeader Header] : Prop where
  length_encode : forall header : Header,
    (StoredHeader.encode header).length = StoredHeader.size Header
  decode_encode : forall header : Header,
    StoredHeader.decode (StoredHeader.encode header).toArray = header

export LawfulStoredHeader (length_encode decode_encode)

attribute [simp] LawfulStoredHeader.length_encode LawfulStoredHeader.decode_encode

namespace Span

theorem checkHeader_eq_ok_iff (span : Span) (Header : Type) [StoredHeader Header]
    (offset : Nat) :
    span.checkHeader Header offset = .ok () <->
      offset + StoredHeader.size Header < addressLimit ∧
        offset + StoredHeader.size Header <= span.size ∧
        (span.base.toNat + offset) % headerAlignment = 0 := by
  unfold checkHeader
  cases range : span.checkRange offset (StoredHeader.size Header) with
  | error fault =>
      constructor
      · intro impossible
        cases impossible
      · rintro ⟨room, inside, _⟩
        rw [(checkRange_eq_ok_iff _ _ _).mpr ⟨room, inside⟩] at range
        cases range
  | ok _ =>
      rcases (checkRange_eq_ok_iff _ _ _).mp range with ⟨room, inside⟩
      by_cases aligned : (span.base.toNat + offset) % headerAlignment = 0
      · simp [aligned, room, inside, bind, Except.bind, pure, Except.pure]
      · simp [aligned, bind, Except.bind, throw, throwThe, MonadExceptOf.throw]

/-- The header that is one of the parts of memory is read back. -/
theorem headerAt_append {Header : Type} [StoredHeader Header] [LawfulStoredHeader Header]
    (base : UInt64) (front back : List UInt8) (header : Header)
    (room : front.length + StoredHeader.size Header < addressLimit)
    (aligned : (base.toNat + front.length) % headerAlignment = 0) :
    headerAt ⟨base, (front ++ StoredHeader.encode header ++ back).toArray⟩ Header
      front.length = .ok header := by
  have inside : checkHeader ⟨base, (front ++ StoredHeader.encode header ++ back).toArray⟩
      Header front.length = .ok () := by
    apply (checkHeader_eq_ok_iff _ _ _).mpr
    refine ⟨room, ?_, aligned⟩
    simp only [size, List.size_toArray, List.length_append, length_encode]
    omega
  have part := Bytes.slice_append front (StoredHeader.encode header) back
  rw [length_encode] at part
  rw [headerAt, inside]
  exact congrArg Except.ok (part ▸ decode_encode header)

/-- A header is stored in place of a part that has the size of a header. -/
theorem checkHeader_append {Header : Type} [StoredHeader Header]
    (base : UInt64) (front hidden back : List UInt8)
    (fits : hidden.length = StoredHeader.size Header)
    (room : front.length + StoredHeader.size Header < addressLimit)
    (aligned : (base.toNat + front.length) % headerAlignment = 0) :
    checkHeader ⟨base, (front ++ hidden ++ back).toArray⟩ Header front.length = .ok () := by
  apply (checkHeader_eq_ok_iff _ _ _).mpr
  refine ⟨room, ?_, aligned⟩
  simp only [size, List.size_toArray, List.length_append, fits]
  omega

theorem putHeader_append {Header : Type} [StoredHeader Header] [LawfulStoredHeader Header]
    (base : UInt64) (front hidden back : List UInt8) (header : Header)
    (fits : hidden.length = StoredHeader.size Header)
    (room : front.length + StoredHeader.size Header < addressLimit)
    (aligned : (base.toNat + front.length) % headerAlignment = 0) :
    putHeader ⟨base, (front ++ hidden ++ back).toArray⟩ front.length header =
      .ok ⟨base, (front ++ StoredHeader.encode header ++ back).toArray⟩ := by
  rw [putHeader, checkHeader_append base front hidden back fits room aligned]
  have replaced := Bytes.overlay_append front hidden back (StoredHeader.encode header)
    ((length_encode header).trans fits.symm)
  exact congrArg (fun bytes => Except.ok (Span.mk base bytes)) replaced

/-- The header at the front of memory is read back. -/
theorem headerAt_front {Header : Type} [StoredHeader Header] [LawfulStoredHeader Header]
    (base : UInt64) (back : List UInt8) (header : Header)
    (room : StoredHeader.size Header < addressLimit)
    (aligned : base.toNat % headerAlignment = 0) :
    headerAt ⟨base, (StoredHeader.encode header ++ back).toArray⟩ Header 0 = .ok header :=
  headerAt_append base [] back header (by rwa [List.length_nil, Nat.zero_add]) aligned

/-- A header is stored at the front of memory. -/
theorem putHeader_front {Header : Type} [StoredHeader Header] [LawfulStoredHeader Header]
    (base : UInt64) (hidden back : List UInt8) (header : Header)
    (fits : hidden.length = StoredHeader.size Header)
    (room : StoredHeader.size Header < addressLimit)
    (aligned : base.toNat % headerAlignment = 0) :
    putHeader ⟨base, (hidden ++ back).toArray⟩ 0 header =
      .ok ⟨base, (StoredHeader.encode header ++ back).toArray⟩ :=
  putHeader_append base [] hidden back header fits (by rwa [List.length_nil, Nat.zero_add])
    aligned

end Span

namespace RowHeader

/-- The numbers of a row header in the order of its stored form. -/
def fields (header : RowHeader) : List (Nat × Nat) :=
  [(8, header.textWord.toNat), (8, header.startsWord.toNat), (2, header.length.toNat),
    (2, header.columns.toNat), (1, header.modeFlag.toNat), (3, header.reserved.toNat)]

theorem encode_eq_encodeFields (header : RowHeader) :
    StoredHeader.encode header = LittleEndian.encodeFields header.fields := by
  simp [StoredHeader.encode, LittleEndian.encodeFields, fields]

theorem decode_def (stored : Bytes) :
    (StoredHeader.decode stored : RowHeader) =
      { textWord := UInt64.ofNat (stored.field 0 8)
        startsWord := UInt64.ofNat (stored.field 8 8)
        length := UInt16.ofNat (stored.field 16 2)
        columns := UInt16.ofNat (stored.field 18 2)
        modeFlag := UInt8.ofNat (stored.field 20 1)
        reserved := BitVec.ofNat 24 (stored.field 21 3) } := rfl

theorem fields_fit (header : RowHeader) :
    forall field, field ∈ header.fields -> field.2 < 256 ^ field.1 := by
  simp only [fields, List.forall_mem_cons]
  exact ⟨header.textWord.toNat_lt, header.startsWord.toNat_lt, header.length.toNat_lt,
    header.columns.toNat_lt, header.modeFlag.toNat_lt, header.reserved.isLt, nofun⟩

instance : LawfulStoredHeader RowHeader where
  length_encode header := by
    simp [StoredHeader.encode, StoredHeader.size]
  decode_encode header := by
    have holds := LittleEndian.holdsFrom_encodeFields [] [] header.fields header.fields_fit
    rw [List.nil_append, List.append_nil, <- encode_eq_encodeFields] at holds
    simp only [fields, LittleEndian.HoldsFrom, List.length_nil, Nat.reduceAdd] at holds
    rcases holds with ⟨textWord, startsWord, length, columns, modeFlag, reserved, -⟩
    simp only [decode_def, textWord, startsWord, length, columns, modeFlag, reserved,
      UInt64.ofNat_toNat, UInt16.ofNat_toNat, UInt8.ofNat_toNat, BitVec.ofNat_toNat,
      BitVec.setWidth_eq]

end RowHeader

namespace TableHeader

/-- The numbers of a table header in the order of its stored form. -/
def fields (header : TableHeader) : List (Nat × Nat) :=
  [(8, header.arrayWord.toNat), (4, header.length.toNat), (4, header.capacity.toNat),
    (1, header.modeFlag.toNat), (7, header.reserved.toNat)]

theorem encode_eq_encodeFields (header : TableHeader) :
    StoredHeader.encode header = LittleEndian.encodeFields header.fields := by
  simp [StoredHeader.encode, LittleEndian.encodeFields, fields]

theorem decode_def (stored : Bytes) :
    (StoredHeader.decode stored : TableHeader) =
      { arrayWord := UInt64.ofNat (stored.field 0 8)
        length := UInt32.ofNat (stored.field 8 4)
        capacity := UInt32.ofNat (stored.field 12 4)
        modeFlag := UInt8.ofNat (stored.field 16 1)
        reserved := BitVec.ofNat 56 (stored.field 17 7) } := rfl

theorem fields_fit (header : TableHeader) :
    forall field, field ∈ header.fields -> field.2 < 256 ^ field.1 := by
  simp only [fields, List.forall_mem_cons]
  exact ⟨header.arrayWord.toNat_lt, header.length.toNat_lt, header.capacity.toNat_lt,
    header.modeFlag.toNat_lt, header.reserved.isLt, nofun⟩

instance : LawfulStoredHeader TableHeader where
  length_encode header := by
    simp [StoredHeader.encode, StoredHeader.size]
  decode_encode header := by
    have holds := LittleEndian.holdsFrom_encodeFields [] [] header.fields header.fields_fit
    rw [List.nil_append, List.append_nil, <- encode_eq_encodeFields] at holds
    simp only [fields, LittleEndian.HoldsFrom, List.length_nil, Nat.reduceAdd] at holds
    rcases holds with ⟨arrayWord, length, capacity, modeFlag, reserved, -⟩
    simp only [decode_def, arrayWord, length, capacity, modeFlag, reserved,
      UInt64.ofNat_toNat, UInt32.ofNat_toNat, UInt8.ofNat_toNat, BitVec.ofNat_toNat,
      BitVec.setWidth_eq]

end TableHeader

namespace ContainerHeader

/-- The numbers of a container header in front of its tables. -/
def leadingFields (header : ContainerHeader) : List (Nat × Nat) :=
  [(8, header.magic.toNat), (4, header.layoutVersion.toNat), (1, header.modeFlag.toNat),
    (3, header.reserved.toNat)]

/-- The numbers of a container header behind its tables. -/
def trailingFields (header : ContainerHeader) : List (Nat × Nat) :=
  [(8, header.capacity.toNat), (8, header.versionWord.toNat)]

theorem decode_def (stored : Bytes) :
    (StoredHeader.decode stored : ContainerHeader) =
      { magic := UInt64.ofNat (stored.field 0 8)
        layoutVersion := UInt32.ofNat (stored.field 8 4)
        modeFlag := UInt8.ofNat (stored.field 12 1)
        reserved := BitVec.ofNat 24 (stored.field 13 3)
        head := StoredHeader.decode (stored.slice 16 24)
        data := StoredHeader.decode (stored.slice 40 24)
        capacity := UInt64.ofNat (stored.field 64 8)
        versionWord := UInt64.ofNat (stored.field 72 8) } := rfl

theorem leadingFields_fit (header : ContainerHeader) :
    forall field, field ∈ header.leadingFields -> field.2 < 256 ^ field.1 := by
  simp only [leadingFields, List.forall_mem_cons]
  exact ⟨header.magic.toNat_lt, header.layoutVersion.toNat_lt, header.modeFlag.toNat_lt,
    header.reserved.isLt, nofun⟩

theorem trailingFields_fit (header : ContainerHeader) :
    forall field, field ∈ header.trailingFields -> field.2 < 256 ^ field.1 := by
  simp only [trailingFields, List.forall_mem_cons]
  exact ⟨header.capacity.toNat_lt, header.versionWord.toNat_lt, nofun⟩

theorem encode_eq_parts (header : ContainerHeader) :
    StoredHeader.encode header = LittleEndian.encodeFields header.leadingFields
      ++ StoredHeader.encode header.head ++ StoredHeader.encode header.data
      ++ LittleEndian.encodeFields header.trailingFields := by
  simp [StoredHeader.encode, LittleEndian.encodeFields, leadingFields, trailingFields]

/-- The four parts of a stored container header are read back separately. -/
theorem parts_of_encode (header : ContainerHeader) :
    let stored : Bytes := (StoredHeader.encode header).toArray
    LittleEndian.HoldsFrom stored 0 header.leadingFields ∧
      stored.slice 16 24 = (StoredHeader.encode header.head).toArray ∧
      stored.slice 40 24 = (StoredHeader.encode header.data).toArray ∧
      LittleEndian.HoldsFrom stored 64 header.trailingFields := by
  let leading := LittleEndian.encodeFields header.leadingFields
  let head := StoredHeader.encode header.head
  let data := StoredHeader.encode header.data
  let trailing := LittleEndian.encodeFields header.trailingFields
  have leadingSize : leading.length = 16 := by
    simp [leading, LittleEndian.encodeFields, leadingFields]
  have headSize : head.length = 24 := length_encode _
  have dataSize : data.length = 24 := length_encode _
  have parts : StoredHeader.encode header = leading ++ head ++ data ++ trailing :=
    encode_eq_parts header
  refine ⟨?_, ?_, ?_, ?_⟩
  · have holds := LittleEndian.holdsFrom_encodeFields [] (head ++ data ++ trailing)
      header.leadingFields header.leadingFields_fit
    simpa [parts, leading] using holds
  · have part := Bytes.slice_append leading head (data ++ trailing)
    rw [leadingSize, headSize, <- List.append_assoc, <- parts] at part
    exact part
  · have part := Bytes.slice_append (leading ++ head) data trailing
    rw [List.length_append, leadingSize, headSize, dataSize, <- parts] at part
    exact part
  · have holds := LittleEndian.holdsFrom_encodeFields (leading ++ head ++ data) []
      header.trailingFields header.trailingFields_fit
    simpa [parts, leadingSize, headSize, dataSize] using holds

instance : LawfulStoredHeader ContainerHeader where
  length_encode header := by
    simp [StoredHeader.encode, StoredHeader.size]
  decode_encode header := by
    rcases header.parts_of_encode with ⟨leading, head, data, trailing⟩
    simp only [leadingFields, LittleEndian.HoldsFrom, Nat.reduceAdd] at leading
    simp only [trailingFields, LittleEndian.HoldsFrom, Nat.reduceAdd] at trailing
    rcases leading with ⟨magic, layoutVersion, modeFlag, reserved, -⟩
    rcases trailing with ⟨capacity, versionWord, -⟩
    simp only [decode_def, magic, layoutVersion, modeFlag, reserved, head, data, capacity,
      versionWord, decode_encode, UInt64.ofNat_toNat, UInt32.ofNat_toNat, UInt8.ofNat_toNat,
      BitVec.ofNat_toNat, BitVec.setWidth_eq]

end ContainerHeader
end MappedTables
