import MappedTables.Image.Relocate
import MappedTables.Proofs.Image.Reading
import MappedTables.Proofs.Reader.Validated

namespace MappedTables

/-!
Looking up what was stored.

A container presents a history if its lookups answer from the rows of that
history and from nothing else: every cell is found, with its octets and with an
address at which the same octets stand in front of a terminator, and every line
or column that there is not is out of bounds.  The live image, the relocated one
and the image loaded from the relocated octets all present the history of the
draft they were built from.
-/

namespace DraftHistory

/-- The columns in a line counted from one. -/
def row? (history : DraftHistory) (kind : TableKind) (line : Nat) : Option (List Bytes) :=
  if line = 0 then none else (history.rows kind)[line - 1]?

/-- The octets in a column of a line, both counted from one. -/
def cell? (history : DraftHistory) (kind : TableKind) (line column : Nat) : Option Bytes :=
  (history.row? kind line).bind fun columns =>
    if column = 0 then none else columns[column - 1]?

/-- The report that there is no such line, or no such column in it. -/
def refusal (history : DraftHistory) (kind : TableKind) (line column : Nat) : Error :=
  match history.row? kind line with
  | none => .outOfBounds .line line (history.rows kind).length
  | some columns => .outOfBounds .column column columns.length

end DraftHistory

namespace Container

/-- The octets stand at a position of the container, in front of a terminator. -/
structure StandsAt (container : Container) (position : Nat) (octets : Bytes) : Prop where
  inside : position + octets.size < container.span.size
  octets_eq : container.span.bytes.slice position octets.size = octets
  terminated : container.span.bytes[position + octets.size]? = some columnTerminator

/-- The lookups of a container answer from the rows of a history. -/
structure Presents (container : Container) (history : DraftHistory) : Prop where
  valid : container.validate = .ok ()
  version_eq : container.version = history.draft.version
  length_eq : forall kind, container.length kind = (history.rows kind).length
  found : forall (kind : TableKind) (line : UInt32) (column : UInt16) (octets : Bytes),
    history.cell? kind line.toNat column.toNat = some octets ->
      exists position, container.StandsAt position octets ∧
        container.columnAt kind line column =
          .ok { address := addressAt container.base (UInt64.ofNat position), octets } ∧
        container.columnAddressAt kind line column =
          .ok (addressAt container.base (UInt64.ofNat position))
  missed : forall (kind : TableKind) (line : UInt32) (column : UInt16),
    history.cell? kind line.toNat column.toNat = none ->
      let refused := Fault.error (history.refusal kind line.toNat column.toNat)
      container.columnAt kind line column = .error refused ∧
        container.columnAddressAt kind line column = .error refused

end Container

/-- A list is divided at each of its positions. -/
theorem exists_split_of_getElem? {Value : Type} {values : List Value} {index : Nat}
    {value : Value} (present : values[index]? = some value) :
    exists before after, values = before ++ value :: after ∧ before.length = index :=
  ⟨_, _, take_append_cons_drop present,
    List.length_take_of_le (Nat.le_of_lt (List.getElem?_eq_some_iff.mp present).1)⟩

namespace DraftHistory

variable {history : DraftHistory} {addressing : Addressing} {base : UInt64}

/-- A row of the history is read, and it holds its columns. -/
theorem Kept.rowAt_eq (kept : history.Kept) (legible : history.draft.Legible addressing base)
    (kind : TableKind) (index : Nat) (columns : List Bytes)
    (present : (history.rows kind)[index]? = some columns) :
    exists (row : Row) (startsPlace : Nat),
      (history.draft.tableView addressing base kind).rowAt index = .ok row ∧
      row.span = (history.draft.view addressing base).span ∧
      row.Holds columns startsPlace := by
  have table := kept.table kind
  have found : (history.draft.table kind).rows.toList[index]? =
      some (DraftRow.holding columns) := by
    rw [table.rows_eq, List.getElem?_map, present]
    rfl
  have admissible := table.admissible columns (List.mem_of_getElem? present)
  exact ⟨_, _, legible.rowAt_eq kept.bounded kind found, rfl,
    legible.row_holds kept.bounded kind admissible found⟩

theorem Kept.length_eq (kept : history.Kept) (kind : TableKind) :
    (history.draft.view addressing base).length kind = (history.rows kind).length := by
  rw [<- (kept.table kind).size_eq]
  cases kind with
  | head => exact kept.bounded.toNat_length addressing .head
  | data => exact kept.bounded.toNat_length addressing .data

/-- A line of the history is looked up in the row that holds its columns. -/
theorem Kept.lookup_eq (kept : history.Kept) (legible : history.draft.Legible addressing base)
    (kind : TableKind) (line : UInt32) (columns : List Bytes)
    (present : history.row? kind line.toNat = some columns) :
    exists (row : Row) (startsPlace : Nat),
      row.span = (history.draft.view addressing base).span ∧
      row.Holds columns startsPlace ∧
      forall column, (history.draft.view addressing base).columnAt kind line column =
          row.column column ∧
        (history.draft.view addressing base).columnAddressAt kind line column =
          row.columnAddress column := by
  have nonzero : line.toNat ≠ 0 := by
    intro zero
    rw [row?, if_pos zero] at present
    cases present
  rw [row?, if_neg nonzero] at present
  have inside := (List.getElem?_eq_some_iff.mp present).1
  rcases kept.rowAt_eq legible kind _ columns present with ⟨row, startsPlace, read, span, holds⟩
  have accepted : ¬ (line = 0 ∨ (history.rows kind).length < line.toNat) := by
    rintro (zero | beyond)
    · exact nonzero (congrArg UInt32.toNat zero)
    · omega
  have index : Container.lineIndex line ((history.draft.view addressing base).length kind) =
      .ok (line.toNat - 1) := by
    rw [kept.length_eq, Container.lineIndex, if_neg accepted]
  refine ⟨row, startsPlace, span, holds, fun column => ⟨?_, ?_⟩⟩
  · rw [Container.columnAt, index, Draft.table_eq]
    simp only [Outcome.lift_ok, Outcome.ok_bind, Table.columnAt, read]
  · rw [Container.columnAddressAt, index, Draft.table_eq]
    simp only [Outcome.lift_ok, Outcome.ok_bind, Table.columnAddressAt, read]

/-- A cell of the history is found where it stands. -/
theorem Kept.found (kept : history.Kept) (legible : history.draft.Legible addressing base)
    (kind : TableKind) (line : UInt32) (column : UInt16) (octets : Bytes)
    (present : history.cell? kind line.toNat column.toNat = some octets) :
    exists position, (history.draft.view addressing base).StandsAt position octets ∧
      (history.draft.view addressing base).columnAt kind line column =
        .ok { address := addressAt base (UInt64.ofNat position), octets } ∧
      (history.draft.view addressing base).columnAddressAt kind line column =
        .ok (addressAt base (UInt64.ofNat position)) := by
  rcases Option.bind_eq_some_iff.mp present with ⟨columns, line_eq, column_eq⟩
  have nonzero : column.toNat ≠ 0 := by
    intro zero
    rw [if_pos zero] at column_eq
    cases column_eq
  rw [if_neg nonzero] at column_eq
  rcases exists_split_of_getElem? column_eq with ⟨before, after, split, place⟩
  rcases kept.lookup_eq legible kind line columns line_eq with
    ⟨row, startsPlace, span, holds, lookup⟩
  rcases holds.column_stands before after octets split with ⟨front, back, position, stands⟩
  rcases holds.column_eq column before after octets split (by omega) with ⟨text, address⟩
  have rowBase : row.span.base = base := by rw [span]; rfl
  rw [span] at stands
  refine ⟨front.length, ⟨?_, ?_, ?_⟩, ?_, ?_⟩
  · rw [Span.size, stands]
    simp only [List.size_toArray, List.length_append, List.length_cons, Array.length_toList]
    omega
  · rw [stands, <- Array.length_toList, Bytes.slice_append]
  · rw [stands]
    simp
  · rw [(lookup column).1, text, rowBase, position]
  · rw [(lookup column).2, address, rowBase, position]

/-- A line or column that there is not is refused. -/
theorem Kept.missed (kept : history.Kept) (legible : history.draft.Legible addressing base)
    (kind : TableKind) (line : UInt32) (column : UInt16)
    (absent : history.cell? kind line.toNat column.toNat = none) :
    let refused := Fault.error (history.refusal kind line.toNat column.toNat)
    (history.draft.view addressing base).columnAt kind line column = .error refused ∧
      (history.draft.view addressing base).columnAddressAt kind line column =
        .error refused := by
  intro refused
  cases present : history.row? kind line.toNat with
  | none =>
      have rejected : line = 0 ∨ (history.rows kind).length < line.toNat := by
        by_cases zero : line.toNat = 0
        · exact Or.inl (UInt32.toNat_inj.mp zero)
        · rw [row?, if_neg zero, List.getElem?_eq_none_iff] at present
          right
          omega
      have index : Container.lineIndex line
          ((history.draft.view addressing base).length kind) =
            .error (history.refusal kind line.toNat column.toNat) := by
        rw [kept.length_eq, Container.lineIndex, if_pos rejected, refusal, present]
      constructor
      · rw [Container.columnAt, index]
        rfl
      · rw [Container.columnAddressAt, index]
        rfl
  | some columns =>
      rw [cell?, present, Option.bind_some] at absent
      have missing : column = 0 ∨ columns.length < column.toNat := by
        by_cases zero : column.toNat = 0
        · exact Or.inl (UInt16.toNat_inj.mp zero)
        · rw [if_neg zero, List.getElem?_eq_none_iff] at absent
          right
          omega
      rcases kept.lookup_eq legible kind line columns present with
        ⟨row, startsPlace, _, holds, lookup⟩
      rcases holds.column_missing column missing with ⟨text, address⟩
      have report : history.refusal kind line.toNat column.toNat =
          .outOfBounds .column column.toNat columns.length := by
        rw [refusal, present]
      rw [(lookup column).1, (lookup column).2, text, address]
      exact ⟨by rw [<- report], by rw [<- report]⟩

theorem Kept.valid (kept : history.Kept) (legible : history.draft.Legible addressing base) :
    (history.draft.view addressing base).validate = .ok () := by
  apply (Container.validate_eq_ok_iff _).mpr
  intro kind
  refine ⟨_, Draft.table_eq history.draft addressing base kind, ?_⟩
  apply (Table.validate_eq_ok_iff _).mpr
  intro index inside
  have size : (history.draft.tableView addressing base kind).length =
      (history.rows kind).length := by
    rw [<- (kept.table kind).size_eq]
    exact kept.bounded.toNat_length addressing kind
  rw [size] at inside
  rcases kept.rowAt_eq legible kind index _ (List.getElem?_eq_getElem inside) with
    ⟨row, _, read, _, holds⟩
  exact ⟨row, read, holds.validate_eq⟩

theorem Kept.visible (kept : history.Kept) :
    history.draft.version.toList.all isVisible = true := by
  rcases kept.version with none | tag
  · simp [none]
  · simp only [isVersionTag, Bool.and_eq_true] at tag
    exact tag.2

/-- The first terminator of the version area stands behind the tag. -/
theorem Kept.findIdx?_versionField (kept : history.Kept) :
    history.draft.versionField.toArray.findIdx? (· = columnTerminator) =
      some (Utf8.ofString history.draft.version).size := by
  have clean := Utf8.zero_notMem_ofString_of_visible kept.visible
  have fits := kept.bounded.version_lt
  have nowhere : (Utf8.ofString history.draft.version).toList.findIdx?
      (· = columnTerminator) = none := by
    rw [List.findIdx?_eq_none_iff]
    intro octet member
    rw [decide_eq_false_iff_not]
    intro same
    rw [same] at member
    exact clean (Array.mem_toList_iff.mp member)
  have room : exists padding,
      versionAreaSize - (Utf8.ofString history.draft.version).size = padding + 1 :=
    ⟨_, (Nat.sub_add_cancel (Nat.sub_pos_of_lt fits)).symm⟩
  rcases room with ⟨padding, room⟩
  rw [List.findIdx?_toArray, Draft.versionField, List.findIdx?_append, nowhere, room]
  simp [List.replicate_succ, List.findIdx?_cons, columnTerminator]

/-- The version area of an encoding is read through the reference to it. -/
theorem Kept.resolve_version (kept : history.Kept)
    (legible : history.draft.Legible addressing base) :
    (history.draft.view addressing base).span.resolve
        (Reference.ofWord (addressing.word history.draft.versionArea) addressing.mode)
        versionAreaSize =
      .ok history.draft.versionField.toArray := by
  have size := kept.bounded.view_size addressing base
  have limit := kept.bounded.extent_lt
  rcases kept.bounded.version_stands addressing with ⟨front, back, place, parts⟩
  have stands : (history.draft.view addressing base).span.bytes =
      (front ++ history.draft.versionField ++ back).toArray := congrArg List.toArray parts
  have offset : (Reference.ofWord (addressing.word history.draft.versionArea)
      addressing.mode).offsetFrom base = .ok (UInt64.ofNat front.length) := by
    rw [place]
    exact legible.version.offset
  have read := Span.resolve_part stands (by rw [size]; unfold addressLimit; omega) offset
  rwa [kept.bounded.length_versionField] at read

theorem Kept.version_eq (kept : history.Kept)
    (legible : history.draft.Legible addressing base) :
    (history.draft.view addressing base).version = history.draft.version := by
  let container := history.draft.view addressing base
  have size : container.capacity = history.draft.extent :=
    kept.bounded.view_size addressing base
  have limit := kept.bounded.extent_lt
  have slotsEnd := kept.bounded.slotsEnd_le .data
  have area : history.draft.versionArea =
    history.draft.dataArray + history.draft.data.capacity * 24 := rfl
  have reference : container.header.versionReference =
      .ok (Reference.ofWord (addressing.word history.draft.versionArea) addressing.mode) := by
    have mode : (history.draft.encodedHeader addressing).mode = .ok addressing.mode :=
      AddressMode.ofFlag_flag _
    rw [ContainerHeader.versionReference]
    change ((history.draft.encodedHeader addressing).mode >>= _) = _
    rw [mode]
    rfl
  have offset := legible.version.offset
  have available : min (history.draft.extent -
      (UInt64.ofNat history.draft.versionArea).toNat) versionAreaSize = versionAreaSize := by
    simp only [Draft.arrayOf, Draft.table, versionAreaSize] at slotsEnd ⊢
    rw [UInt64.toNat_ofNat', Nat.mod_eq_of_lt (by omega)]
    omega
  have stop := kept.findIdx?_versionField
  have tag : history.draft.versionField.toArray.extract 0
      (Utf8.ofString history.draft.version).size = Utf8.ofString history.draft.version := by
    simp [Draft.versionField]
  have base_eq : container.base = base := rfl
  change container.version = _
  rw [Container.version, reference]
  simp only [base_eq, offset, size, available, container, kept.resolve_version legible, stop,
    tag, Utf8.decode?_ofString, Option.getD_some]

/-- Every legible encoding of a draft presents the history of the draft. -/
theorem Kept.presents (kept : history.Kept)
    (legible : history.draft.Legible addressing base) :
    (history.draft.view addressing base).Presents history where
  valid := kept.valid legible
  version_eq := kept.version_eq legible
  length_eq _ := kept.length_eq _
  found := kept.found legible
  missed := kept.missed legible

/-- What was put into a draft is looked up again in every image made from it: the
live one, the relocated one, and one loaded elsewhere from the relocated octets. -/
theorem images_present_history (calls : List DraftCall) (base other : UInt64)
    (fits : (after calls).draft.FitsAt base)
    (otherAligned : other.toNat % headerAlignment = 0) :
    exists (live relocated reloaded : Image)
        (liveView relocatedView reloadedView : Container) (bytes : Bytes),
      (after calls).draft.build base = .ok live ∧
        live.view = .ok liveView ∧ liveView.Presents (after calls) ∧
      live.relocate = (.ok (), relocated) ∧
        relocated.view = .ok relocatedView ∧ relocatedView.Presents (after calls) ∧
      relocated.relocatedBytes = .ok bytes ∧ Image.ofBytes other bytes = .ok reloaded ∧
        reloaded.view = .ok reloadedView ∧ reloadedView.Presents (after calls) := by
  have kept := kept_after calls
  have bounded := kept.bounded
  have here := (after calls).draft.legible_distances fits.aligned
  have there := (after calls).draft.legible_distances otherAligned
  exact ⟨_, _, _, _, _, _, _,
    bounded.build_eq_ok base fits.aligned,
    bounded.ofSpan_eq (.addressesFrom base) fits.aligned, kept.presents (fits.legible bounded),
    fits.relocate_eq bounded,
    bounded.ofSpan_eq .distances fits.aligned, kept.presents here,
    (after calls).draft.relocatedBytes_eq fits.aligned, bounded.ofBytes_eq otherAligned,
    bounded.ofSpan_eq .distances otherAligned, kept.presents there⟩

theorem images_present_history_sample :
    (after sampleCalls).draft.FitsAt 4096 ∧ (8192 : UInt64).toNat % headerAlignment = 0 ∧
      exists (live relocated reloaded : Image)
          (liveView relocatedView reloadedView : Container) (bytes : Bytes),
        (after sampleCalls).draft.build 4096 = .ok live ∧
          live.view = .ok liveView ∧ liveView.Presents (after sampleCalls) ∧
        live.relocate = (.ok (), relocated) ∧
          relocated.view = .ok relocatedView ∧ relocatedView.Presents (after sampleCalls) ∧
        relocated.relocatedBytes = .ok bytes ∧ Image.ofBytes 8192 bytes = .ok reloaded ∧
          reloaded.view = .ok reloadedView ∧ reloadedView.Presents (after sampleCalls) := by
  have fits : (after sampleCalls).draft.FitsAt 4096 :=
    fitsAt_of_lt sampleCalls (by decide) (by decide) (by decide)
  have aligned : (8192 : UInt64).toNat % headerAlignment = 0 := by decide
  exact ⟨fits, aligned, images_present_history sampleCalls 4096 8192 fits aligned⟩

end DraftHistory
end MappedTables
