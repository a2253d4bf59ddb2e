import MappedTables.Draft.Text
import MappedTables.Proofs.Draft.Admission
import MappedTables.Proofs.Outcome

namespace MappedTables

/-!
What a draft holds after any sequence of calls.

A history runs a draft together with the columns of every row that was admitted
to it; a call that fails leaves both as they were.  One invariant relates the
two: each table of the draft consists of the rows that hold these columns, in
order, and has a slot for each of them.  A step keeps it, so every history does.
-/

namespace DraftTable

/-- The table consists of the rows that hold the given columns. -/
structure Holds (table : DraftTable) (rows : List (List Bytes)) : Prop where
  rows_eq : table.rows.toList = rows.map DraftRow.holding
  admissible : forall columns, columns ∈ rows -> DraftRow.Admissible columns
  size_le_capacity : table.rows.size <= table.capacity
  capacity_le : table.capacity <= tableLimit

theorem holds_empty : Holds {} [] where
  rows_eq := rfl
  admissible := nofun
  size_le_capacity := Nat.le_refl 0
  capacity_le := Nat.zero_le _

theorem Holds.size_eq {table : DraftTable} {rows : List (List Bytes)}
    (holds : table.Holds rows) : table.rows.size = rows.length := by
  rw [<- Array.length_toList, holds.rows_eq, List.length_map]

/-- A full table below the limit grows by at least one slot. -/
theorem lt_grow {capacity : Nat} (below : capacity < tableLimit) :
    capacity < grow capacity ∧ grow capacity <= tableLimit := by
  unfold grow
  by_cases empty : capacity = 0
  · rw [if_pos empty, empty]
    decide
  · rw [if_neg empty]
    exact ⟨Nat.lt_min.mpr ⟨by omega, below⟩, Nat.min_le_right _ _⟩

theorem holds_push {table grown : DraftTable} {rows : List (List Bytes)}
    {columns : List Bytes} (holds : table.Holds rows)
    (admissible : DraftRow.Admissible columns)
    (pushed : table.push (DraftRow.holding columns) = .ok grown) :
    grown.Holds (rows ++ [columns]) := by
  unfold push at pushed
  by_cases full : tableLimit <= table.rows.size
  · rw [if_pos full] at pushed
    cases pushed
  · rw [if_neg full] at pushed
    injection pushed with same
    subst same
    have fits := holds.size_le_capacity
    refine ⟨?_, ?_, ?_, ?_⟩
    · rw [Array.toList_push, holds.rows_eq, List.map_append, List.map_singleton]
    · intro other member
      rcases List.mem_append.mp member with before | last
      · exact holds.admissible other before
      · exact List.mem_singleton.mp last ▸ admissible
    · rw [Array.size_push]
      by_cases atEnd : table.capacity <= table.rows.size
      · have below : table.capacity < tableLimit := by omega
        have larger := (lt_grow below).1
        rw [if_pos atEnd]
        exact Nat.succ_le_of_lt (Nat.lt_of_le_of_lt fits larger)
      · rw [if_neg atEnd]
        exact Nat.lt_of_not_le atEnd
    · by_cases atEnd : table.capacity <= table.rows.size
      · rw [if_pos atEnd]
        exact (lt_grow (by omega)).2
      · rw [if_neg atEnd]
        exact holds.capacity_le

end DraftTable

/-! ## Histories -/

/-- The calls that make or change a draft. -/
inductive DraftCall where
  | new
  | withVersion (version : String)
  | ofText (text : List Char)
  | push (kind : TableKind) (columns : List Bytes)

/-- A draft and the columns of every row admitted to it. -/
structure DraftHistory where
  draft : Draft := {}
  headRows : List (List Bytes) := []
  dataRows : List (List Bytes) := []

namespace DraftHistory

/-- The rows admitted to one of the tables. -/
def rows (history : DraftHistory) : TableKind -> List (List Bytes)
  | .head => history.headRows
  | .data => history.dataRows

/-- The history with one more row in one of the tables. -/
def addRow (history : DraftHistory) (draft : Draft) (kind : TableKind)
    (columns : List Bytes) : DraftHistory :=
  match kind with
  | .head => { history with draft, headRows := history.headRows ++ [columns] }
  | .data => { history with draft, dataRows := history.dataRows ++ [columns] }

/-- The history after a call.  A call that fails changes nothing. -/
def step (history : DraftHistory) : DraftCall -> DraftHistory
  | .new => {}
  | .withVersion version =>
      match history.draft.withVersion version with
      | .ok draft => { history with draft }
      | .error _ => history
  | .ofText text =>
      match Draft.ofText text with
      | .ok draft =>
          let parts := SourceParts.ofLines (lines text)
          { draft
            headRows := parts.headLines.map columnsOfLine
            dataRows := parts.dataLines.map columnsOfLine }
      | .error _ => history
  | .push kind columns =>
      match history.draft.push kind columns with
      | .ok draft => history.addRow draft kind columns
      | .error _ => history

/-- The history of a sequence of calls that starts from nothing. -/
def after (calls : List DraftCall) : DraftHistory :=
  calls.foldl step {}

/-- The draft holds the recorded rows, and its version tag, if any, is one. -/
structure Kept (history : DraftHistory) : Prop where
  version : history.draft.version = "" ∨ isVersionTag history.draft.version.toList = true
  table : forall kind, (history.draft.table kind).Holds (history.rows kind)

end DraftHistory

namespace Draft

theorem push_eq_ok_iff (draft grown : Draft) (kind : TableKind) (columns : List Bytes) :
    draft.push kind columns = .ok grown <->
      exists table, DraftRow.Admissible columns ∧
        (draft.table kind).push (DraftRow.holding columns) = .ok table ∧
        grown = match kind with
          | .head => { draft with head := table }
          | .data => { draft with data := table } := by
  unfold push
  cases built : DraftRow.ofColumns columns with
  | error refusal =>
      constructor
      · intro impossible
        cases impossible
      · rintro ⟨_, admissible, _⟩
        rw [(DraftRow.ofColumns_eq_ok_iff columns _).mpr ⟨admissible, rfl⟩] at built
        cases built
  | ok row =>
      rcases (DraftRow.ofColumns_eq_ok_iff columns row).mp built with ⟨admissible, same⟩
      subst same
      cases kind with
      | head =>
          cases pushed : draft.head.push (DraftRow.holding columns) with
          | error refusal => simp [table, pushed, bind, Except.bind]
          | ok table => simp [Draft.table, pushed, bind, Except.bind, pure, Except.pure,
              admissible, eq_comm]
      | data =>
          cases pushed : draft.data.push (DraftRow.holding columns) with
          | error refusal => simp [table, pushed, bind, Except.bind]
          | ok table => simp [Draft.table, pushed, bind, Except.bind, pure, Except.pure,
              admissible, eq_comm]

/-- A push that succeeds adds the row to its table and changes nothing else. -/
theorem holds_push {draft grown : Draft} {kind : TableKind} {columns : List Bytes}
    {rows : TableKind -> List (List Bytes)}
    (holds : forall other, (draft.table other).Holds (rows other))
    (pushed : draft.push kind columns = .ok grown) :
    grown.version = draft.version ∧
      forall other, (grown.table other).Holds
        (if other = kind then rows kind ++ [columns] else rows other) := by
  rcases (push_eq_ok_iff draft grown kind columns).mp pushed with ⟨table, admissible, added, same⟩
  have larger := DraftTable.holds_push (holds kind) admissible added
  subst same
  cases kind with
  | head =>
      refine ⟨rfl, fun other => ?_⟩
      cases other with
      | head => exact larger
      | data => exact holds .data
  | data =>
      refine ⟨rfl, fun other => ?_⟩
      cases other with
      | head => exact holds .head
      | data => exact larger

/-- Lines that are pushed are held in their order. -/
theorem holds_pushLines {draft grown : Draft} {kind : TableKind}
    {sourceLines : List (List Char)} {rows : TableKind -> List (List Bytes)}
    (holds : forall other, (draft.table other).Holds (rows other))
    (pushed : draft.pushLines kind sourceLines = .ok grown) :
    grown.version = draft.version ∧
      forall other, (grown.table other).Holds
        (if other = kind then rows kind ++ sourceLines.map columnsOfLine else rows other) := by
  induction sourceLines generalizing draft rows with
  | nil =>
      injection pushed with same
      subst same
      refine ⟨rfl, fun other => ?_⟩
      by_cases here : other = kind
      · rw [if_pos here, List.map_nil, List.append_nil, <- here]
        exact holds other
      · rw [if_neg here]
        exact holds other
  | cons line rest ih =>
      rw [pushLines, List.foldlM_cons] at pushed
      cases first : draft.push kind (columnsOfLine line) with
      | error refusal =>
          rw [first] at pushed
          cases pushed
      | ok next =>
          rw [first] at pushed
          rcases holds_push holds first with ⟨sameVersion, nextHolds⟩
          rcases ih nextHolds pushed with ⟨laterVersion, laterHolds⟩
          refine ⟨laterVersion.trans sameVersion, fun other => ?_⟩
          by_cases here : other = kind
          · simpa [here] using laterHolds other
          · simpa [here] using laterHolds other

/-- A draft starts without rows. -/
theorem holds_nothing (version : String) (kind : TableKind) :
    (table { version } kind).Holds [] := by
  cases kind
  · exact DraftTable.holds_empty
  · exact DraftTable.holds_empty

/-- A text that is read gives its version tag and the rows that its lines describe. -/
theorem holds_ofText {text : List Char} {draft : Draft} (parsed : ofText text = .ok draft) :
    draft.version = (SourceParts.ofLines (lines text)).version ∧
      draft.head.Holds ((SourceParts.ofLines (lines text)).headLines.map columnsOfLine) ∧
      draft.data.Holds ((SourceParts.ofLines (lines text)).dataLines.map columnsOfLine) := by
  let parts := SourceParts.ofLines (lines text)
  have pushes : (pushLines { version := parts.version } .head parts.headLines >>= fun withHead =>
      withHead.pushLines .data parts.dataLines) = .ok draft := parsed
  rcases Outcome.bind_eq_ok_iff.mp pushes with ⟨withHead, first, second⟩
  rcases holds_pushLines (holds_nothing parts.version) first with ⟨headVersion, headHolds⟩
  rcases holds_pushLines headHolds second with ⟨dataVersion, dataHolds⟩
  exact ⟨dataVersion.trans headVersion, dataHolds .head, dataHolds .data⟩

end Draft

namespace SourceParts

/-- The version tag of a source is the one that its first line gives. -/
theorem version_cons (first : List Char) (rest : List (List Char)) :
    (ofLines (first :: rest)).version = (versionOfLine? first).getD "" := by
  by_cases key : isVersionLine first = true
  · simp [ofLines, key, ofBody]
  · simp [ofLines, key, ofBody, versionOfLine?]

/-- A text source gives a version tag or none. -/
theorem version_ofLines (sourceLines : List (List Char)) :
    (ofLines sourceLines).version = "" ∨
      isVersionTag (ofLines sourceLines).version.toList = true := by
  cases sourceLines with
  | nil => exact Or.inl rfl
  | cons first rest =>
      rw [version_cons]
      unfold versionOfLine?
      by_cases key : isVersionLine first = true
      · rw [if_pos key]
        by_cases tag : isVersionTag (trimEnd (first.drop versionKey.length)) = true
        · right
          simp [tag, String.toList_ofList]
        · left
          simp [tag]
      · left
        rw [if_neg key]
        rfl

end SourceParts

namespace DraftHistory

theorem kept_empty : Kept {} where
  version := Or.inl rfl
  table kind := by
    cases kind
    · exact Draft.holds_nothing "" .head
    · exact Draft.holds_nothing "" .data

/-- The record of a text that is read is kept by its draft. -/
theorem kept_ofText {text : List Char} {draft : Draft}
    (parsed : Draft.ofText text = .ok draft) :
    Kept
      { draft
        headRows := (SourceParts.ofLines (lines text)).headLines.map columnsOfLine
        dataRows := (SourceParts.ofLines (lines text)).dataLines.map columnsOfLine } := by
  rcases Draft.holds_ofText parsed with ⟨version, head, data⟩
  refine ⟨?_, fun kind => ?_⟩
  · rw [version]
    exact SourceParts.version_ofLines (lines text)
  · cases kind
    · exact head
    · exact data

/-- One call keeps what a history says about its draft. -/
theorem Kept.step {history : DraftHistory} (kept : history.Kept) (call : DraftCall) :
    (history.step call).Kept := by
  cases call with
  | new => exact kept_empty
  | withVersion version =>
      simp only [DraftHistory.step]
      cases changed : history.draft.withVersion version with
      | error refusal => exact kept
      | ok draft =>
          unfold Draft.withVersion at changed
          by_cases accepted : version.isEmpty ∨ isVersionTag version.toList
          · rw [if_pos accepted] at changed
            injection changed with same
            subst same
            refine ⟨?_, fun kind => ?_⟩
            · exact accepted.imp_left String.isEmpty_iff.mp
            · cases kind
              · exact kept.table .head
              · exact kept.table .data
          · rw [if_neg accepted] at changed
            cases changed
  | ofText text =>
      simp only [DraftHistory.step]
      cases parsed : Draft.ofText text with
      | error refusal => exact kept
      | ok draft => exact kept_ofText parsed
  | push kind columns =>
      simp only [DraftHistory.step]
      cases pushed : history.draft.push kind columns with
      | error refusal => exact kept
      | ok draft =>
          rcases Draft.holds_push kept.table pushed with ⟨sameVersion, holds⟩
          cases kind with
          | head =>
              refine ⟨sameVersion.symm ▸ kept.version, fun other => ?_⟩
              cases other
              · exact holds .head
              · exact holds .data
          | data =>
              refine ⟨sameVersion.symm ▸ kept.version, fun other => ?_⟩
              cases other
              · exact holds .head
              · exact holds .data

/-- Every history keeps it. -/
theorem kept_after (calls : List DraftCall) : (after calls).Kept := by
  have run : forall (history : DraftHistory), history.Kept ->
      (calls.foldl DraftHistory.step history).Kept := by
    induction calls with
    | nil =>
        intro history kept
        exact kept
    | cons call rest ih =>
        intro history kept
        exact ih _ (kept.step call)
  exact run {} kept_empty

/-- A short history: a tag, a head row whose second column is empty, a row that is
refused, a data row without columns and one with a column. -/
def sampleCalls : List DraftCall :=
  [.withVersion "r1", .push .head [#[104, 105], #[]], .push .head [#[0]], .push .data [],
    .push .data [#[111, 107]]]

end DraftHistory
end MappedTables
