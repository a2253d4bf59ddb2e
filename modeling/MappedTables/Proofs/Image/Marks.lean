import MappedTables.Proofs.Image.Presentation
import MappedTables.Proofs.Reader.Searches

namespace MappedTables

/-!
Searching what was stored.

The mark of a row is the first octet of its text, and a search by mark visits
the rows of the head table in their order.  In a container that holds a history
every row can be read, so a search comes to the first row of the history whose
text begins with the mark, and then to what a lookup by the line of that row
comes to.
-/

/-- A search over the positions of a list comes to its first value with a property. -/
theorem leastFrom_eq_findIdx? {Value : Type} (values : List Value) (has : Value -> Bool)
    (holds : Nat -> Bool) (start : Nat)
    (same : forall index value, values[index]? = some value ->
      holds (start + index) = has value) :
    leastFrom holds values.length start = (values.findIdx? has).map (start + ·) := by
  induction values generalizing start with
  | nil => rfl
  | cons value rest ih =>
      have here : holds start = has value := same 0 value rfl
      have later := ih (start + 1) fun index other present => by
        rw [Nat.add_assoc, Nat.add_comm 1]
        exact same (index + 1) other present
      rw [List.length_cons, leastFrom, here, later, List.findIdx?_cons]
      cases has value with
      | true => rfl
      | false =>
          simp only [Bool.false_eq_true, if_false, Option.map_map]
          congr 1
          funext index
          exact Nat.add_right_comm start 1 index

/-- The mark of a row is the first octet of its text. -/
theorem Row.Holds.mark?_eq {row : Row} {columns : List Bytes} {startsPlace : Nat}
    (holds : row.Holds columns startsPlace) : row.mark? = (DraftRow.textOf columns).head? := by
  rw [mark?, holds.text_eq, List.head?_eq_getElem?]
  exact List.getElem?_toArray

namespace DraftHistory

/-- The position of the first head row whose text begins with an octet. -/
def firstMarked (history : DraftHistory) (mark : UInt8) : Option Nat :=
  history.headRows.findIdx? fun columns => (DraftRow.textOf columns).head? == some mark

variable {history : DraftHistory} {addressing : Addressing} {base : UInt64}
  (kept : history.Kept) (legible : history.draft.Legible addressing base)
include kept legible

theorem Kept.find?_eq (mark : UInt8) :
    (history.draft.tableView addressing base .head).find? mark = history.firstMarked mark := by
  have size : (history.draft.tableView addressing base .head).length =
      history.headRows.length :=
    (kept.bounded.toNat_length addressing .head).trans (kept.table .head).size_eq
  rw [Table.find?, size, leastFrom_eq_findIdx? history.headRows]
  · simp only [Nat.zero_add]
    exact Option.map_id_apply
  · intro index columns present
    rcases kept.rowAt_eq legible .head index columns present with ⟨row, _, read, _, holds⟩
    simp only [Nat.zero_add]
    rw [Table.markAt?_of_rowAt read, holds.mark?_eq]

/-- Where no row has the mark nothing is found. -/
theorem Kept.findHead_of_none {mark : UInt8} (column : UInt16)
    (absent : history.firstMarked mark = none) :
    (history.draft.view addressing base).findHead mark column = .ok none := by
  rw [Container.findHead, Draft.table_eq]
  simp only [kept.find?_eq legible, absent]
  rfl

/-- Otherwise the first row that has the mark decides. -/
theorem Kept.findHead_of_some {mark : UInt8} {index : Nat} (column : UInt16)
    (first : history.firstMarked mark = some index) :
    exists line : UInt32, line.toNat = index + 1 ∧
      (history.draft.view addressing base).findHead mark column = (do
        let answer ← attempt ((history.draft.view addressing base).columnAt .head line column)
        return answer.map fun text => { line, text }) := by
  rcases List.findIdx?_eq_some_iff_getElem.mp first with ⟨inside, _, _⟩
  have rows := (kept.table .head).size_eq
  have fits := kept.bounded.size_le_capacity .head
  have limit := kept.bounded.capacity_le .head
  have present : (history.rows .head)[index]? = some history.headRows[index] :=
    List.getElem?_eq_getElem inside
  rcases kept.rowAt_eq legible .head index _ present with ⟨row, _, read, _, _⟩
  have table := Draft.table_eq history.draft addressing base .head
  have counted := Container.lineIndex_succ table read
  refine ⟨UInt32.ofNat (index + 1), ?_, ?_⟩
  · rw [UInt32.toNat_ofNat', Nat.mod_eq_of_lt]
    simp only [DraftHistory.rows] at rows
    unfold tableLimit at limit
    omega
  · rw [Container.findHead, table, Container.columnAt, counted, table]
    simp only [kept.find?_eq legible, first]
    congr 1
    funext answer
    cases answer with
    | none => rfl
    | some text => rfl

end DraftHistory
end MappedTables
