import Mathlib.Tactic.IntervalCases
import MappedTables.Error.Message

namespace MappedTables

/-!
Wordings without a NUL.

A text with a NUL in it cannot be handed to callers that take the first NUL for
its end.  The wording of a failure is made of words of the library's own, of
numbers, and of texts that came from outside: names, paths and descriptions.
Only the last can bring a NUL in.
-/

/-- There is no NUL in the text. -/
@[irreducible]
def NulFree (text : String) : Prop :=
  Char.ofNat 0 ∉ text.toList

theorem nulFree_ofList {characters : List Char} (plain : Char.ofNat 0 ∉ characters) :
    NulFree (String.ofList characters) := by
  unfold NulFree
  rw [String.toList_ofList]
  exact plain

@[simp] theorem nulFree_append (first second : String) :
    NulFree (first ++ second) <-> NulFree first ∧ NulFree second := by
  unfold NulFree
  rw [String.toList_append, List.mem_append, not_or]

/-- A text in a wording stands for itself. -/
@[simp] theorem nulFree_toString (text : String) : NulFree (toString text) <-> NulFree text :=
  Iff.rfl

/-! ## Numbers -/

theorem digitChar_ne_nul (digit : Nat) : Nat.digitChar digit ≠ Char.ofNat 0 := by
  by_cases small : digit < 16
  · interval_cases digit <;> decide
  · have starred : Nat.digitChar digit = '*' := by
      unfold Nat.digitChar
      iterate 16 rw [if_neg (by omega)]
    rw [starred]
    decide

theorem nul_notMem_toDigits {base : Nat} (counts : 1 < base) (number : Nat) :
    Char.ofNat 0 ∉ Nat.toDigits base number := by
  induction number using Nat.strongRecOn with
  | ind number ih =>
      rw [Nat.toDigits_eq_if counts]
      by_cases single : number < base
      · rw [if_pos single, List.mem_singleton]
        exact (digitChar_ne_nul number).symm
      · rw [if_neg single, List.mem_append, not_or, List.mem_singleton]
        exact ⟨ih _ (Nat.div_lt_self (by omega) counts), (digitChar_ne_nul _).symm⟩

@[simp] theorem nulFree_toString_nat (number : Nat) : NulFree (toString number) := by
  unfold NulFree
  rw [Nat.toString_eq_ofList_toDigits, String.toList_ofList]
  exact nul_notMem_toDigits (by decide) number

@[simp] theorem nulFree_toString_int (number : Int) : NulFree (toString number) := by
  cases number with
  | ofNat magnitude => exact nulFree_toString_nat magnitude
  | negSucc magnitude =>
      have whole : toString (Int.negSucc magnitude) = "-" ++ toString (magnitude + 1) := rfl
      rw [whole, nulFree_append]
      exact ⟨nulFree_ofList (by decide), nulFree_toString_nat _⟩

@[simp] theorem nulFree_hexadecimal (number : Nat) : NulFree (hexadecimal number) := by
  unfold hexadecimal
  rw [nulFree_append]
  exact ⟨nulFree_ofList (by decide), nulFree_ofList (nul_notMem_toDigits (by decide) number)⟩

/-! ## The texts in a failure -/

/-- The texts in a fault that came from outside. -/
def IoFault.texts : IoFault -> List String
  | .described text => [text]
  | _ => []

/-- The texts in what was attempted that came from outside. -/
def FileOperation.texts : FileOperation -> List String
  | .reading path => [path]
  | .writing path => [path]
  | .described text => [text]
  | _ => []

/-- The texts in the name of a coordinate that came from outside. -/
def Coordinate.texts : Coordinate -> List String
  | .named text => [text]
  | _ => []

/-- The texts in a flaw that came from outside. -/
def Malformation.texts : Malformation -> List String
  | .tableLength table _ _ => [table]
  | .described text => [text]
  | _ => []

/-- The texts in a conflict that came from outside. -/
def ModeConflict.texts : ModeConflict -> List String
  | .described text => [text]
  | _ => []

/-- The texts in a refusal that came from outside. -/
def Refusal.texts : Refusal -> List String
  | .notANumber argument numeral => [argument, numeral]
  | .described parameter text => [parameter, text]
  | _ => []

/-- The texts in a platform failure that came from outside. -/
def PlatformFault.texts : PlatformFault -> List String
  | .described text => [text]
  | _ => []

/-- The texts in a failure that came from outside. -/
def Error.texts : Error -> List String
  | .io operation fault => operation.texts ++ fault.texts
  | .notFound name => [name]
  | .alreadyExists name => [name]
  | .malformed flaw => flaw.texts
  | .outOfBounds what _ _ => what.texts
  | .modeViolation conflict => conflict.texts
  | .invalidParameter refusal => refusal.texts
  | .alignment _ _ => []
  | .platform fault => fault.texts

/-- No text with a NUL in it came from outside. -/
def Error.IsPlain (error : Error) : Prop :=
  forall text, text ∈ error.texts -> NulFree text

/-! ## Wordings -/

theorem SystemEntry.nulFree {entry : SystemEntry} (listed : entry ∈ SystemEntry.table) :
    NulFree entry.text ∧ NulFree entry.description ∧ NulFree entry.symbol := by
  revert entry
  simp only [table, List.forall_mem_cons, alike, apart, List.not_mem_nil, false_implies,
    implies_true, and_true]
  and_intros
  all_goals exact nulFree_ofList (by decide)

theorem OsError.mem_table {reason : OsError} {entry : SystemEntry}
    (found : reason.entry? = some entry) : entry ∈ SystemEntry.table := by
  unfold entry? SystemEntry.ofNumber? at found
  exact List.mem_of_find?_eq_some found

@[simp] theorem OsError.nulFree_text (reason : OsError) : NulFree reason.text := by
  unfold text
  cases found : reason.entry? with
  | some entry => exact (SystemEntry.nulFree (mem_table found)).1
  | none =>
      by_cases zero : reason.number = 0
      · simp only [zero, if_true]
        exact nulFree_ofList (by decide)
      · simp only [zero, if_false, nulFree_append, nulFree_toString, nulFree_toString_int,
          and_true]
        exact nulFree_ofList (by decide)

@[simp] theorem OsError.nulFree_description (reason : OsError) : NulFree reason.description := by
  unfold description
  cases found : reason.entry? with
  | some entry => exact (SystemEntry.nulFree (mem_table found)).2.1
  | none => exact nulFree_ofList (by decide)

@[simp] theorem OsError.nulFree_symbol (reason : OsError) : NulFree reason.symbol := by
  unfold symbol
  cases found : reason.entry? with
  | some entry => exact (SystemEntry.nulFree (mem_table found)).2.2
  | none => exact nulFree_ofList (by decide)

theorem IoFault.nulFree_message {fault : IoFault}
    (plain : forall text, text ∈ fault.texts -> NulFree text) : NulFree fault.message := by
  unfold message
  cases fault with
  | described text => exact plain text (List.mem_singleton.mpr rfl)
  | os reason =>
      simp only [nulFree_append, nulFree_toString, OsError.nulFree_text, nulFree_toString_int,
        true_and, and_true]
      exact ⟨nulFree_ofList (by decide), nulFree_ofList (by decide)⟩
  | _ => exact nulFree_ofList (by decide)

theorem FileOperation.nulFree_message {operation : FileOperation}
    (plain : forall text, text ∈ operation.texts -> NulFree text) :
    NulFree operation.message := by
  unfold message
  cases operation with
  | described text => exact plain text (List.mem_singleton.mpr rfl)
  | reading path | writing path =>
      have given : NulFree path := plain path (List.mem_singleton.mpr rfl)
      simp only [nulFree_append, nulFree_toString, given, and_true]
      exact nulFree_ofList (by decide)
  | _ => exact nulFree_ofList (by decide)

theorem Malformation.nulFree_message {flaw : Malformation}
    (plain : forall text, text ∈ flaw.texts -> NulFree text) : NulFree flaw.message := by
  unfold message
  cases flaw with
  | described text => exact plain text (List.mem_singleton.mpr rfl)
  | tableLength table length slots =>
      have given : NulFree table := plain table (List.mem_singleton.mpr rfl)
      simp only [nulFree_append, nulFree_toString, nulFree_toString_nat, given, true_and,
        and_true]
      and_intros <;> exact nulFree_ofList (by decide)
  | _ =>
      simp only [nulFree_append, nulFree_toString, nulFree_toString_nat, nulFree_hexadecimal,
        and_true]
      and_intros <;> exact nulFree_ofList (by decide)

@[simp] theorem AddressMode.nulFree_name (mode : AddressMode) : NulFree mode.name := by
  cases mode with
  | live => exact nulFree_ofList (by decide)
  | relocatable => exact nulFree_ofList (by decide)

@[simp] theorem TableKind.nulFree_name (kind : TableKind) : NulFree kind.name := by
  cases kind with
  | head => exact nulFree_ofList (by decide)
  | data => exact nulFree_ofList (by decide)

theorem Coordinate.nulFree_name {what : Coordinate}
    (plain : forall text, text ∈ what.texts -> NulFree text) : NulFree what.name := by
  cases what with
  | named text => exact plain text (List.mem_singleton.mpr rfl)
  | _ => exact nulFree_ofList (by decide)

theorem ModeConflict.nulFree_message {conflict : ModeConflict}
    (plain : forall text, text ∈ conflict.texts -> NulFree text) : NulFree conflict.message := by
  unfold message
  cases conflict with
  | described text => exact plain text (List.mem_singleton.mpr rfl)
  | _ =>
      simp only [nulFree_append, nulFree_toString, nulFree_hexadecimal, AddressMode.nulFree_name,
        true_and, and_true]
      and_intros <;> exact nulFree_ofList (by decide)

theorem Refusal.nulFree_parameter {refusal : Refusal}
    (plain : forall text, text ∈ refusal.texts -> NulFree text) : NulFree refusal.parameter := by
  unfold parameter
  cases refusal with
  | notANumber argument numeral => exact plain argument (List.mem_cons_self ..)
  | described parameter text => exact plain parameter (List.mem_cons_self ..)
  | _ => exact nulFree_ofList (by decide)

theorem Refusal.nulFree_reason {refusal : Refusal}
    (plain : forall text, text ∈ refusal.texts -> NulFree text) : NulFree refusal.reason := by
  unfold reason
  cases refusal with
  | described parameter text => exact plain text (List.mem_cons_of_mem _ (List.mem_cons_self ..))
  | notANumber argument numeral =>
      have given : NulFree numeral := plain numeral (List.mem_cons_of_mem _ (List.mem_cons_self ..))
      simp only [nulFree_append, nulFree_toString, given, and_true]
      exact ⟨nulFree_ofList (by decide), nulFree_ofList (by decide)⟩
  | _ => exact nulFree_ofList (by decide)

theorem PlatformFault.nulFree_message {fault : PlatformFault}
    (plain : forall text, text ∈ fault.texts -> NulFree text) : NulFree fault.message := by
  unfold message
  cases fault with
  | described text => exact plain text (List.mem_singleton.mpr rfl)
  | os reason =>
      simp only [nulFree_append, nulFree_toString, OsError.nulFree_description,
        OsError.nulFree_symbol, true_and, and_true]
      and_intros <;> exact nulFree_ofList (by decide)

/-- A NUL in the wording of a failure was brought in from outside. -/
theorem Error.nulFree_message {error : Error} (plain : error.IsPlain) :
    NulFree error.message := by
  unfold message
  cases error with
  | io operation fault =>
      have attempted := FileOperation.nulFree_message fun text member =>
        plain text (List.mem_append_left _ member)
      have found := IoFault.nulFree_message fun text member =>
        plain text (List.mem_append_right _ member)
      simp only [nulFree_append, nulFree_toString, attempted, found, and_true]
      and_intros <;> exact nulFree_ofList (by decide)
  | notFound name | alreadyExists name =>
      have given : NulFree name := plain name (List.mem_singleton.mpr rfl)
      simp only [nulFree_append, nulFree_toString, given, and_true]
      exact nulFree_ofList (by decide)
  | malformed flaw =>
      simp only [nulFree_append, nulFree_toString, Malformation.nulFree_message plain, and_true]
      exact nulFree_ofList (by decide)
  | outOfBounds what index limit =>
      simp only [nulFree_append, nulFree_toString, nulFree_toString_nat,
        Coordinate.nulFree_name plain, and_true]
      and_intros <;> exact nulFree_ofList (by decide)
  | modeViolation conflict =>
      simp only [nulFree_append, nulFree_toString, ModeConflict.nulFree_message plain, and_true]
      exact nulFree_ofList (by decide)
  | invalidParameter refusal =>
      simp only [nulFree_append, nulFree_toString, Refusal.nulFree_parameter plain,
        Refusal.nulFree_reason plain, and_true]
      and_intros <;> exact nulFree_ofList (by decide)
  | alignment offset required =>
      simp only [nulFree_append, nulFree_toString, nulFree_toString_nat, nulFree_hexadecimal,
        and_true]
      and_intros <;> exact nulFree_ofList (by decide)
  | platform fault =>
      simp only [nulFree_append, nulFree_toString, PlatformFault.nulFree_message plain, and_true]
      exact nulFree_ofList (by decide)

end MappedTables
