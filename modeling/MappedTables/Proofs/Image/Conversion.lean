import MappedTables.Proofs.Image.Frame
import MappedTables.Proofs.Reader.WellFormed

namespace MappedTables

/-!
Converting one slot.

A slot holds two references in one mode.  Each of them is converted on its own
and may refuse, so both are worked out before the first word of the slot is
written: a conversion happens as a whole or not at all, and it happens once, for
its result is in the mode that refuses.  What a reference meant is not lost: its
distance leads back to the same address at the base that it was taken from, and
to the corresponding address at any other.  Addresses are words, so the sum of a
base and a distance is taken modulo the number of addresses.
-/

namespace Reference

/-- A word that refers to nothing or to an address that does not lie below the base. -/
def Convertible (base word : UInt64) : Prop :=
  word = 0 ∨ base <= word

/-- The distance that takes the place of a live word. -/
def distance (base word : UInt64) : UInt64 :=
  if word = 0 then 0 else word - base

/-- What a live word meant is meant by the relocatable word that has taken its place. -/
structure Converted (base before after : UInt64) : Prop where
  null : before = 0 -> after = 0
  /-- At any base it is the place as far from it as the old one was from its own. -/
  address : before ≠ 0 -> forall other : UInt64,
    ((relocatable after).address other).toNat =
      (other.toNat + (before.toNat - base.toNat)) % addressLimit
  returns : before ≠ 0 -> (relocatable after).address base = before
  offset : before ≠ 0 -> (relocatable after).offsetFrom base = (live before).offsetFrom base

/-! ## Addresses and distances -/

theorem offsetOf_eq_ok {base address : UInt64} (above : base <= address) :
    offsetOf base address = .ok (address - base) :=
  if_neg (UInt64.not_lt.mpr above)

/-- A distance leads back to the address that it was taken from. -/
theorem addressAt_sub (base address : UInt64) : addressAt base (address - base) = address := by
  rw [addressAt, UInt64.add_comm, UInt64.sub_add_cancel]

theorem toNat_addressAt_sub {base address : UInt64} (above : base <= address) (other : UInt64) :
    (addressAt other (address - base)).toNat =
      (other.toNat + (address.toNat - base.toNat)) % addressLimit := by
  rw [addressAt, UInt64.toNat_add, UInt64.toNat_sub_of_le address base above]
  rfl

theorem relocate_live_eq_ok_iff {base word : UInt64} {relocated : Reference} :
    (live word).relocate base = .ok relocated <->
      Convertible base word ∧ relocated = .relocatable (distance base word) := by
  unfold relocate Convertible distance
  by_cases null : word = 0
  · simp [null, eq_comm]
  · by_cases below : word < base
    · have apart : ¬ base <= word := UInt64.not_le.mpr below
      simp [null, offsetOf, below, apart, Except.map]
    · have above : base <= word := UInt64.not_lt.mp below
      simp [null, offsetOf_eq_ok above, above, Except.map, eq_comm]

theorem Convertible.converted {base word : UInt64} (convertible : Convertible base word) :
    Converted base word (distance base word) := by
  have taken (present : word ≠ 0) : distance base word = word - base := if_neg present
  have above (present : word ≠ 0) : base <= word := convertible.resolve_left present
  refine ⟨fun null => if_pos null, fun present other => ?_, fun present => ?_, fun present => ?_⟩
  · rw [taken present]
    exact toNat_addressAt_sub (above present) other
  · rw [taken present]
    exact addressAt_sub base word
  · rw [taken present]
    exact (offsetOf_eq_ok (above present)).symm

end Reference

/-! ## Slots -/

/-- A change of a slot in place, which may fail.  What it leaves then is part of the outcome. -/
abbrev SlotChange := ExceptT Error (StateM RowHeader)

namespace RowHeader

/-- Work out both distances, then store them and the mode one after the other. -/
def convert (base : UInt64) : SlotChange Unit := do
  let header ← get
  let text ← ExceptT.mk (pure (header.textReference >>= fun reference =>
    reference.relocate base))
  let starts ← ExceptT.mk (pure (header.mode >>= fun mode =>
    (Reference.ofWord header.startsWord mode).relocate base))
  -- From here on nothing can fail.
  modify fun header => { header with textWord := text.word }
  modify fun header => { header with startsWord := starts.word }
  modify fun header => { header with modeFlag := AddressMode.relocatable.flag }

/-- What has become of a slot that was converted. -/
structure Converted (base : UInt64) (before after : RowHeader) : Prop
    extends before.Relocated after where
  text : Reference.Converted base before.textWord after.textWord
  starts : Reference.Converted base before.startsWord after.startsWord
  textReference_eq : after.textReference = .ok (.relocatable after.textWord)
  startsReference_eq : after.startsReference =
    .ok (if after.columns = 0 then none else some (.relocatable after.startsWord))
  /-- It cannot be converted again, from whatever base. -/
  once : forall other, convert other after = (.error (.modeViolation .referenceRelocated), after)

/-- Converting a slot in place comes to its relocation, and a failure leaves it alone. -/
theorem convert_apply (base : UInt64) (header : RowHeader) :
    convert base header =
      match header.relocate base with
      | .ok relocated => (.ok (), relocated)
      | .error error => (.error error, header) := by
  have read : (get : SlotChange RowHeader) header = (.ok header, header) := rfl
  have taken {Value : Type} (outcome : Except Error Value) (state : RowHeader) :
      (ExceptT.mk (pure outcome) : SlotChange Value) state = (outcome, state) := rfl
  rw [convert, Outcome.bind_apply]
  simp only [read, Outcome.bind_apply, taken, relocate, textReference]
  cases header.mode with
  | error error => rfl
  | ok mode =>
      simp only [Outcome.ok_bind, Outcome.pure_eq_ok]
      cases (Reference.ofWord header.textWord mode).relocate base with
      | error error => rfl
      | ok text =>
          simp only [Outcome.ok_bind]
          cases (Reference.ofWord header.startsWord mode).relocate base with
          | error error => rfl
          | ok starts => rfl

theorem convert_eq_ok_iff {base : UInt64} {header after : RowHeader} :
    convert base header = (.ok (), after) <-> header.relocate base = .ok after := by
  rw [convert_apply]
  cases header.relocate base with
  | error error =>
      constructor
      · intro impossible
        cases impossible
      · intro impossible
        cases impossible
  | ok relocated =>
      constructor
      · intro same
        cases same
        rfl
      · intro same
        cases same
        rfl

theorem eq_of_convert_eq_error {base : UInt64} {header left : RowHeader} {error : Error}
    (failed : convert base header = (.error error, left)) : left = header := by
  rw [convert_apply] at failed
  cases outcome : header.relocate base with
  | error refusal =>
      rw [outcome] at failed
      cases failed
      rfl
  | ok relocated =>
      rw [outcome] at failed
      cases failed

/-- The slot with distances in place of its words. -/
def withDistances (header : RowHeader) (base : UInt64) : RowHeader :=
  { header with
    textWord := Reference.distance base header.textWord
    startsWord := Reference.distance base header.startsWord
    modeFlag := AddressMode.relocatable.flag }

theorem relocate_of_relocatable {header : RowHeader} (mode : header.mode = .ok .relocatable)
    (base : UInt64) : header.relocate base = .error (.modeViolation .referenceRelocated) := by
  rw [relocate, mode]
  rfl

theorem relocate_eq_ok_iff {base : UInt64} {header after : RowHeader} :
    header.relocate base = .ok after <->
      (header.mode = .ok .live ∧ Reference.Convertible base header.textWord ∧
        Reference.Convertible base header.startsWord) ∧ after = header.withDistances base := by
  constructor
  · intro done
    unfold relocate at done
    rcases Outcome.bind_eq_ok_iff.mp done with ⟨mode, found, rest⟩
    cases mode with
    | relocatable => cases rest
    | live =>
        rcases Outcome.bind_eq_ok_iff.mp rest with ⟨text, textDone, later⟩
        rw [found, Outcome.ok_bind] at later
        rcases Outcome.bind_eq_ok_iff.mp later with ⟨starts, startsDone, last⟩
        rcases Reference.relocate_live_eq_ok_iff.mp textDone with ⟨textConvertible, rfl⟩
        rcases Reference.relocate_live_eq_ok_iff.mp startsDone with ⟨startsConvertible, rfl⟩
        injection last with same
        exact ⟨⟨found, textConvertible, startsConvertible⟩, same.symm⟩
  · rintro ⟨⟨live, text, starts⟩, rfl⟩
    exact relocate_eq_ok live (Reference.relocate_live_eq_ok_iff.mpr ⟨text, rfl⟩)
      (Reference.relocate_live_eq_ok_iff.mpr ⟨starts, rfl⟩)

theorem converted_withDistances {base : UInt64} {header : RowHeader}
    (live : header.mode = .ok .live) (text : Reference.Convertible base header.textWord)
    (starts : Reference.Convertible base header.startsWord) :
    header.Converted base (header.withDistances base) := by
  have mode : (header.withDistances base).mode = .ok .relocatable :=
    AddressMode.ofFlag_flag .relocatable
  constructor
  case toRelocated => exact ⟨rfl, rfl, rfl, live, mode⟩
  case text => exact text.converted
  case starts => exact starts.converted
  case textReference_eq =>
    rw [textReference, mode]
    rfl
  case startsReference_eq =>
    rw [startsReference, mode]
    split
    · rfl
    · rfl
  case once =>
    intro other
    rw [convert_apply, relocate_of_relocatable mode]

end RowHeader

namespace Relocation

/-- The step of the walk converts the slot where it stands, or leaves all memory alone. -/
theorem relocateSlot_eq_convert {span : Span} {offset : Nat} {header : RowHeader}
    (read : span.headerAt RowHeader offset = .ok header) :
    relocateSlot offset span =
      match RowHeader.convert span.base header with
      | (.ok (), after) =>
          .ok () { span with bytes := span.bytes.overlay offset (StoredHeader.encode after) }
      | (.error error, _) => .error error span := by
  rcases Span.headerAt_eq_ok_iff.mp read with ⟨room, inside, aligned, -⟩
  have checked := (span.checkHeader_eq_ok_iff RowHeader offset).mpr ⟨room, inside, aligned⟩
  rw [relocateSlot, bind_of_eq (headerAt_eq read), bind_of_eq (get_eq span),
    RowHeader.convert_apply]
  cases converted : header.relocate span.base with
  | error error => rfl
  | ok after =>
      rw [bind_ofExcept rfl, putHeader, checked]

end Relocation

namespace RowHeader

/-- A slot is converted as a whole exactly if it is live and neither of its references lies
below the base, and otherwise not at all.  Its references mean afterwards what they meant
before, because addresses and distances determine each other.  This is what the walk of a
relocation does to a slot in memory. -/
theorem converted_whole_or_not_at_all (header : RowHeader) (base : UInt64) :
    ((exists after, convert base header = (.ok (), after)) <->
        header.mode = .ok .live ∧ Reference.Convertible base header.textWord ∧
          Reference.Convertible base header.startsWord) ∧
      (forall error left, convert base header = (.error error, left) -> left = header) ∧
      (forall after, convert base header = (.ok (), after) -> header.Converted base after) ∧
      (forall span offset, span.base = base -> span.headerAt RowHeader offset = .ok header ->
        Relocation.relocateSlot offset span =
          match convert base header with
          | (.ok (), after) =>
              .ok () { span with bytes := span.bytes.overlay offset (StoredHeader.encode after) }
          | (.error error, _) => .error error span) ∧
      (forall address, base <= address -> exists offset,
        offsetOf base address = .ok offset ∧ addressAt base offset = address) ∧
      forall offset, base.toNat + offset.toNat < addressLimit ->
        offsetOf base (addressAt base offset) = .ok offset := by
  refine ⟨?_, fun error left => eq_of_convert_eq_error, ?_, ?_, ?_, ?_⟩
  · constructor
    · rintro ⟨after, done⟩
      exact (relocate_eq_ok_iff.mp (convert_eq_ok_iff.mp done)).1
    · intro conditions
      exact ⟨_, convert_eq_ok_iff.mpr (relocate_eq_ok_iff.mpr ⟨conditions, rfl⟩)⟩
  · intro after done
    rcases relocate_eq_ok_iff.mp (convert_eq_ok_iff.mp done) with ⟨⟨live, text, starts⟩, rfl⟩
    exact converted_withDistances live text starts
  · rintro span offset rfl read
    exact Relocation.relocateSlot_eq_convert read
  · intro address above
    exact ⟨_, Reference.offsetOf_eq_ok above, Reference.addressAt_sub base address⟩
  · intro offset room
    have found := Reference.offsetOf_addressAt room
    rwa [UInt64.ofNat_toNat] at found

/-- The text alone could have been converted, but the starts lie below the base. -/
example :
    convert 4096 ⟨4160, 4000, 10, 2, 0, 7⟩ =
        (.error (.modeViolation (.belowBase 4000 4096)), ⟨4160, 4000, 10, 2, 0, 7⟩) ∧
      convert 4000 ⟨4160, 4000, 10, 2, 0, 7⟩ = (.ok (), ⟨160, 0, 10, 2, 1, 7⟩) := ⟨rfl, rfl⟩

end RowHeader
end MappedTables
