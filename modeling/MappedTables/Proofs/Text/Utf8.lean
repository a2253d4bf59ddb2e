import Mathlib.Algebra.Group.Nat.Defs
import Mathlib.Tactic.SplitIfs
import MappedTables.Text.Utf8

namespace MappedTables
namespace Utf8

/-!
UTF-8 as the machine reads it and as it is written.

A character of more than one octet is stored as a first octet and continuation
octets of six bits each.  In the middle of a character the machine has a range
of code points before it: those whose leading bits are the ones read so far and
whose next six bits are within the bounds.  Each of these code points is a
character, and its octets begin with the octets read.  From this it follows
that the machine reads exactly what is written: octets are well formed exactly
if they are the octets of characters, and they are the octets of one text only.
-/

/-- The last `count` octets of a character of more than one octet, its code point being
`number`. -/
def continuation : Nat -> Nat -> List UInt8
  | 0, _ => []
  | count + 1, number =>
      UInt8.ofNat (number / 64 ^ count % 64 + 0x80) :: continuation count number

/-! ## Octets of a character -/

theorem toNat_octet {number : Nat} (small : number < 256) :
    (UInt8.ofNat number).toNat = number :=
  UInt8.toNat_ofNat_of_lt' small

theorem toNat_ofNat_of_valid {number : Nat} (valid : number.isValidChar) :
    (Char.ofNat number).toNat = number := by
  rw [Char.ofNat, dif_pos valid]
  rfl

theorem encode_one {character : Char} (ascii : character.toNat < 0x80) :
    String.utf8EncodeChar character = [UInt8.ofNat character.toNat] :=
  if_pos (Nat.le_of_lt_succ ascii)

theorem encode_two {character : Char} (least : 0x80 <= character.toNat)
    (greatest : character.toNat < 0x800) :
    String.utf8EncodeChar character =
      UInt8.ofNat (character.toNat / 64 + 0xC0) :: continuation 1 character.toNat := by
  unfold Char.toNat at *
  have bits : character.val.toNat / 64 % 32 = character.val.toNat / 64 := by omega
  simp only [String.utf8EncodeChar]
  rw [if_neg (by omega), if_pos (by omega), bits]
  simp [continuation]

theorem encode_three {character : Char} (least : 0x800 <= character.toNat)
    (greatest : character.toNat < 0x10000) :
    String.utf8EncodeChar character =
      UInt8.ofNat (character.toNat / 4096 + 0xE0) :: continuation 2 character.toNat := by
  unfold Char.toNat at *
  have bits : character.val.toNat / 4096 % 16 = character.val.toNat / 4096 := by omega
  simp only [String.utf8EncodeChar]
  rw [if_neg (by omega), if_neg (by omega), if_pos (by omega), bits]
  simp [continuation]

theorem encode_four {character : Char} (least : 0x10000 <= character.toNat)
    (greatest : character.toNat < 0x110000) :
    String.utf8EncodeChar character =
      UInt8.ofNat (character.toNat / 262144 + 0xF0) :: continuation 3 character.toNat := by
  unfold Char.toNat at *
  have bits : character.val.toNat / 262144 % 8 = character.val.toNat / 262144 := by omega
  simp only [String.utf8EncodeChar]
  rw [if_neg (by omega), if_neg (by omega), if_neg (by omega), bits]
  simp [continuation]

/-- Where the code points end. -/
theorem toNat_lt (character : Char) : character.toNat < 0x110000 := by
  rcases character.valid with low | high
  · exact Nat.lt_trans low (by decide)
  · exact high.2

/-! ## What the machine knows in the middle of a character -/

namespace Pending

/-- The code points that are still possible. -/
structure Admits (pending : Pending) (number : Nat) : Prop where
  leading : number / 64 ^ pending.owed = pending.value
  least : pending.least.toNat <= number / 64 ^ (pending.owed - 1) % 64 + 0x80
  greatest : number / 64 ^ (pending.owed - 1) % 64 + 0x80 <= pending.greatest.toNat

/-- The octets in front are those with which every possible character begins. -/
structure Continues (pending : Pending) (front : List UInt8) : Prop where
  owed : 0 < pending.owed
  least : 0x80 <= pending.least.toNat
  greatest : pending.greatest.toNat < 0xC0
  octets : forall number, pending.Admits number ->
    String.utf8EncodeChar (Char.ofNat number) = front ++ continuation pending.owed number

end Pending

/-- The bits in front of a continuation octet, and the six bits in it. -/
theorem leading_succ (number count : Nat) :
    number / 64 ^ count = 64 * (number / 64 ^ (count + 1)) + number / 64 ^ count % 64 := by
  rw [Nat.pow_succ, <- Nat.div_div_eq_div_mul]
  exact (Nat.div_add_mod _ 64).symm

theorem toNat_continuation (number count : Nat) :
    (UInt8.ofNat (number / 64 ^ count % 64 + 0x80)).toNat = number / 64 ^ count % 64 + 0x80 :=
  toNat_octet (by omega)

theorem le_of_mem_continuation {octet : UInt8} {number count : Nat}
    (member : octet ∈ continuation count number) : 0x80 <= octet.toNat := by
  induction count with
  | zero => cases member
  | succ count ih =>
      rcases List.mem_cons.mp member with first | later
      · rw [first, toNat_continuation]
        exact Nat.le_add_left _ _
      · exact ih later

namespace Reading

/-- A character that is still possible is read when its continuation follows. -/
theorem foldl_continuation (read : Array (Option Char)) (pending : Pending) (number : Nat)
    (owed : 0 < pending.owed) (admits : pending.Admits number) :
    (continuation pending.owed number).foldl step { units := read, pending := some pending } =
      { units := read.push (some (Char.ofNat number)) } := by
  rcases pending with ⟨owedCount, least, greatest, value⟩
  -- The bounds are those of the first continuation octet; behind it any six bits are allowed.
  induction owedCount generalizing least greatest value with
  | zero => exact absurd owed (Nat.lt_irrefl 0)
  | succ count ih =>
      have octet := toNat_continuation number count
      have inside : least <= UInt8.ofNat (number / 64 ^ count % 64 + 0x80) ∧
          UInt8.ofNat (number / 64 ^ count % 64 + 0x80) <= greatest := by
        rw [UInt8.le_iff_toNat_le, UInt8.le_iff_toNat_le, octet]
        exact ⟨admits.least, admits.greatest⟩
      have leading : 64 * value + (number / 64 ^ count % 64 + 0x80 - 0x80) =
          number / 64 ^ count := by
        have whole : number / 64 ^ (count + 1) = value := admits.leading
        rw [Nat.add_sub_cancel, <- whole]
        exact (leading_succ number count).symm
      rw [continuation, List.foldl_cons, step]
      simp only [if_pos inside, octet, leading]
      cases count with
      | zero => simp [continuation]
      | succ later =>
          rw [if_neg (by omega)]
          exact ih 0x80 0xBF _ (Nat.succ_pos later)
            ⟨rfl, Nat.le_add_left _ _, by simp only [UInt8.reduceToNat]; omega⟩

/-- The first octet, by its number. -/
theorem start_eq (read : Array (Option Char)) (octet : UInt8) :
    start read octet =
      if octet.toNat < 0x80 then { units := read.push (some (Char.ofNat octet.toNat)) }
      else if 0xC2 <= octet.toNat ∧ octet.toNat <= 0xDF then
        { units := read, pending := some ⟨1, 0x80, 0xBF, octet.toNat - 0xC0⟩ }
      else if octet.toNat = 0xE0 then { units := read, pending := some ⟨2, 0xA0, 0xBF, 0⟩ }
      else if octet.toNat = 0xED then { units := read, pending := some ⟨2, 0x80, 0x9F, 0xD⟩ }
      else if 0xE1 <= octet.toNat ∧ octet.toNat <= 0xEF then
        { units := read, pending := some ⟨2, 0x80, 0xBF, octet.toNat - 0xE0⟩ }
      else if octet.toNat = 0xF0 then { units := read, pending := some ⟨3, 0x90, 0xBF, 0⟩ }
      else if 0xF1 <= octet.toNat ∧ octet.toNat <= 0xF3 then
        { units := read, pending := some ⟨3, 0x80, 0xBF, octet.toNat - 0xF0⟩ }
      else if octet.toNat = 0xF4 then { units := read, pending := some ⟨3, 0x80, 0x8F, 4⟩ }
      else { units := read.push none } := by
  simp only [start, UInt8.lt_iff_toNat_lt, UInt8.le_iff_toNat_le, <- UInt8.toNat_inj,
    UInt8.reduceToNat]

/-- The first octet of the character leaves it possible and its continuation owed. -/
def Announced (character : Char) : Prop :=
  exists lead pending,
    String.utf8EncodeChar character = lead :: continuation pending.owed character.toNat ∧
      0 < pending.owed ∧ pending.Admits character.toNat ∧
      forall read, start read lead = { units := read, pending := some pending }

theorem announced_of_two {character : Char} (least : 0x80 <= character.toNat)
    (greatest : character.toNat < 0x800) : Announced character := by
  have encoded := encode_two least greatest
  unfold Announced
  generalize character.toNat = code at *
  have lead : (UInt8.ofNat (code / 64 + 0xC0)).toNat = code / 64 + 0xC0 :=
    toNat_octet (by omega)
  refine ⟨_, ⟨1, 0x80, 0xBF, code / 64⟩, encoded, Nat.one_pos, ⟨rfl, ?_, ?_⟩, fun read => ?_⟩
  · exact Nat.le_add_left _ _
  · simp only [UInt8.reduceToNat]
    omega
  · rw [start_eq, lead, if_neg (by omega), if_pos (by omega), Nat.add_sub_cancel]

/-- The least first octet of a sequence of three excludes overlong forms, and a later one
excludes surrogates. -/
theorem announced_of_three {character : Char} (least : 0x800 <= character.toNat)
    (greatest : character.toNat < 0x10000) : Announced character := by
  have encoded := encode_three least greatest
  have scalar : character.toNat < 0xD800 ∨
      0xDFFF < character.toNat ∧ character.toNat < 0x110000 := character.valid
  unfold Announced
  generalize character.toNat = code at *
  have lead : (UInt8.ofNat (code / 4096 + 0xE0)).toNat = code / 4096 + 0xE0 :=
    toNat_octet (by omega)
  by_cases first : code / 4096 = 0
  · refine ⟨_, ⟨2, 0xA0, 0xBF, 0⟩, encoded, Nat.two_pos, ⟨first, ?_, ?_⟩, fun read => ?_⟩
    · simp only [UInt8.reduceToNat]
      omega
    · simp only [UInt8.reduceToNat]
      omega
    · rw [start_eq, lead, if_neg (by omega), if_neg (by omega), if_pos (by omega)]
  by_cases surrogates : code / 4096 = 0xD
  · refine ⟨_, ⟨2, 0x80, 0x9F, 0xD⟩, encoded, Nat.two_pos, ⟨surrogates, ?_, ?_⟩, fun read => ?_⟩
    · exact Nat.le_add_left _ _
    · simp only [UInt8.reduceToNat]
      omega
    · rw [start_eq, lead, if_neg (by omega), if_neg (by omega), if_neg (by omega),
        if_pos (by omega)]
  · refine ⟨_, ⟨2, 0x80, 0xBF, code / 4096⟩, encoded, Nat.two_pos, ⟨rfl, ?_, ?_⟩, fun read => ?_⟩
    · exact Nat.le_add_left _ _
    · simp only [UInt8.reduceToNat]
      omega
    · rw [start_eq, lead, if_neg (by omega), if_neg (by omega), if_neg (by omega),
        if_neg (by omega), if_pos (by omega), Nat.add_sub_cancel]

/-- The least first octet of a sequence of four excludes overlong forms, and the greatest
excludes numbers past the last code point. -/
theorem announced_of_four {character : Char} (least : 0x10000 <= character.toNat) :
    Announced character := by
  have below := toNat_lt character
  have encoded := encode_four least below
  unfold Announced
  generalize character.toNat = code at *
  have lead : (UInt8.ofNat (code / 262144 + 0xF0)).toNat = code / 262144 + 0xF0 :=
    toNat_octet (by omega)
  by_cases first : code / 262144 = 0
  · refine ⟨_, ⟨3, 0x90, 0xBF, 0⟩, encoded, Nat.succ_pos 2, ⟨first, ?_, ?_⟩, fun read => ?_⟩
    · simp only [UInt8.reduceToNat]
      omega
    · simp only [UInt8.reduceToNat]
      omega
    · rw [start_eq, lead, if_neg (by omega), if_neg (by omega), if_neg (by omega),
        if_neg (by omega), if_neg (by omega), if_pos (by omega)]
  by_cases last : code / 262144 = 4
  · refine ⟨_, ⟨3, 0x80, 0x8F, 4⟩, encoded, Nat.succ_pos 2, ⟨last, ?_, ?_⟩, fun read => ?_⟩
    · exact Nat.le_add_left _ _
    · simp only [UInt8.reduceToNat]
      omega
    · rw [start_eq, lead, if_neg (by omega), if_neg (by omega), if_neg (by omega),
        if_neg (by omega), if_neg (by omega), if_neg (by omega), if_neg (by omega),
        if_pos (by omega)]
  · refine ⟨_, ⟨3, 0x80, 0xBF, code / 262144⟩, encoded, Nat.succ_pos 2, ⟨rfl, ?_, ?_⟩,
      fun read => ?_⟩
    · exact Nat.le_add_left _ _
    · simp only [UInt8.reduceToNat]
      omega
    · rw [start_eq, lead, if_neg (by omega), if_neg (by omega), if_neg (by omega),
        if_neg (by omega), if_neg (by omega), if_neg (by omega), if_pos (by omega),
        Nat.add_sub_cancel]

/-- Every character beyond ASCII is announced by its first octet. -/
theorem announced_of_wide {character : Char} (wide : 0x80 <= character.toNat) :
    Announced character := by
  by_cases two : character.toNat < 0x800
  · exact announced_of_two wide two
  by_cases three : character.toNat < 0x10000
  · exact announced_of_three (Nat.not_lt.mp two) three
  · exact announced_of_four (Nat.not_lt.mp three)

/-- A character is read from its octets. -/
theorem foldl_utf8EncodeChar (read : Array (Option Char)) (character : Char) :
    (String.utf8EncodeChar character).foldl step { units := read } =
      { units := read.push (some character) } := by
  by_cases ascii : character.toNat < 0x80
  · have octet : (UInt8.ofNat character.toNat).toNat = character.toNat :=
      toNat_octet (by omega)
    rw [encode_one ascii, List.foldl_cons, List.foldl_nil, step]
    simp only
    rw [start_eq, octet, if_pos ascii, Char.ofNat_toNat]
  · rcases announced_of_wide (Nat.not_lt.mp ascii) with
      ⟨lead, pending, encoded, owed, admits, taken⟩
    rw [encoded, List.foldl_cons, step]
    simp only
    rw [taken, foldl_continuation read pending character.toNat owed admits, Char.ofNat_toNat]

/-- Characters are read from their octets. -/
theorem foldl_encode (read : Array (Option Char)) (characters : List Char) :
    (characters.flatMap String.utf8EncodeChar).foldl step { units := read } =
      { units := read ++ (characters.map some).toArray } := by
  induction characters generalizing read with
  | nil => simp
  | cons character rest ih =>
      rw [List.flatMap_cons, List.foldl_append, foldl_utf8EncodeChar, ih]
      simp

end Reading

theorem units_encode (characters : List Char) :
    units (encode characters) = (characters.map some).toArray := by
  rw [units, encode, List.foldl_toArray, Reading.foldl_encode]
  simp [Reading.finish]

/-- What is written is read. -/
theorem characters?_encode (characters : List Char) :
    characters? (encode characters) = some characters := by
  rw [characters?, units_encode]
  simp

/-- Octets that are not damaged lose nothing when they are shown. -/
theorem decodeLossy_encode (characters : List Char) :
    decodeLossy (encode characters) = String.ofList characters := by
  rw [decodeLossy, units_encode]
  simp [Function.comp_def]

/-! ## What is read was written -/

namespace Pending

theorem continues_of_two {octet : UInt8} {value : Nat} (lead : octet.toNat = value + 0xC0)
    (least : 2 <= value) (greatest : value < 32) :
    Continues ⟨1, 0x80, 0xBF, value⟩ [octet] := by
  refine ⟨Nat.one_pos, Nat.le_refl _, Nat.lt_succ_self 0xBF, fun number admits => ?_⟩
  have leading : number / 64 = value := admits.leading
  have valid : number.isValidChar := Or.inl (by omega)
  have same := toNat_ofNat_of_valid valid
  rw [encode_two (by omega) (by omega), same, leading, <- lead, UInt8.ofNat_toNat]
  rfl

theorem continues_of_three {octet least greatest : UInt8} {value : Nat}
    (lead : octet.toNat = value + 0xE0) (continued : 0x80 <= least.toNat)
    (ended : greatest.toNat < 0xC0)
    (scalar : forall number, number / 4096 = value ->
      least.toNat <= number / 64 % 64 + 0x80 -> number / 64 % 64 + 0x80 <= greatest.toNat ->
      0x800 <= number ∧ number < 0x10000 ∧ (number < 0xD800 ∨ 0xDFFF < number)) :
    Continues ⟨2, least, greatest, value⟩ [octet] := by
  refine ⟨Nat.two_pos, continued, ended, fun number admits => ?_⟩
  have leading : number / 4096 = value := admits.leading
  have bounds := scalar number leading admits.least admits.greatest
  have valid : number.isValidChar := bounds.2.2.imp id fun above => ⟨above, by omega⟩
  have same := toNat_ofNat_of_valid valid
  rw [encode_three (by omega) (by omega), same, leading, <- lead, UInt8.ofNat_toNat]
  rfl

theorem continues_of_four {octet least greatest : UInt8} {value : Nat}
    (lead : octet.toNat = value + 0xF0) (continued : 0x80 <= least.toNat)
    (ended : greatest.toNat < 0xC0)
    (scalar : forall number, number / 262144 = value ->
      least.toNat <= number / 4096 % 64 + 0x80 -> number / 4096 % 64 + 0x80 <= greatest.toNat ->
      0x10000 <= number ∧ number < 0x110000) :
    Continues ⟨3, least, greatest, value⟩ [octet] := by
  refine ⟨Nat.succ_pos 2, continued, ended, fun number admits => ?_⟩
  have leading : number / 262144 = value := admits.leading
  have bounds := scalar number leading admits.least admits.greatest
  have valid : number.isValidChar := Or.inr ⟨by omega, bounds.2⟩
  have same := toNat_ofNat_of_valid valid
  rw [encode_four (by omega) (by omega), same, leading, <- lead, UInt8.ofNat_toNat]
  rfl

/-- Of the possible characters, those that have the next octet too. -/
theorem Continues.octets_of_next {pending : Pending} {front : List UInt8} {octet : UInt8}
    {number : Nat} (continues : pending.Continues front)
    (inside : pending.least <= octet ∧ octet <= pending.greatest)
    (next : number / 64 ^ (pending.owed - 1) = 64 * pending.value + (octet.toNat - 0x80)) :
    String.utf8EncodeChar (Char.ofNat number) =
      front ++ [octet] ++ continuation (pending.owed - 1) number := by
  rcases pending with ⟨_ | count, least, greatest, value⟩
  · exact absurd continues.owed (Nat.lt_irrefl 0)
  have low := continues.least
  have high := continues.greatest
  have digits := leading_succ number count
  simp only [Nat.add_sub_cancel, UInt8.le_iff_toNat_le] at low high inside next ⊢
  have bits : number / 64 ^ count % 64 + 0x80 = octet.toNat := by omega
  have admits : Admits ⟨count + 1, least, greatest, value⟩ number :=
    { leading := show number / 64 ^ (count + 1) = value by omega
      least := bits ▸ inside.1
      greatest := bits ▸ inside.2 }
  rw [continues.octets number admits, continuation, bits, UInt8.ofNat_toNat,
    List.append_assoc]
  rfl

theorem Continues.last {pending : Pending} {front : List UInt8} {octet : UInt8}
    (continues : pending.Continues front)
    (inside : pending.least <= octet ∧ octet <= pending.greatest) (last : pending.owed <= 1) :
    String.utf8EncodeChar (Char.ofNat (64 * pending.value + (octet.toNat - 0x80))) =
      front ++ [octet] := by
  have one : pending.owed - 1 = 0 := Nat.sub_eq_zero_of_le last
  have octets := @continues.octets_of_next _ _ _ (64 * pending.value + (octet.toNat - 0x80)) inside
    (by rw [one, Nat.pow_zero, Nat.div_one])
  rw [one, continuation, List.append_nil] at octets
  exact octets

theorem Continues.next {pending : Pending} {front : List UInt8} {octet : UInt8}
    (continues : pending.Continues front)
    (inside : pending.least <= octet ∧ octet <= pending.greatest) (more : ¬ pending.owed <= 1) :
    Continues ⟨pending.owed - 1, 0x80, 0xBF, 64 * pending.value + (octet.toNat - 0x80)⟩
      (front ++ [octet]) where
  owed := Nat.sub_pos_of_lt (Nat.not_le.mp more)
  least := Nat.le_refl _
  greatest := Nat.lt_succ_self 0xBF
  octets _ admits := continues.octets_of_next inside admits.leading

end Pending

namespace Reading

theorem continues_of_start {read found : Array (Option Char)} {octet : UInt8}
    {pending : Pending} (started : start read octet = { units := found, pending := some pending }) :
    found = read ∧ pending.Continues [octet] := by
  have small := octet.toNat_lt
  rw [start_eq] at started
  split_ifs at started with ascii two first surrogates three firstOfFour four last <;>
    cases started <;> refine ⟨rfl, ?_⟩
  · exact Pending.continues_of_two (by omega) (by omega) (by omega)
  · refine Pending.continues_of_three (by omega) (by decide) (by decide)
      fun number leading low _ => ?_
    simp only [UInt8.reduceToNat] at low
    omega
  · refine Pending.continues_of_three (by omega) (by decide) (by decide)
      fun number leading _ high => ?_
    simp only [UInt8.reduceToNat] at high
    omega
  · exact Pending.continues_of_three (by omega) (by decide) (by decide)
      fun number leading _ _ => by omega
  · refine Pending.continues_of_four (by omega) (by decide) (by decide)
      fun number leading low _ => ?_
    simp only [UInt8.reduceToNat] at low
    omega
  · exact Pending.continues_of_four (by omega) (by decide) (by decide)
      fun number leading _ _ => by omega
  · refine Pending.continues_of_four (by omega) (by decide) (by decide)
      fun number leading _ high => ?_
    simp only [UInt8.reduceToNat] at high
    omega

theorem units_of_start {read found : Array (Option Char)} {octet : UInt8}
    (started : start read octet = { units := found }) :
    octet.toNat < 0x80 ∧ found = read.push (some (Char.ofNat octet.toNat)) ∨
      found = read.push none := by
  rw [start_eq] at started
  split_ifs at started with ascii <;> cases started
  · exact Or.inl ⟨ascii, rfl⟩
  · exact Or.inr rfl

theorem mem_start {read : Array (Option Char)} {part : Option Char} (octet : UInt8)
    (member : part ∈ read) : part ∈ (start read octet).units := by
  rw [start_eq]
  split_ifs <;> simp [member]

/-- Damage is not forgotten. -/
theorem none_mem_step {reading : Reading} (octet : UInt8) (damaged : none ∈ reading.units) :
    none ∈ (reading.step octet).units := by
  unfold step
  cases reading.pending with
  | none => exact mem_start octet damaged
  | some pending =>
      simp only
      split_ifs
      · exact Array.mem_push_of_mem _ damaged
      · exact damaged
      · exact mem_start octet (Array.mem_push_of_mem _ damaged)

/-- The characters read so far. -/
def characters (reading : Reading) : List Char :=
  reading.units.toList.filterMap id

/-- Either something was damaged, or the octets taken are those of the characters read
and of the part of a character that is pending. -/
def Follows (reading : Reading) (octets : List UInt8) : Prop :=
  none ∈ reading.units ∨
    exists front, octets = reading.characters.flatMap String.utf8EncodeChar ++ front ∧
      match reading.pending with
      | none => front = []
      | some pending => pending.Continues front

/-- A pending character that takes its last octet has been read. -/
theorem follows_push {read : Array (Option Char)} {octets front : List UInt8}
    {character : Char}
    (taken : octets = (characters { units := read }).flatMap String.utf8EncodeChar ++ front)
    (last : String.utf8EncodeChar character = front) :
    Follows { units := read.push (some character) } octets := by
  refine Or.inr ⟨[], ?_, rfl⟩
  simp [characters, taken, last]

theorem follows_start {read : Array (Option Char)} {octets : List UInt8} (octet : UInt8)
    (taken : octets = (characters { units := read }).flatMap String.utf8EncodeChar) :
    Follows (start read octet) (octets ++ [octet]) := by
  cases started : start read octet with
  | mk pending found =>
      cases pending with
      | some pending =>
          rcases continues_of_start started with ⟨same, continues⟩
          subst same
          exact Or.inr ⟨[octet], congrArg (· ++ [octet]) taken, continues⟩
      | none =>
          rcases units_of_start started with ⟨ascii, pushed⟩ | damaged
          · have valid : octet.toNat.isValidChar := Or.inl (by omega)
            have number := toNat_ofNat_of_valid valid
            have encoded : String.utf8EncodeChar (Char.ofNat octet.toNat) = [octet] := by
              rw [encode_one (by rw [number]; exact ascii), number, UInt8.ofNat_toNat]
            rw [pushed]
            exact follows_push (congrArg (· ++ [octet]) taken) encoded
          · exact Or.inl (damaged ▸ Array.mem_push_self)

/-- The machine follows the octets it takes. -/
theorem follows_step {reading : Reading} {octets : List UInt8} (octet : UInt8)
    (follows : reading.Follows octets) : (reading.step octet).Follows (octets ++ [octet]) := by
  rcases follows with damaged | ⟨front, taken, standing⟩
  · exact Or.inl (none_mem_step octet damaged)
  rcases reading with ⟨_ | pending, read⟩
  · have nothing : front = [] := standing
    rw [nothing, List.append_nil] at taken
    exact follows_start octet taken
  · have continues : pending.Continues front := standing
    unfold step
    simp only
    by_cases inside : pending.least <= octet ∧ octet <= pending.greatest
    · rw [if_pos inside]
      by_cases last : pending.owed <= 1
      · rw [if_pos last]
        refine follows_push ?_ (continues.last inside last)
        rw [taken, List.append_assoc]
        rfl
      · rw [if_neg last]
        refine Or.inr ⟨front ++ [octet], ?_, continues.next inside last⟩
        rw [taken, List.append_assoc]
        rfl
    · rw [if_neg inside]
      exact Or.inl (mem_start octet Array.mem_push_self)

theorem follows_foldl {reading : Reading} {taken : List UInt8} (rest : List UInt8)
    (follows : reading.Follows taken) :
    (rest.foldl step reading).Follows (taken ++ rest) := by
  induction rest generalizing reading taken with
  | nil =>
      rw [List.append_nil]
      exact follows
  | cons octet rest ih =>
      rw [List.append_cons]
      exact ih (follows_step octet follows)

end Reading

/-- What is read was written. -/
theorem eq_encode_of_characters? {octets : Bytes} {read : List Char}
    (characters : characters? octets = some read) : octets = encode read := by
  have follows : (octets.toList.foldl Reading.step {}).Follows octets.toList :=
    Reading.follows_foldl octets.toList (Or.inr ⟨[], rfl, rfl⟩)
  simp only [characters?, units, <- Array.foldl_toList] at characters
  generalize octets.toList.foldl Reading.step {} = reading at follows characters
  by_cases whole : reading.finish.toList.all Option.isSome
  · rw [if_pos whole, Option.some.injEq] at characters
    have undamaged : none ∉ reading.finish := fun damaged => by
      simpa using List.all_eq_true.mp whole none damaged.val
    rcases reading with ⟨_ | pending, units⟩
    · rcases follows with damaged | ⟨front, taken, standing⟩
      · exact absurd damaged undamaged
      · have nothing : front = [] := standing
        rw [nothing, List.append_nil] at taken
        apply Array.toList_inj.mp
        rw [encode, <- characters]
        exact taken
    · exact absurd Array.mem_push_self undamaged
  · rw [if_neg whole] at characters
    cases characters

/-- Characters are read from octets exactly if the octets are theirs. -/
theorem characters?_eq_some_iff {octets : Bytes} {read : List Char} :
    characters? octets = some read <-> octets = encode read :=
  ⟨eq_encode_of_characters?, fun written => written ▸ characters?_encode read⟩

theorem decode?_ofString (text : String) : decode? (ofString text) = some text := by
  rw [decode?, ofString, characters?_encode, Option.map_some, String.ofList_toList]

theorem decode?_eq_some_iff {octets : Bytes} {text : String} :
    decode? octets = some text <-> octets = ofString text := by
  constructor
  · intro decoded
    rcases Option.map_eq_some_iff.mp decoded with ⟨characters, read, rfl⟩
    rw [ofString, String.toList_ofList]
    exact characters?_eq_some_iff.mp read
  · rintro rfl
    exact decode?_ofString text

/-! ## Octets of texts -/

@[simp] theorem encode_nil : encode [] = #[] := rfl

theorem encode_append (first second : List Char) :
    encode (first ++ second) = encode first ++ encode second := by
  simp [encode]

theorem encode_cons (character : Char) (rest : List Char) :
    encode (character :: rest) = (String.utf8EncodeChar character).toArray ++ encode rest := by
  simp [encode]

theorem mem_encode {octet : UInt8} {characters : List Char} :
    octet ∈ encode characters <->
      exists character, character ∈ characters ∧ octet ∈ String.utf8EncodeChar character := by
  rw [encode, List.mem_toArray, List.mem_flatMap]

/-- An octet of ASCII is the whole of its character. -/
theorem mem_utf8EncodeChar_iff {octet : UInt8} {character : Char} (ascii : octet.toNat < 0x80) :
    octet ∈ String.utf8EncodeChar character <-> character.toNat = octet.toNat := by
  by_cases narrow : character.toNat < 0x80
  · rw [encode_one narrow, List.mem_singleton, <- UInt8.toNat_inj,
      toNat_octet (by omega), eq_comm]
  · constructor
    · intro member
      rcases Reading.announced_of_wide (Nat.not_lt.mp narrow) with
        ⟨lead, pending, encoded, _, _, started⟩
      rw [encoded] at member
      rcases List.mem_cons.mp member with first | later
      · have taken := started #[]
        rw [<- first, Reading.start_eq, if_pos ascii] at taken
        cases taken
      · exact absurd (le_of_mem_continuation later) (Nat.not_le.mpr ascii)
    · intro same
      exact absurd (same ▸ ascii) narrow

theorem mem_encode_iff {character : Char} {characters : List Char}
    (ascii : character.toNat < 0x80) :
    UInt8.ofNat character.toNat ∈ encode characters <-> character ∈ characters := by
  have octet : (UInt8.ofNat character.toNat).toNat = character.toNat :=
    toNat_octet (by omega)
  rw [mem_encode]
  constructor
  · rintro ⟨other, member, inside⟩
    rw [mem_utf8EncodeChar_iff (octet.symm ▸ ascii), octet, Char.toNat_inj] at inside
    exact inside ▸ member
  · intro member
    exact ⟨character, member, (mem_utf8EncodeChar_iff (octet.symm ▸ ascii)).mpr octet.symm⟩

/-- The octets of a character say where it ends. -/
theorem utf8EncodeChar_append_inj {first second : Char} {after behind : List UInt8}
    (same : String.utf8EncodeChar first ++ after = String.utf8EncodeChar second ++ behind) :
    first = second := by
  have read : forall (character : Char) (rest : List UInt8),
      (String.utf8EncodeChar character ++ rest).toByteArray.utf8DecodeChar? 0 = some character := by
    intro character rest
    rw [List.toByteArray_append, ByteArray.utf8DecodeChar?_utf8EncodeChar_append]
  have second' := read second behind
  rw [<- same, read first after] at second'
  exact Option.some.inj second'

/-- Octets in front of a text's octets that are those of a text are those of its front. -/
theorem prefix_of_encode_append {front text : List Char} {after : Bytes}
    (same : encode front ++ after = encode text) : front <+: text := by
  induction front generalizing text with
  | nil => exact List.nil_prefix
  | cons character rest ih =>
      cases text with
      | nil =>
          have octets := congrArg Array.toList same
          simp [encode_cons] at octets
      | cons other others =>
          have octets : String.utf8EncodeChar character ++ ((encode rest).toList ++ after.toList) =
              String.utf8EncodeChar other ++ (encode others).toList := by
            simpa [encode_cons] using congrArg Array.toList same
          have first := utf8EncodeChar_append_inj octets
          subst first
          rw [List.append_cancel_left_eq, <- Array.toList_append, Array.toList_inj] at octets
          exact (List.prefix_cons_inj character).mpr (ih octets)

theorem encode_inj {first second : List Char} :
    encode first = encode second <-> first = second := by
  constructor
  · intro same
    have read := characters?_encode first
    rw [same, characters?_encode] at read
    exact (Option.some.inj read).symm
  · intro same
    rw [same]

end Utf8
end MappedTables
