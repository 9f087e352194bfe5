import Mathlib.Data.Nat.Digits.Defs
import SheetFormula.Proofs.References
import SheetFormula.Proofs.Shortest

/-!
# References and their Addresses

A reference is read back as the address that it was written for. Two references to one address may
still differ: the digits of a row may begin with zeros, and these are all that may differ. Zeros
alone write the row before the first one, which no reference is written for.

A text of another form is malformed. Digits beyond the limit are the one thing that stops a
reference of the right form.

## Main results

* `Text.natOfDigits_eq_iff`: digits write one number exactly when they are the same but for the
  zeros that they begin with.
* `Address.ofRef_reference`: the reference that is written for an address leads to it.
* `Address.decodes_iff`: which texts are decoded.
* `Address.ofRef_decodes`: **addresses are decoded uniquely**.
* `Address.not_ofRef_decodes`: a reference with too many digits, which is not decoded.
-/

namespace SheetFormula

/-! ### Zeros in front -/

namespace Text

variable {ds es : List Char}

/-- Digits without the **zeros that they begin with**. -/
def dropZeros (ds : List Char) : List Char := ds.dropWhile (· == '0')

/-- Zeros in front do not count. -/
theorem natOfDigits_dropZeros (ds : List Char) : natOfDigits (dropZeros ds) = natOfDigits ds := by
  have hzeros : ds.takeWhile (· == '0') = List.replicate (ds.takeWhile (· == '0')).length '0' :=
    List.eq_replicate_of_mem fun c hc => beq_iff_eq.mp (List.mem_takeWhile_imp (p := (· == '0')) hc)
  conv_rhs => rw [← List.takeWhile_append_dropWhile (p := (· == '0')) (l := ds), hzeros]
  rw [natOfDigits_append, natOfDigits_zeros, Nat.zero_mul, Nat.zero_add, dropZeros]

/-- A list of digits writes a number with its last digit first. -/
theorem natOfDigits_eq_ofDigits (ds : List Char) :
    natOfDigits ds = Nat.ofDigits 10 (ds.reverse.map digitOf) := by
  induction ds using List.reverseRecOn with
  | nil => rfl
  | append_singleton ds c ih =>
      rw [natOfDigits_concat, ih, List.reverse_concat, List.map_cons, Nat.ofDigits_cons,
        Nat.mul_comm, Nat.add_comm]

/-- The value of a digit other than zero is not zero. -/
theorem digitOf_ne_zero {c : Char} (h : isDigit c = true) (hc : c ≠ '0') : digitOf c ≠ 0 := by
  intro hzero
  rw [← digitChar_digitOf h, hzero] at hc
  exact hc rfl

/-- Without zeros in front the digits are **determined by the number** that they write: the digit of
the most weight is not zero. -/
theorem dropZeros_eq (h : ∀ c ∈ ds, isDigit c = true) :
    dropZeros ds = ((Nat.digits 10 (natOfDigits ds)).map digitChar).reverse := by
  have hdigit : ∀ c ∈ dropZeros ds, isDigit c = true := fun c hc =>
    h c ((List.dropWhile_suffix _).subset hc)
  have hdigits : Nat.digits 10 (natOfDigits ds) = (dropZeros ds).reverse.map digitOf := by
    rw [← natOfDigits_dropZeros, natOfDigits_eq_ofDigits]
    refine Nat.digits_ofDigits 10 (by decide) _ ?_ ?_
    · intro n hn
      obtain ⟨c, hc, rfl⟩ := List.mem_map.mp hn
      exact digitOf_lt (hdigit c (List.mem_reverse.mp hc))
    · intro hne
      have hsome : dropZeros ds ≠ [] := by simpa using hne
      have hstop : ((dropZeros ds).head hsome == '0') = false := List.head_dropWhile_not _ hsome
      rw [List.getLast_map, List.getLast_reverse]
      exact digitOf_ne_zero (hdigit _ (List.head_mem hsome)) (ne_of_beq_false hstop)
  rw [hdigits, List.map_map, List.map_congr_left (g := id), List.map_id, List.reverse_reverse]
  exact fun c hc => digitChar_digitOf (hdigit c (List.mem_reverse.mp hc))

/-- Digits **write one number** exactly when they are the same but for zeros in front. -/
theorem natOfDigits_eq_iff (hds : ∀ c ∈ ds, isDigit c = true) (hes : ∀ c ∈ es, isDigit c = true) :
    natOfDigits ds = natOfDigits es ↔ dropZeros ds = dropZeros es := by
  constructor
  · intro h
    rw [dropZeros_eq hds, dropZeros_eq hes, h]
  · intro h
    rw [← natOfDigits_dropZeros ds, ← natOfDigits_dropZeros es, h]

end Text

namespace Address

open Lexeme (isCapital AreDigits)
open Text (digitsOfNat natOfDigits dropZeros)
open Decimal (digitLimit)

/-! ### Written references -/

/-- A text **spells** a reference when it is a capital with digits behind it. -/
structure Spells (ref : String) (letter : Char) (ds : List Char) : Prop where
  toList_eq : ref.toList = letter :: ds
  isCapital : Lexeme.isCapital letter = true
  areDigits : AreDigits ds

/-- The letter and the digits of a reference are those that it spells. -/
theorem parts?_eq_some_iff_spells {ref : String} {letter : Char} {ds : List Char} :
    parts? ref = some (letter, ds) ↔ Spells ref letter ds := by
  rw [parts?_eq_some_iff, List.all_eq_true]
  exact ⟨fun ⟨htext, hletter, hne, hds⟩ => ⟨htext, hletter, hne, hds⟩,
    fun h => ⟨h.toList_eq, h.isCapital, h.areDigits.ne_nil, h.areDigits.isDigit⟩⟩

/-- The letter of a column. -/
def letterOf (column : Int) : Char := Char.ofNat ('A'.toNat + (column - 1).toNat)

/-- The **reference to an address**: the letter of its column, and its row counted from one. -/
def reference (a : Address) : String :=
  String.ofList (letterOf a.column :: digitsOfNat (a.row + 1).toNat)

/-- The columns from the first to the twenty-sixth have a capital each, which is that of no other
column. -/
theorem letterOf_spec {column : Int} (hfirst : 1 ≤ column) (hlast : column ≤ 26) :
    isCapital (letterOf column) = true ∧ columnOf (letterOf column) = column := by
  have hletters : ∀ k < 26, isCapital (Char.ofNat ('A'.toNat + k)) = true ∧
      columnOf (Char.ofNat ('A'.toNat + k)) = k + 1 := by decide
  obtain ⟨hcapital, hcolumn⟩ := hletters (column - 1).toNat (by omega)
  exact ⟨hcapital, hcolumn.trans (by omega)⟩

/-- No two letters have one column. -/
theorem columnOf_inj {c d : Char} : columnOf c = columnOf d ↔ c = d := by
  rw [columnOf, columnOf, ← Char.toNat_inj]
  omega

variable {ref : String} {letter : Char} {ds : List Char}

/-- The address that a reference leads to, unless its digits are too many. -/
theorem Spells.ofRef_eq_ok_iff (h : Spells ref letter ds) {a : Address} : ofRef ref = .ok a ↔
    ds.length ≤ digitLimit ∧ a = ⟨(natOfDigits ds : Int) - 1, columnOf letter⟩ := by
  have hparts := parts?_eq_some_iff_spells.mpr h
  rw [Address.ofRef_eq_ok_iff]
  constructor
  · rintro ⟨letter', ds', hparts', hle, ha⟩
    obtain ⟨rfl, rfl⟩ := Prod.mk.inj (Option.some.inj (hparts.symm.trans hparts'))
    exact ⟨hle, ha⟩
  · exact fun ⟨hle, ha⟩ => ⟨letter, ds, hparts, hle, ha⟩

/-- A reference with too many digits is refused with their number. -/
theorem Spells.ofRef_eq_of_lt (h : Spells ref letter ds) (hlt : digitLimit < ds.length) :
    ofRef ref = .error (.numeralTooLong ds.length) := by
  rw [ofRef, parts?_eq_some_iff_spells.mpr h]
  exact if_pos hlt

/-- A text that spells a reference is no fault of the formula. -/
theorem Spells.ofRef_ne_fault (h : Spells ref letter ds) {f : Fault} :
    ofRef ref ≠ .error (.fault f) := by
  intro hfault
  obtain hle | hlt := le_or_gt ds.length digitLimit
  · cases (h.ofRef_eq_ok_iff.mpr ⟨hle, rfl⟩).symm.trans hfault
  · cases (h.ofRef_eq_of_lt hlt).symm.trans hfault

/-- A text that spells no reference is **malformed**. -/
theorem ofRef_of_not_spells (h : ¬ ∃ letter ds, Spells ref letter ds) :
    ofRef ref = .error (.fault (.invalidReference ref .malformed)) := by
  cases hparts : parts? ref with
  | none =>
      rw [ofRef, hparts]
      rfl
  | some p => exact absurd ⟨p.1, p.2, parts?_eq_some_iff_spells.mp hparts⟩ h

/-- The **reference that is written for an address** leads to it. -/
theorem ofRef_reference {a : Address} (hrow : 0 ≤ a.row) (hfirst : 1 ≤ a.column)
    (hlast : a.column ≤ 26) (hle : (digitsOfNat (a.row + 1).toNat).length ≤ digitLimit) :
    ofRef a.reference = .ok a := by
  obtain ⟨hcapital, hcolumn⟩ := letterOf_spec hfirst hlast
  have hspells : Spells a.reference (letterOf a.column) (digitsOfNat (a.row + 1).toNat) :=
    ⟨String.toList_ofList, hcapital, Nat.toDigits_ne_nil,
      fun _ hc => Decimal.isDigit_of_mem_toDigits hc⟩
  have hnumber : (natOfDigits (digitsOfNat (a.row + 1).toNat) : Int) - 1 = a.row := by
    rw [digitsOfNat, Text.natOfDigits_toDigits]
    omega
  refine hspells.ofRef_eq_ok_iff.mpr ⟨hle, ?_⟩
  rw [hcolumn, hnumber]

/-- References that can be read lead to **one address** exactly when they have one letter, and one
number but for zeros in front. -/
theorem Spells.address_eq_iff {ref' : String} {letter' : Char} {ds' : List Char} {a a' : Address}
    (h : Spells ref letter ds) (h' : Spells ref' letter' ds') (ha : ofRef ref = .ok a)
    (ha' : ofRef ref' = .ok a') :
    a = a' ↔ letter = letter' ∧ dropZeros ds = dropZeros ds' := by
  obtain ⟨-, rfl⟩ := h.ofRef_eq_ok_iff.mp ha
  obtain ⟨-, rfl⟩ := h'.ofRef_eq_ok_iff.mp ha'
  rw [mk.injEq, columnOf_inj, and_comm, sub_left_inj, Nat.cast_inj,
    Text.natOfDigits_eq_iff h.areDigits.isDigit h'.areDigits.isDigit]

/-- A text **is decoded** when it leads to an address exactly if it spells a reference, and is
malformed otherwise. -/
def Decodes (ref : String) : Prop :=
  ((∃ a, ofRef ref = .ok a) ↔ ∃ letter ds, Spells ref letter ds) ∧
    ((¬ ∃ letter ds, Spells ref letter ds) →
      ofRef ref = .error (.fault (.invalidReference ref .malformed)))

/-- The texts that lead to an address spell a reference without too many digits. -/
theorem exists_ofRef_eq_ok_iff :
    (∃ a, ofRef ref = .ok a) ↔ ∃ letter ds, Spells ref letter ds ∧ ds.length ≤ digitLimit := by
  constructor
  · rintro ⟨a, ha⟩
    obtain ⟨letter, ds, hparts, hle, -⟩ := ofRef_eq_ok_iff.mp ha
    exact ⟨letter, ds, parts?_eq_some_iff_spells.mp hparts, hle⟩
  · rintro ⟨letter, ds, h, hle⟩
    exact ⟨_, h.ofRef_eq_ok_iff.mpr ⟨hle, rfl⟩⟩

/-- A text is decoded unless it spells a reference with too many digits. -/
theorem decodes_iff : Decodes ref ↔ ∀ letter ds, Spells ref letter ds → ds.length ≤ digitLimit := by
  constructor
  · rintro ⟨haccepts, -⟩ letter ds h
    obtain ⟨a, ha⟩ := haccepts.mpr ⟨letter, ds, h⟩
    exact (h.ofRef_eq_ok_iff.mp ha).1
  · intro hle
    refine ⟨exists_ofRef_eq_ok_iff.trans ⟨?_, ?_⟩, ofRef_of_not_spells⟩
    · exact fun ⟨letter, ds, h, _⟩ => ⟨letter, ds, h⟩
    · exact fun ⟨letter, ds, h⟩ => ⟨letter, ds, h, hle letter ds h⟩

/-- **Addresses are decoded uniquely.** A text is decoded unless it spells a reference with too many
digits, which is refused with their number; the reference that is written for an address leads to
it; and a text leads to one address with another exactly when they have one letter and the same
digits but for zeros in front. -/
theorem ofRef_decodes (ref : String) :
    (Decodes ref ↔ ∀ letter ds, Spells ref letter ds → ds.length ≤ digitLimit) ∧
    ((∃ a, ofRef ref = .ok a) ↔
      ∃ letter ds, Spells ref letter ds ∧ ds.length ≤ digitLimit) ∧
    ((¬ ∃ letter ds, Spells ref letter ds) →
      ofRef ref = .error (.fault (.invalidReference ref .malformed))) ∧
    (∀ letter ds, Spells ref letter ds → digitLimit < ds.length →
      ofRef ref = .error (.numeralTooLong ds.length)) ∧
    (∀ a : Address, ref = a.reference → 0 ≤ a.row → 1 ≤ a.column → a.column ≤ 26 →
      (digitsOfNat (a.row + 1).toNat).length ≤ digitLimit → ofRef ref = .ok a) ∧
    ∀ ref' letter letter' ds ds' a a', Spells ref letter ds → Spells ref' letter' ds' →
      ofRef ref = .ok a → ofRef ref' = .ok a' →
      (a = a' ↔ letter = letter' ∧ dropZeros ds = dropZeros ds') := by
  refine ⟨decodes_iff, exists_ofRef_eq_ok_iff, ofRef_of_not_spells,
    fun _ _ h hlt => h.ofRef_eq_of_lt hlt, ?_,
    fun _ _ _ _ _ _ _ h h' ha ha' => h.address_eq_iff h' ha ha'⟩
  rintro a rfl hrow hfirst hlast hle
  exact ofRef_reference hrow hfirst hlast hle

/-- A reference with **too many digits**: `A` before 4301 ones. -/
def longReference : String := String.ofList ('A' :: List.replicate 4301 '1')

/-- The long reference spells its letter and its digits. -/
theorem spells_longReference : Spells longReference 'A' (List.replicate 4301 '1') where
  toList_eq := String.toList_ofList
  isCapital := by decide
  areDigits := by
    refine ⟨List.ne_nil_of_length_pos ?_, fun c hc => ?_⟩
    · rw [List.length_replicate]
      decide
    · rw [List.eq_of_mem_replicate hc]
      decide

/-- **A reference with too many digits is not decoded**: it leads to no address, though it spells
one, and is not malformed either. -/
theorem not_ofRef_decodes : ¬ Decodes longReference ∧
    Spells longReference 'A' (List.replicate 4301 '1') ∧ (¬ ∃ a, ofRef longReference = .ok a) ∧
    ofRef longReference ≠ .error (.fault (.invalidReference longReference .malformed)) := by
  have hspells := spells_longReference
  have hlong : ¬ (List.replicate 4301 '1').length ≤ digitLimit := by
    rw [List.length_replicate]
    decide
  refine ⟨fun h => hlong (decodes_iff.mp h _ _ hspells), hspells, ?_, hspells.ofRef_ne_fault⟩
  rintro ⟨a, ha⟩
  exact hlong (hspells.ofRef_eq_ok_iff.mp ha).1

end Address

end SheetFormula
