/-!
# Decimal Digits

The characters of all scripts that stand for the digits zero to nine in decimal notation.
Each script has its ten digits at consecutive code points, so a table of the zeros is
enough. The table is that of Unicode 14.
-/

namespace SheetFormula.Text

/-- The code points of the **zeros** of all scripts, in ascending order. -/
def zeros : List Nat :=
  [0x30, 0x660, 0x6f0, 0x7c0, 0x966, 0x9e6, 0xa66, 0xae6, 0xb66, 0xbe6, 0xc66, 0xce6, 0xd66,
   0xde6, 0xe50, 0xed0, 0xf20, 0x1040, 0x1090, 0x17e0, 0x1810, 0x1946, 0x19d0, 0x1a80, 0x1a90,
   0x1b50, 0x1bb0, 0x1c40, 0x1c50, 0xa620, 0xa8d0, 0xa900, 0xa9d0, 0xa9f0, 0xaa50, 0xabf0,
   0xff10, 0x104a0, 0x10d30, 0x11066, 0x110f0, 0x11136, 0x111d0, 0x112f0, 0x11450, 0x114d0,
   0x11650, 0x116c0, 0x11730, 0x118e0, 0x11950, 0x11c50, 0x11d50, 0x11da0, 0x16a60, 0x16ac0,
   0x16b50, 0x1d7ce, 0x1d7d8, 0x1d7e2, 0x1d7ec, 0x1d7f6, 0x1e140, 0x1e2f0, 0x1e950, 0x1fbf0]

/-- The value of a decimal digit of any script. -/
def digitValue? (c : Char) : Option Nat :=
  (zeros.find? fun z => z ≤ c.toNat && c.toNat ≤ z + 9).map (c.toNat - ·)

/-- The ASCII digit of a value below ten. -/
def digitChar (n : Nat) : Char := Char.ofNat ('0'.toNat + n)

/-- Whether the character is an ASCII digit. -/
def isDigit (c : Char) : Bool := '0' ≤ c && c ≤ '9'

/-- The value of an ASCII digit. -/
def digitOf (c : Char) : Nat := c.toNat - '0'.toNat

/-- The value of an ASCII digit is below ten. -/
theorem digitOf_lt {c : Char} (h : isDigit c = true) : digitOf c < 10 := by
  simp only [isDigit, Bool.and_eq_true, decide_eq_true_eq, Char.le_def,
    UInt32.le_iff_toNat_le] at h
  have hle : c.toNat ≤ 57 := h.2
  rw [digitOf]
  change c.toNat - 48 < 10
  omega

/-- An ASCII digit is that of its value. -/
theorem digitChar_digitOf {c : Char} (h : isDigit c = true) : digitChar (digitOf c) = c := by
  simp only [isDigit, Bool.and_eq_true, decide_eq_true_eq, Char.le_def,
    UInt32.le_iff_toNat_le] at h
  have hle : 48 ≤ c.toNat := h.1
  have hsum : 48 + (c.toNat - 48) = c.toNat := by omega
  change Char.ofNat (48 + (c.toNat - 48)) = c
  rw [hsum, Char.ofNat_toNat]

/-- What holds of the ten ASCII digits holds of every character that is one. -/
theorem forall_isDigit {P : Char → Prop} (h : ∀ n < 10, P (digitChar n)) {c : Char}
    (hc : isDigit c = true) : P c := by
  have hdigit := h (digitOf c) (digitOf_lt hc)
  rwa [digitChar_digitOf hc] at hdigit

/-- The natural number that a list of ASCII digits writes. -/
def natOfDigits (cs : List Char) : Nat := cs.foldl (fun n c => n * 10 + digitOf c) 0

/-- A digit at the end makes the digits before it count ten times. -/
theorem natOfDigits_concat (cs : List Char) (c : Char) :
    natOfDigits (cs ++ [c]) = natOfDigits cs * 10 + digitOf c := by
  rw [natOfDigits, List.foldl_append]
  rfl

/-- The ASCII digits of a natural number. -/
def digitsOfNat (n : Nat) : List Char := Nat.toDigits 10 n

/-- A list of characters with each digit, of whatever script, replaced by the ASCII digit
of its value. -/
def asciiDigits (cs : List Char) : List Char :=
  cs.map fun c => match digitValue? c with
    | some d => digitChar d
    | none => c

example : digitValue? '7' = some 7 ∧ digitValue? '\u0663' = some 3 ∧ digitValue? 'x' = none := by
  decide

end SheetFormula.Text
