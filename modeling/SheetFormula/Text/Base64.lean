/-!
# Bytes in Base64

Four characters of an alphabet of sixty-four write three bytes. Characters outside of the
alphabet count for nothing. Equals signs fill the last group up and end the text.
-/

namespace SheetFormula.Text

/-- The number that a character of the alphabet stands for. -/
def sextet? (c : Char) : Option Nat :=
  if 'A' ≤ c ∧ c ≤ 'Z' then some (c.toNat - 'A'.toNat)
  else if 'a' ≤ c ∧ c ≤ 'z' then some (c.toNat - 'a'.toNat + 26)
  else if '0' ≤ c ∧ c ≤ '9' then some (c.toNat - '0'.toNat + 52)
  else if c = '+' then some 62
  else if c = '/' then some 63
  else none

/-- The bytes of a text after the first `place` characters of a group, whose last bits are
`left`, and after `fill` equals signs. -/
def base64From (place left fill : Nat) : List Char → Option (List UInt8)
  | [] => if place = 0 then some [] else none
  | c :: r =>
      if c = '=' then
        if place < 2 then base64From place left fill r
        else if 4 ≤ place + fill + 1 then some []
        else base64From place left (fill + 1) r
      else match sextet? c with
        | none => base64From place left fill r
        | some n =>
            if place = 0 then base64From 1 n 0 r
            else if place = 1 then
              (base64From 2 (n % 16) 0 r).map (UInt8.ofNat (left * 4 + n / 16) :: ·)
            else if place = 2 then
              (base64From 3 (n % 4) 0 r).map (UInt8.ofNat (left * 16 + n / 4) :: ·)
            else (base64From 0 0 0 r).map (UInt8.ofNat (left * 64 + n) :: ·)

/-- The **bytes** that a text writes in base64, none when its last group is not full. -/
def base64? (cs : List Char) : Option (List UInt8) := base64From 0 0 0 cs

example : base64? "aGk=".toList = some [104, 105] ∧ base64? "aG".toList = none := by decide

end SheetFormula.Text
