/-!
# Loose Texts

A character beyond sixteen bits is written as two code units, its halves. A text that was put
together from code units may hold a half that stands alone. Such a text is no text of characters:
it can be kept and compared, but it cannot be printed.
-/

namespace SheetFormula

/-- A **half** of a character: a code unit that writes a character with another half only. -/
structure Half where
  unit : Nat
  isHalf : 0xd800 ≤ unit ∧ unit < 0xe000
  deriving DecidableEq, Repr

/-- What a text that was put together from code units consists of. -/
inductive Letter
  | whole (c : Char)
  | half (h : Half)
  deriving DecidableEq, Repr

namespace Letter

/-- The letter with a code below `0x110000`. -/
def ofNat (n : Nat) : Letter :=
  if h : 0xd800 ≤ n ∧ n < 0xe000 then half ⟨n, h⟩ else whole (Char.ofNat n)

/-- The letter with a code, if there is one. -/
def ofNat? (n : Nat) : Option Letter := if n < 0x110000 then some (ofNat n) else none

/-- Whether the letter is a half of a character. -/
def isHalf : Letter → Bool
  | whole _ => false
  | half _ => true

/-- The character that a letter is, or the given one for a half. -/
def charOr (filler : Char) : Letter → Char
  | whole c => c
  | half _ => filler

end Letter

/-- A **loose text**: a text of characters, or letters with a half among them. -/
inductive LooseText
  | whole (s : String)
  | torn (letters : List Letter) (hasHalf : letters.any Letter.isHalf = true)
  deriving DecidableEq, Repr

namespace LooseText

instance : Coe String LooseText := ⟨whole⟩

/-- The letters of a loose text. -/
def letters : LooseText → List Letter
  | whole s => s.toList.map .whole
  | torn letters _ => letters

/-- The loose text of letters. -/
def ofLetters (letters : List Letter) : LooseText :=
  if h : letters.any Letter.isHalf = true then torn letters h
  else whole (String.ofList (letters.map (Letter.charOr '\ufffd')))

/-- The **text of characters** that a loose text is, if it is one. -/
def string? : LooseText → Option String
  | whole s => some s
  | torn .. => none

/-- The text with a character in place of each half. -/
def filledWith (filler : Char) : LooseText → String
  | whole s => s
  | torn letters _ => String.ofList (letters.map fun l => l.charOr filler)

/-- The text with the halves in it replaced. -/
def replaced : LooseText → String := filledWith '\ufffd'

/-- Whether there is nothing in the text. -/
def isEmpty : LooseText → Bool
  | whole s => s.isEmpty
  | torn .. => false

/-- Letters that are characters make a text of them. -/
theorem ofLetters_map_whole (cs : List Char) :
    ofLetters (cs.map Letter.whole) = whole (String.ofList cs) := by
  have hwhole : (cs.map Letter.whole).any Letter.isHalf ≠ true := by
    rw [Ne, List.any_map, List.any_eq_true]
    rintro ⟨c, -, hc⟩
    cases hc
  rw [ofLetters, dif_neg hwhole, List.map_map]
  exact congrArg (whole ∘ String.ofList) (List.map_id cs)

end LooseText

end SheetFormula
