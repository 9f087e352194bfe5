import Mathlib.Data.List.Chain
import SheetFormula.Proofs.Grammar

/-!
# The Order of Derived Tokens

What the grammar says of tokens one by one and of neighbours, whatever stands around them. A
name among derived tokens names a function, and no sign of addition or subtraction comes right
behind one of multiplication or division, as a product has no empty operands.

## Main results

* `Derives.inOrder`: **derived tokens are in order**.
-/

namespace SheetFormula

namespace Token

/-- A token **may precede** another one unless it multiplies and the other one adds. -/
def MayPrecede (t u : Token) : Prop := t.Multiplies → ¬ u.Adds

/-- A token is **known** unless it is a name that names no function. A sign may have any kind,
also that of a name. -/
def Known (t : Token) : Prop :=
  t.kind = .functionName →
    t.Adds ∨ t.Multiplies ∨ t.IsComma ∨ (Function.ofName? t.text).isSome = true

instance : DecidablePred Known := fun t => inferInstanceAs
  (Decidable (t.kind = .functionName →
    t.Adds ∨ t.Multiplies ∨ t.IsComma ∨ (Function.ofName? t.text).isSome = true))

variable {t : Token}

/-- A token that is no name of a function is known. -/
theorem known_of_kind (h : t.kind ≠ .functionName) : t.Known := fun hkind => absurd hkind h

/-- A sign that adds does not multiply. -/
theorem Adds.not_multiplies (h : t.Adds) : ¬ t.Multiplies := by
  obtain h | h := h <;> simp [Multiplies, h]

/-- A comma does not multiply. -/
theorem IsComma.not_multiplies (h : t.IsComma) : ¬ t.Multiplies := by
  rw [IsComma] at h
  simp [Multiplies, h]

end Token

/-- Tokens are **in order** when each of them is known, neighbours may precede each other, and
the last one does not multiply. -/
structure InOrder (ts : List Token) : Prop where
  known : ∀ t ∈ ts, t.Known
  neighbours : ts.IsChain Token.MayPrecede
  last : ∀ t ∈ ts.getLast?, ¬ t.Multiplies

namespace InOrder

variable {ts us : List Token} {t : Token}

/-- No tokens are in order. -/
theorem nil : InOrder [] := ⟨by simp, .nil, by simp⟩

/-- A known token that does not multiply is in order. -/
theorem singleton (hknown : t.Known) (ht : ¬ t.Multiplies) : InOrder [t] :=
  ⟨by simpa using hknown, .singleton t, by simpa using ht⟩

/-- Tokens in order stay so behind each other with a known token between them, unless it
multiplies and nothing, or a sign, comes next. -/
theorem join (hts : InOrder ts) (hus : InOrder us) (hknown : t.Known)
    (hnext : ∀ u ∈ us.head?, t.MayPrecede u) (hlast : us ≠ [] ∨ ¬ t.Multiplies) :
    InOrder (ts ++ t :: us) := by
  refine ⟨?_, ?_, ?_⟩
  · intro u hu
    obtain hu | hu := List.mem_append.mp hu
    · exact hts.known u hu
    · obtain rfl | hu := List.mem_cons.mp hu
      · exact hknown
      · exact hus.known u hu
  · rw [List.isChain_append]
    refine ⟨hts.neighbours, List.isChain_cons.mpr ⟨hnext, hus.neighbours⟩, ?_⟩
    intro u hu v _ hmultiplies
    exact absurd hmultiplies (hts.last u hu)
  · intro u hu
    cases us with
    | nil =>
        rw [List.getLast?_concat] at hu
        obtain rfl : t = u := Option.some.inj hu
        exact hlast.resolve_left (fun h => h rfl)
    | cons v r =>
        rw [List.getLast?_append_cons] at hu
        exact hus.last u (by simpa using hu)

end InOrder

/-- The symbols of products, which begin with no sign. -/
def Symbol.Unsigned : Symbol → Prop
  | .term | .factor => True
  | _ => False

variable {resolve : String → Except Failure Float}

/-- **Derived tokens are in order**, and those of a product begin with no sign. -/
theorem Derives.inOrder (hresolve : Referring resolve) {s : Symbol} {ts : List Token}
    {f : Formula Float} (h : Derives resolve s ts f) :
    InOrder ts ∧ (s.Unsigned → ∀ t ∈ ts.head?, ¬ t.Adds) := by
  have hgroup : ∀ {ts}, InOrder ts →
      InOrder (Token.openParen :: (ts ++ [Token.closeParen])) := by
    intro ts hts
    have hinside := hts.join .nil (t := Token.closeParen) (Token.known_of_kind (by decide))
      (by simp) (Or.inr (by decide))
    exact InOrder.nil.join hinside (Token.known_of_kind (by decide))
      (fun u _ h => absurd h (by decide)) (Or.inr (by decide))
  have hadd : ∀ {t : Token} {ts us}, t.Adds → InOrder ts → InOrder us →
      InOrder (ts ++ t :: us) := by
    intro t ts us ht hts hus
    exact hts.join hus (fun _ => Or.inl ht) (fun u _ h => absurd h ht.not_multiplies)
      (Or.inr ht.not_multiplies)
  induction h with
  | ofTerm _ ih | oneSlot _ ih | oneArgument _ ih => exact ⟨ih.1, False.elim⟩
  | ofSum _ ht _ ihl ihr | moreSlots _ ht _ ihl ihr => exact ⟨hadd ht ihl.1 ihr.1, False.elim⟩
  | emptySlot => exact ⟨.nil, False.elim⟩
  | filledSlot _ ih => exact ⟨ih.1, False.elim⟩
  | oneFactor _ ih => exact ⟨ih.1, fun _ => ih.2 trivial⟩
  | moreFactors hl ht hr ihl ihr =>
      obtain ⟨u, r, rfl⟩ := List.exists_cons_of_ne_nil (hl.ne_nil.resolve_left id)
      refine ⟨ihl.1.join ihr.1 (fun _ => Or.inr (Or.inl ht)) (fun u hu _ => ihr.2 trivial u hu)
        (Or.inl (hr.ne_nil.resolve_left id)), fun _ => ihl.2 trivial⟩
  | number ht hx =>
      obtain ⟨hadds, hmultiplies⟩ := Token.not_sign fun c hc => toList_ne_of_read hx hc
      exact ⟨.singleton (Token.known_of_kind (by rw [ht]; decide)) hmultiplies,
        fun _ t ht => by cases ht; exact hadds⟩
  | reference ht hx =>
      obtain ⟨hadds, hmultiplies⟩ := Token.not_sign fun c _ => hresolve _ _ hx c
      exact ⟨.singleton (Token.known_of_kind (by rw [ht]; decide)) hmultiplies,
        fun _ t ht => by cases ht; exact hadds⟩
  | group _ ih => exact ⟨hgroup ih.1, fun _ t ht => by cases ht; decide⟩
  | call ht hname _ _ ih =>
      obtain ⟨hadds, hmultiplies⟩ := Token.not_sign fun c _ => toList_ne_of_ofName? hname c
      have hknown : Token.Known _ := fun _ =>
        Or.inr (Or.inr (Or.inr (Option.isSome_iff_exists.mpr ⟨_, hname⟩)))
      exact ⟨InOrder.nil.join (hgroup ih.1) hknown (fun u _ h => absurd h hmultiplies)
        (Or.inr hmultiplies), fun _ t ht => by cases ht; exact hadds⟩
  | moreArguments _ ht _ ihl ihr =>
      exact ⟨ihl.1.join ihr.1 (fun _ => Or.inr (Or.inr (Or.inl ht)))
        (fun u _ h => absurd h ht.not_multiplies) (Or.inr ht.not_multiplies), False.elim⟩

end SheetFormula
