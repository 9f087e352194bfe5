import SheetFormula.Proofs.ReadBack
import SheetFormula.Proofs.SameNumber

/-!
# Printed Formulas as Formulas

The text of a formula is a formula again, of the same result, when its numbers are written
exactly and its negative numbers stand where the grammar takes a sign. Otherwise the text may
not be readable at all, or may have another value.

## Main results

* `Formula.readsBack_readBack`: a faithful formula is read back with the same result.
* `Computation.text_reproduces`: **which printed formulas give the same result**.
-/

namespace SheetFormula

open Double (Same)

/-! ### Outcomes that agree -/

/-- Outcomes **agree** up to a relation when they are values in that relation, or faults of
one kind. -/
inductive Agree {α : Type} (R : α → α → Prop) : Except Failure α → Except Failure α → Prop
  | value {a b : α} : R a b → Agree R (.ok a) (.ok b)
  | fault {f g : Fault} : f.kind = g.kind → Agree R (.error (.fault f)) (.error (.fault g))

/-- Two results are **the same** when they are the same number, or faults of one kind. -/
def SameResult (x y : Except Failure Float) : Prop := Agree Same x y

namespace Agree

variable {α β : Type} {R : α → α → Prop} {S : β → β → Prop}

/-- Two steps agree when the first ones agree and the second ones do on what these give. -/
theorem bind {x y : Except Failure α} {k l : α → Except Failure β} (h : Agree R x y)
    (hk : ∀ a b, R a b → Agree S (k a) (l b)) : Agree S (x >>= k) (y >>= l) := by
  cases h with
  | value hab => exact hk _ _ hab
  | fault hkind => exact .fault hkind

/-- A safe outcome agrees with itself. -/
theorem of_safe (hR : ∀ a, R a a) {x : Except Failure α} (h : Safe x) : Agree R x x := by
  cases h with
  | answer a => exact .value (hR a)
  | fault _ => exact .fault rfl

/-- Outcomes one after another agree when each of them does, and there are as many values. -/
theorem mapM {γ : Type} {k l : γ → Except Failure α} {xs : List γ}
    (h : ∀ x ∈ xs, Agree R (k x) (l x)) :
    Agree (fun as bs => List.Forall₂ R as bs ∧ as.length = xs.length) (xs.mapM k)
      (xs.mapM l) := by
  induction xs with
  | nil => exact .value ⟨.nil, rfl⟩
  | cons x r ih =>
      have hrest := ih (fun y hy => h y (List.mem_cons_of_mem x hy))
      rw [List.mapM_cons, List.mapM_cons]
      refine (h x List.mem_cons_self).bind fun a b hab => ?_
      refine hrest.bind fun as bs habs => .value ⟨.cons hab habs.1, ?_⟩
      rw [List.length_cons, List.length_cons, habs.2]

end Agree

/-! ### Operations and functions on related numbers -/

/-- A relation of doubles that the operations **respect**, where a divisor is zero with the one
it is related to. -/
structure Respected (R : Float → Float → Prop) : Prop where
  operation : ∀ {operator op}, Formula.operation? operator = some op →
    ∀ {x x' y y'}, R x x' → R y y' → R (op x y) (op x' y')
  isZero : ∀ {y y'}, R y y' → (y == 0) = (y' == 0)
  div : ∀ {x x' y y'}, R x x' → R y y' → (y == 0) = false → R (x / y) (x' / y')

/-- All operations respect being equal. -/
theorem respected_eq : Respected Eq where
  operation := by
    intro _ _ _ _ _ _ _ hx hy
    rw [hx, hy]
  isZero hy := by rw [hy]
  div hx hy _ := by rw [hx, hy]

/-- All operations respect being the same number. -/
theorem respected_same : Respected Same where
  operation := by
    intro operator op hop x x' y y' hx hy
    rw [Formula.operation?] at hop
    split_ifs at hop
    · obtain rfl := Option.some.inj hop
      exact hx.add hy
    · obtain rfl := Option.some.inj hop
      exact hx.sub hy
    · obtain rfl := Option.some.inj hop
      exact hx.mul hy
  isZero hy := hy.beq (.refl 0)
  div := Same.div

/-- The operators give outcomes that agree on sides that agree. -/
theorem Respected.agree_binary {R : Float → Float → Prop} (hR : Respected R) {operator : String}
    (hoperator : operator ∈ ["+", "-", "*", "/"]) {l l' r r' : Formula Float}
    (hl : Agree R l'.evaluate l.evaluate) (hr : Agree R r'.evaluate r.evaluate) :
    Agree R (Formula.binary operator l' r').evaluate (Formula.binary operator l r).evaluate := by
  obtain rfl | ⟨op, hop⟩ := Formula.operation?_cases hoperator
  · rw [Formula.evaluate_quotient, Formula.evaluate_quotient]
    refine hr.bind fun y' y hy => ?_
    rw [hR.isZero hy]
    cases hzero : y == 0 with
    | true => exact .fault rfl
    | false =>
        refine hl.bind fun x' x hx => .value (hR.div hx hy ?_)
        rw [hR.isZero hy, hzero]
  · rw [Formula.evaluate_binary hop, Formula.evaluate_binary hop]
    exact hl.bind fun x' x hx => hr.bind fun y' y hy => .value (hR.operation hop hx hy)

/-- The first of some elements is the same number as that of the same numbers. -/
theorem same_firstBy {before : Float → Float → Bool}
    (hbefore : ∀ {x x' y y'}, Same x x' → Same y y' → before x y = before x' y')
    {xs ys : List Float} (h : List.Forall₂ Same xs ys) {x y : Float} (hxy : Same x y) :
    Same (Function.firstBy before x xs) (Function.firstBy before y ys) := by
  induction h generalizing x y with
  | nil => exact hxy
  | @cons a b r s hab _ ih =>
      have hfirst : Same (if before a x then a else x) (if before b y then b else y) := by
        rw [hbefore hab hxy]
        split
        · exact hab
        · exact hxy
      exact ih hfirst

/-- The largest and the smallest of the same numbers are the same number. -/
theorem agree_apply_same {g : Function} (hg : g ∈ [Function.max, .min]) {xs ys : List Float}
    (htakes : g.takes xs.length = true) (h : List.Forall₂ Same xs ys) :
    Agree Same (Arithmetic.floats.apply g xs) (Arithmetic.floats.apply g ys) := by
  obtain ⟨x, r, rfl⟩ := Function.eq_cons_of_takes htakes
  obtain - | ⟨hxy, hrs⟩ := h
  simp only [List.mem_cons, List.not_mem_nil, or_false] at hg
  obtain rfl | rfl := hg
  · refine .value (same_firstBy (fun hx hy => ?_) hrs hxy)
    simp only [decide_eq_decide]
    exact hy.lt hx
  · refine .value (same_firstBy (fun hx hy => ?_) hrs hxy)
    simp only [decide_eq_decide]
    exact hx.lt hy

namespace Formula

/-! ### Formulas that are read back -/

/-- A formula is **exact** when reading its text loses the sign of no zero: none of its numbers
is a negative zero, and no negative number stands alone before a sign of multiplication or
division, where it would turn the sign of the whole product. -/
inductive Exact : Formula Float → Prop
  | leaf {x : Float} : (isMinus x = true → (x == 0) = false) → Exact (.leaf x)
  | binary {operator : String} {l r : Formula Float} : Exact l → Exact r →
      (operator ∈ ["+", "-"] ∨ negative? l = none) → Exact (.binary operator l r)
  | call {g : Function} {args : List (Formula Float)} : (∀ f ∈ args, Exact f) →
      Exact (.call g args)

/-- A formula is **faithful** when its text is a formula of the same result by its form alone:
each number is written in digits that read as it, a negative number that stands alone on the
right side of an operation is added, and the functions that may tell the two zeros apart are
called with exact arguments. -/
inductive Faithful : Formula Float → Prop
  | leaf {x : Float} : IsLegible x → Decimal.read? (numberText x) = some x → Faithful (.leaf x)
  | binary {operator : String} {l r : Formula Float} : Faithful l → Faithful r →
      (operator = "+" ∨ negative? r = none) → Faithful (.binary operator l r)
  | call {g : Function} {args : List (Formula Float)} : (∀ f ∈ args, Faithful f) →
      (g ∈ [Function.max, .min] ∨ ∀ f ∈ args, Exact f) → Faithful (.call g args)

variable {f : Formula Float}

/-- The numbers of a faithful formula can be read back. -/
theorem Faithful.legible (h : f.Faithful) : f.Legible := by
  induction h with
  | leaf hx _ => exact .leaf hx
  | binary _ _ hsign ihl ihr =>
      refine .binary ihl ihr (hsign.imp_left ?_)
      rintro rfl
      decide
  | call _ _ ih => exact .call ih

/-- A faithful negative number that stands alone is the negative of its size. -/
theorem Faithful.eq_leaf (h : f.Faithful) {y : Float} (hy : negative? f = some y) :
    f = .leaf (-y) ∧ isMinus (-y) = true := by
  cases h with
  | @leaf x hx hread =>
      have hsize := eq_size hx hread
      cases hminus : isMinus x with
      | false =>
          rw [negative?, hminus] at hy
          cases hy
      | true =>
          rw [negative?, hminus, if_pos rfl] at hy
          rw [hminus, if_pos rfl, Option.some.inj hy] at hsize
          exact ⟨by rw [hsize], hsize ▸ hminus⟩
  | binary | call => cases hy

/-- What a formula is **read back as** has the same result, and exactly that of an exact
formula, up to the fault. -/
structure ReadsBack (f g : Formula Float) : Prop where
  same : Agree Same g.evaluate f.evaluate
  exact : f.Exact → Agree Eq g.evaluate f.evaluate

/-- A well formed formula reads back as itself. -/
theorem ReadsBack.refl (hf : f.WellFormed) : ReadsBack f f :=
  ⟨.of_safe .refl hf.safe, fun _ => .of_safe (fun _ => rfl) hf.safe⟩

/-- A negative number that stands alone is read back as a difference from zero. -/
theorem readsBack_minus {y : Float} (hminus : isMinus (-y) = true) :
    ReadsBack (.leaf (-y)) (.binary "-" (.leaf 0) (.leaf y)) := by
  have heval : (binary "-" (leaf 0) (leaf y)).evaluate = .ok (0 - y) := by
    rw [evaluate_difference, evaluate_leaf, evaluate_leaf]
    rfl
  constructor
  · rw [heval, evaluate_leaf]
    exact .value (Double.same_zero_sub y)
  · rintro (hzero | - | -)
    have hne := hzero hminus
    rw [Double.neg_beq_zero] at hne
    rw [heval, evaluate_leaf]
    exact .value (Double.zero_sub_of_ne hne)

/-- Sides that are read back, with an operator between them that stays where it is. -/
theorem ReadsBack.binary {operator : String} (hoperator : operator ∈ ["+", "-", "*", "/"])
    {l l' r r' : Formula Float} (hl : ReadsBack l l') (hr : ReadsBack r r') :
    ReadsBack (.binary operator l r) (.binary operator l' r') := by
  constructor
  · exact respected_same.agree_binary hoperator hl.same hr.same
  · rintro (- | ⟨hexactl, hexactr, -⟩ | -)
    exact respected_eq.agree_binary hoperator (hl.exact hexactl) (hr.exact hexactr)

/-- A negative number that is added is subtracted behind an empty operand. -/
theorem readsBack_sum {l l' : Formula Float} (hl : ReadsBack l l') {y : Float}
    (hminus : isMinus (-y) = true) :
    ReadsBack (.binary "+" l (.leaf (-y))) (.binary "-" (.binary "+" l' (.leaf 0)) (.leaf y)) := by
  have hevalback : (Formula.binary "-" (.binary "+" l' (.leaf 0)) (.leaf y)).evaluate = (do
      let x ← l'.evaluate
      pure (x + 0 - y)) := by
    rw [evaluate_difference, evaluate_sum, evaluate_leaf, evaluate_leaf, bind_assoc]
    rfl
  have heval : (Formula.binary "+" l (.leaf (-y))).evaluate = (do
      let x ← l.evaluate
      pure (x + -y)) := by
    rw [evaluate_sum, evaluate_leaf]
    rfl
  constructor
  · rw [hevalback, heval]
    refine hl.same.bind fun x' x hx => .value ?_
    rw [Double.sub_eq_add_neg]
    exact ((Double.same_add_zero x').trans hx).add (.refl (-y))
  · rintro (- | ⟨hexactl, ⟨hzero⟩, -⟩ | -)
    rw [hevalback, heval]
    refine (hl.exact hexactl).bind fun x' x hx => .value ?_
    rw [hx, Double.sub_eq_add_neg, Double.add_zero_add (hzero hminus)]

/-- The sign of a factor is that of the product. -/
theorem evaluate_neg_left {operator : String} (hoperator : operator = "*" ∨ operator = "/")
    (y : Float) (r : Formula Float) :
    (binary operator (leaf (-y)) r).evaluate = (do
      let z ← (binary operator (leaf y) r).evaluate
      pure (-z)) := by
  obtain rfl | rfl := hoperator
  · rw [evaluate_product, evaluate_product, evaluate_leaf, evaluate_leaf]
    cases r.evaluate with
    | error e => rfl
    | ok b => exact congrArg Except.ok (Double.neg_mul y b)
  · rw [evaluate_quotient, evaluate_quotient, evaluate_leaf, evaluate_leaf]
    cases r.evaluate with
    | error e => rfl
    | ok b =>
        change (if b == 0 then _ else _) = (if b == 0 then _ else _) >>= _
        cases b == 0 with
        | true => rfl
        | false => exact congrArg Except.ok (Double.neg_div y b)

/-- A negative first factor is read back as the product taken from zero. -/
theorem readsBack_product {operator : String} (hoperator : operator = "*" ∨ operator = "/")
    {r r' : Formula Float} (hr : ReadsBack r r') {y : Float} (hminus : isMinus (-y) = true) :
    ReadsBack (.binary operator (.leaf (-y)) r)
      (.binary "-" (.leaf 0) (.binary operator (.leaf y) r')) := by
  have hmem : operator ∈ ["+", "-", "*", "/"] := by
    obtain rfl | rfl := hoperator <;> decide
  constructor
  · have hproduct := ((ReadsBack.refl (.leaf y)).binary hmem hr).same
    rw [evaluate_difference, evaluate_leaf, evaluate_neg_left hoperator]
    exact hproduct.bind fun z' z hz => .value ((Double.same_zero_sub z').trans hz.neg)
  · rintro (- | ⟨-, -, hsign | hnegative⟩ | -)
    · obtain rfl | rfl := hoperator <;> exact absurd hsign (by decide)
    · rw [negative?, hminus] at hnegative
      cases hnegative

/-- Sides that are read back, **joined again** by their operator. -/
theorem ReadsBack.rejoin {operator : String} (hoperator : operator ∈ ["+", "-", "*", "/"])
    {l l' r r' : Formula Float} (hl : ReadsBack l l') (hr : ReadsBack r r')
    (hfaithfull : l.Faithful) (hfaithfulr : r.Faithful)
    (hsign : operator = "+" ∨ negative? r = none) :
    ReadsBack (.binary operator l r) (Formula.rejoin operator l r l' r') := by
  rw [Formula.rejoin]
  cases hright : negative? r with
  | some y =>
      obtain rfl := hsign.resolve_right (by simp [hright])
      obtain ⟨rfl, hminus⟩ := hfaithfulr.eq_leaf hright
      exact readsBack_sum hl hminus
  | none =>
      cases hleft : negative? l with
      | none => exact hl.binary hoperator hr
      | some y =>
          obtain ⟨rfl, hminus⟩ := hfaithfull.eq_leaf hleft
          dsimp only
          split
          · exact hl.binary hoperator hr
          · rename_i hmem
            have hproduct : operator = "*" ∨ operator = "/" := by
              simp only [List.mem_cons, List.not_mem_nil, or_false, not_or] at hoperator hmem
              exact (hoperator.resolve_left hmem.1).resolve_left hmem.2
            exact readsBack_product hproduct hr hminus

/-- Calls agree when their arguments do and the function makes nothing of the difference. -/
theorem agree_call {R S : Float → Float → Prop} {g : Function} {args : List (Formula Float)}
    (htakes : g.takes args.length = true)
    (hargs : ∀ f ∈ args, Agree S f.readBack.evaluate f.evaluate)
    (happly : ∀ xs ys, g.takes xs.length = true → List.Forall₂ S xs ys →
      Agree R (Arithmetic.floats.apply g xs) (Arithmetic.floats.apply g ys)) :
    Agree R (call g args).readBack.evaluate (call g args).evaluate := by
  rw [readBack, evaluate_call, evaluate_call, readBackList_eq_map, List.mapM_map]
  refine (Agree.mapM hargs).bind fun xs ys h => happly xs ys ?_ h.1
  rw [h.2]
  exact htakes

/-- **A faithful formula is read back** with the same result. -/
theorem readsBack_readBack (hf : f.WellFormed) (h : f.Faithful) : ReadsBack f f.readBack := by
  induction f using Formula.induction with
  | leaf x =>
      obtain ⟨hx, hread⟩ := h
      have hsize := eq_size hx hread
      cases hminus : isMinus x with
      | false =>
          rw [hminus, if_neg Bool.false_ne_true] at hsize
          rw [readBack, hminus, if_neg Bool.false_ne_true, ← hsize]
          exact .refl hf
      | true =>
          rw [hminus, if_pos rfl] at hsize
          have hback := readsBack_minus (hsize ▸ hminus)
          rw [← hsize] at hback
          rwa [readBack, hminus, if_pos rfl]
  | binary operator l r ihl ihr =>
      obtain - | ⟨hoperator, hl, hr⟩ := hf
      obtain - | ⟨hfaithfull, hfaithfulr, hsign⟩ := h
      rw [readBack]
      exact (ihl hl hfaithfull).rejoin hoperator (ihr hr hfaithfulr) hfaithfull hfaithfulr hsign
  | call g args ih =>
      obtain - | - | ⟨htakes, hargs⟩ := hf
      obtain - | - | ⟨hfaithful, hzeros⟩ := h
      have hback : ∀ f ∈ args, ReadsBack f f.readBack := fun f hf =>
        ih f hf (hargs f hf) (hfaithful f hf)
      have hequal : ∀ {R : Float → Float → Prop}, (∀ x, R x x) → (∀ f ∈ args, f.Exact) →
          Agree R (call g args).readBack.evaluate (call g args).evaluate := by
        intro R hR hexact
        refine agree_call htakes (fun f hf => (hback f hf).exact (hexact f hf)) ?_
        intro xs ys hxs hxys
        rw [List.forall₂_eq_eq_eq] at hxys
        exact hxys ▸ .of_safe hR (Function.safe_apply hxs)
      constructor
      · obtain hg | hexact := hzeros
        · exact agree_call htakes (fun f hf => (hback f hf).same)
            (fun xs ys hxs hxys => agree_apply_same hg hxs hxys)
        · exact hequal .refl hexact
      · rintro (- | - | hexact)
        exact hequal (fun _ => rfl) hexact

end Formula

/-- A formula **reproduces** when its text is a formula again that has the same result. -/
def Formula.Reproduces (f : Formula Float) : Prop :=
  ∃ g, (Computation.compile none f.text).outcome = .ok g ∧ SameResult g.evaluate f.evaluate

namespace Computation

/-- **Which printed formulas give the same result.** The text of a formula that was compiled is
a formula again exactly when it is legible, and it is known which one it is. It has the same
result when this one does, and it is enough that the formula is faithful. -/
theorem text_reproduces {grid : Option Grid} {text : String} {f : Formula Float}
    (h : (compile grid text).outcome = .ok f) :
    (∀ g, (compile none f.text).outcome = .ok g ↔ f.Legible ∧ g = f.readBack) ∧
    (f.Reproduces ↔ f.Legible ∧ SameResult f.readBack.evaluate f.evaluate) ∧
    (f.Faithful → f.Reproduces) := by
  have hf := wellFormed_of_compile h
  have hcompile : ∀ g, (compile none f.text).outcome = .ok g ↔ f.Legible ∧ g = f.readBack :=
    fun g => compile_text_iff hf
  have hreproduces :
      f.Reproduces ↔ f.Legible ∧ SameResult f.readBack.evaluate f.evaluate := by
    constructor
    · rintro ⟨g, hg, hsame⟩
      obtain ⟨hlegible, rfl⟩ := (hcompile g).mp hg
      exact ⟨hlegible, hsame⟩
    · rintro ⟨hlegible, hsame⟩
      exact ⟨f.readBack, (hcompile _).mpr ⟨hlegible, rfl⟩, hsame⟩
  refine ⟨hcompile, hreproduces, fun hfaithful => hreproduces.mpr ⟨hfaithful.legible, ?_⟩⟩
  exact (Formula.readsBack_readBack hf hfaithful).same

/-- With minus one in the cell `A1`, the formula `=A1*2` is printed as a formula again, which
has the same result. -/
theorem text_reproduces_product : ∃ (g : Grid) (f : Formula Float),
    g = ⟨.frame ⟨["label", "A"], [[some "r", some "-1"]]⟩, none⟩ ∧
    (compile (some g) "=A1*2").outcome = .ok f ∧ f.text = "(-1 * 2)" ∧
    (∀ h, (compile none f.text).outcome = .ok h ↔ f.Legible ∧ h = f.readBack) ∧
    f.Faithful ∧ f.Reproduces := by
  let g : Grid := ⟨.frame ⟨["label", "A"], [[some "r", some "-1"]]⟩, none⟩
  have htokens : tokenize "=A1*2" =
      .ok [⟨.cellReference, "A1"⟩, ⟨.operator, "*"⟩, ⟨.number, "2"⟩] := by
    have hchars : formulaChars "=A1*2" = (true, ['A', '1', '*', '2']) := by decide
    have hreference : Lexeme.next? ['A', '1', '*', '2'] =
        some (⟨.cellReference, ['A', '1']⟩, ['*', '2']) := by decide
    have hnumber : Lexeme.next? ['2'] = some (⟨.number, ['2']⟩, []) := by decide
    rw [tokenize, hchars]
    simp only [Lexeme.scan_of_next? hreference, Lexeme.scan_sign (c := '*') rfl,
      Lexeme.scan_of_next? hnumber, Lexeme.scan_nil]
    decide
  have hreference : Derives (resolve (some g)) .term [⟨.cellReference, "A1"⟩] (.leaf (-1)) :=
    .oneFactor (.reference rfl rfl)
  have hproduct := hreference.moreFactors (t := ⟨.operator, "*"⟩) (Or.inl rfl)
    (.number (t := ⟨.number, "2"⟩) (x := 2) rfl (by decide))
  have hcompile := (outcome_compile_of_tokenize htokens).mpr hproduct.ofTerm
  have hfaithful : (Formula.binary "*" (.leaf (-1)) (.leaf 2)).Faithful := by
    have hone : Formula.IsLegible (-1) := Formula.isLegible_of_digit (d := '1') rfl (by decide)
    have htwo : Formula.IsLegible 2 := Formula.isLegible_of_digit (d := '2') rfl (by decide)
    have hsign : Formula.negative? (.leaf 2) = none := by decide
    exact .binary (.leaf hone (by decide)) (.leaf htwo (by decide)) (Or.inr hsign)
  obtain ⟨hiff, -, hreproduces⟩ := text_reproduces hcompile
  exact ⟨g, _, rfl, hcompile, by decide, hiff, hfaithful, hreproduces hfaithful⟩

/-- With minus one in the cell `A1`, the formula `=2*A1` has the value minus two, and its text
`(2 * -1)` is no formula. -/
theorem not_reproduces_product : ∃ (g : Grid) (f : Formula Float),
    g = ⟨.frame ⟨["label", "A"], [[some "r", some "-1"]]⟩, none⟩ ∧
    (compile (some g) "=2*A1").outcome = .ok f ∧ f.evaluate = .ok (-2) ∧ f.text = "(2 * -1)" ∧
    (∀ h, (compile none f.text).outcome ≠ .ok h) ∧ ¬ f.Reproduces := by
  let g : Grid := ⟨.frame ⟨["label", "A"], [[some "r", some "-1"]]⟩, none⟩
  have htokens : tokenize "=2*A1" =
      .ok [⟨.number, "2"⟩, ⟨.operator, "*"⟩, ⟨.cellReference, "A1"⟩] := by
    have hchars : formulaChars "=2*A1" = (true, ['2', '*', 'A', '1']) := by decide
    have hnumber : Lexeme.next? ['2', '*', 'A', '1'] =
        some (⟨.number, ['2']⟩, ['*', 'A', '1']) := by decide
    have hreference : Lexeme.next? ['A', '1'] = some (⟨.cellReference, ['A', '1']⟩, []) := by
      decide
    rw [tokenize, hchars]
    simp only [Lexeme.scan_of_next? hnumber, Lexeme.scan_sign (c := '*') rfl,
      Lexeme.scan_of_next? hreference, Lexeme.scan_nil]
    decide
  have htwo : Derives (resolve (some g)) .term [⟨.number, "2"⟩] (.leaf 2) :=
    .oneFactor (.number rfl (by decide))
  have hproduct := htwo.moreFactors (t := ⟨.operator, "*"⟩) (Or.inl rfl)
    (.reference (t := ⟨.cellReference, "A1"⟩) (x := -1) rfl rfl)
  have hcompile := (outcome_compile_of_tokenize htokens).mpr hproduct.ofTerm
  have hnone : ∀ h, (compile none (Formula.binary "*" (.leaf 2) (.leaf (-1))).text).outcome ≠
      .ok h := by
    intro h hok
    obtain ⟨hlegible, -⟩ := (compile_text_iff (wellFormed_of_compile hcompile)).mp hok
    obtain - | ⟨-, -, hsign | hnegative⟩ | - := hlegible
    · exact absurd hsign (by decide)
    · exact absurd hnegative (by decide)
  have hvalue : (Formula.binary "*" (.leaf 2) (.leaf (-1))).evaluate = .ok (-2) := by
    have hmul : (2 * -1 : Float) = -2 := by decide
    rw [Formula.evaluate_product, Formula.evaluate_leaf, Formula.evaluate_leaf, ← hmul]
    rfl
  refine ⟨g, _, rfl, hcompile, hvalue, by decide, hnone, ?_⟩
  rintro ⟨h, hok, -⟩
  exact hnone h hok

end Computation

end SheetFormula
