import SheetFormula.Proofs.JsonNumbers

/-!
# JSON Values Read Back

A value on one line is read as the value, when it has no infinite double, no integer beyond
the digit limit, and in each record each name once. The line holds printable ASCII characters
only, so that it is a line of its own wherever it is written.

## Main results

* `Json.elements_joined`, `Json.members_joined`: items and fields are read up to their closing
  bracket.
* `Json.Proper.writes`: **a proper value is read from its line**, whatever follows it.
-/

namespace SheetFormula.Json

open Text (isDigit)
open Decimal (digitLimit writable intText)

/-- A **proper** value: its integers stay within the digit limit, its doubles satisfy `p`, and
each name in a record occurs once. -/
inductive Proper (p : Float → Prop) : Json → Prop
  | null : Proper p .null
  | bool (b : Bool) : Proper p (.bool b)
  | whole {i : Int} : writable i = true → Proper p (.whole i)
  | real {x : Float} : p x → Proper p (.real x)
  | text (s : String) : Proper p (.text s)
  | list {items : List Json} : (∀ j ∈ items, Proper p j) → Proper p (.list items)
  | record {fields : List (String × Json)} : (fields.map Prod.fst).Nodup →
      (∀ f ∈ fields, Proper p f.2) → Proper p (.record fields)

/-- Some characters **write** a value: they are printable, and wherever they stand they are
read as the value. -/
structure Writes (text : List Char) (j : Json LooseText) : Prop where
  shown : ∀ c ∈ text, IsShown c
  begins : ∃ c r, text = c :: r ∧ isSpace c = false ∧ c ≠ ']'
  reads : ∀ {fuel : Nat} {rest : List Char}, text.length ≤ fuel → EndsValue rest →
    value (some digitLimit) fuel (text ++ rest) = .ok (j, rest)

/-! ### Single values -/

/-- Nothing is skipped in front of a character that is no space. -/
theorem skip_cons {c : Char} (hc : isSpace c = false) (r : List Char) : skip (c :: r) = c :: r := by
  rw [skip, List.dropWhile_cons_of_neg (by rw [hc]; decide)]

/-- Nothing is skipped in front of the text of a value. -/
theorem Writes.skip_append {text : List Char} {j : Json LooseText} (h : Writes text j)
    (r : List Char) :
    skip (text ++ r) = text ++ r := by
  obtain ⟨c, s, rfl, hc, -⟩ := h.begins
  exact skip_cons hc (s ++ r)

/-- A text that begins like none of the names of values is not read as one. -/
theorem named?_eq_none {cs : List Char}
    (h : ∀ name ∈ names.map Prod.fst, name.toList.isPrefixOf cs = false) : named? cs = none := by
  rw [named?, List.findSome?_eq_none_iff]
  rintro ⟨name, v⟩ hname
  have hprefix := h name (List.mem_map_of_mem (f := Prod.fst) hname)
  simp only [after?, hprefix, Bool.false_eq_true, if_false, Option.map_none]

/-- The text of a number is none of the names of values. -/
theorem named?_signed {d : Char} (hd : isDigit d = true) (negative : Bool) (r : List Char) :
    named? (signed negative (d :: r)) = none := by
  have hletters : ('n' == d) = false ∧ ('t' == d) = false ∧ ('f' == d) = false ∧
      ('N' == d) = false ∧ ('I' == d) = false ∧ ('-' == d) = false :=
    Text.forall_isDigit (P := fun d => ('n' == d) = false ∧ ('t' == d) = false ∧
      ('f' == d) = false ∧ ('N' == d) = false ∧ ('I' == d) = false ∧ ('-' == d) = false)
      (by decide) hd
  have hnames : names.map Prod.fst = ["null", "true", "false", "NaN", "Infinity", "-Infinity"] :=
    rfl
  apply named?_eq_none
  rw [hnames]
  cases negative with
  | false => simp [signed, List.isPrefixOf, hletters]
  | true => simp [signed, List.isPrefixOf, hletters]

/-- The text of a number is read as a number. -/
theorem value_signed {d : Char} (hd : isDigit d = true) (negative : Bool) (r : List Char)
    (limit : Option Nat) (fuel : Nat) :
    value limit (fuel + 1) (signed negative (d :: r)) =
      number limit (signed negative (d :: r)) := by
  have hbegins : ∃ c s, signed negative (d :: r) = c :: s ∧ c ∉ ['"', '[', '\x7b'] := by
    cases negative with
    | false =>
        exact ⟨d, r, rfl, Text.forall_isDigit (P := (· ∉ ['"', '[', '\x7b'])) (by decide) hd⟩
    | true => exact ⟨'-', d :: r, rfl, by decide⟩
  obtain ⟨c, s, heq, hc⟩ := hbegins
  have hnamed := named?_signed hd negative r
  rw [heq] at hnamed ⊢
  rw [value, hnamed]
  · rintro _ ⟨rfl, rfl⟩
    exact absurd hc (by decide)
  · rintro _ ⟨rfl, rfl⟩
    exact absurd hc (by decide)
  · rintro _ ⟨rfl, rfl⟩
    exact absurd hc (by decide)

/-- A text that looks like a number writes the number that it is read as. -/
theorem writes_number {text : List Char} {j : Json LooseText} (hnumeric : LooksNumeric text)
    (hread : ∀ rest, EndsValue rest → number (some digitLimit) (text ++ rest) = .ok (j, rest)) :
    Writes text j := by
  obtain ⟨negative, d, r, hd, rfl⟩ := hnumeric.begins
  refine ⟨hnumeric.shown, ?_, fun {fuel rest} hfuel hrest => ?_⟩
  · cases negative with
    | false =>
        exact ⟨d, r, rfl, Text.forall_isDigit (P := fun d => isSpace d = false ∧ d ≠ ']')
          (by decide) hd⟩
    | true => exact ⟨'-', d :: r, rfl, by decide⟩
  · have hpos : 0 < (signed negative (d :: r)).length := by
      cases negative <;> exact Nat.succ_pos _
    obtain ⟨fuel, rfl⟩ : ∃ n, fuel = n + 1 := ⟨fuel - 1, by omega⟩
    have hnumber := hread rest hrest
    rw [signed_append, List.cons_append] at hnumber ⊢
    rw [value_signed hd, hnumber]

/-- The word `null` writes the missing value. -/
theorem writes_null : Writes ['n', 'u', 'l', 'l'] .null := by
  refine ⟨by simp [IsShown], ⟨_, _, rfl, rfl, by decide⟩, fun {fuel rest} hfuel _ => ?_⟩
  obtain ⟨fuel, rfl⟩ : ∃ n, fuel = n + 1 := ⟨fuel - 1, by simp at hfuel; omega⟩
  rfl

/-- The word `true` writes the truth value. -/
theorem writes_true : Writes ['t', 'r', 'u', 'e'] (.bool true) := by
  refine ⟨by simp [IsShown], ⟨_, _, rfl, rfl, by decide⟩, fun {fuel rest} hfuel _ => ?_⟩
  obtain ⟨fuel, rfl⟩ : ∃ n, fuel = n + 1 := ⟨fuel - 1, by simp at hfuel; omega⟩
  rfl

/-- The word `false` writes the other truth value. -/
theorem writes_false : Writes ['f', 'a', 'l', 's', 'e'] (.bool false) := by
  refine ⟨by simp [IsShown], ⟨_, _, rfl, rfl, by decide⟩, fun {fuel rest} hfuel _ => ?_⟩
  obtain ⟨fuel, rfl⟩ : ∃ n, fuel = n + 1 := ⟨fuel - 1, by simp at hfuel; omega⟩
  rfl

/-- A quoted text writes itself. -/
theorem writes_text (s : String) : Writes (quote s).toList (.text (.whole s)) := by
  refine ⟨isShown_quote s, ⟨_, _, toList_quote s, rfl, by decide⟩, fun {fuel rest} hfuel _ => ?_⟩
  rw [toList_quote] at hfuel ⊢
  obtain ⟨fuel, rfl⟩ : ∃ n, fuel = n + 1 := ⟨fuel - 1, by simp at hfuel; omega⟩
  rw [List.cons_append, List.append_assoc, value, List.singleton_append, string?_quote]

/-! ### Lists -/

/-- A comma and a closing bracket end a value. -/
theorem endsValue_of {c : Char} {r : List Char} (hc : c = ',' ∨ c = ']' ∨ c = '\x7d') :
    EndsValue (c :: r) := by
  rintro _ ⟨rfl⟩
  rcases hc with rfl | rfl | rfl <;> decide

/-- The parts of a list or record with a comma and a space between them. -/
def joined (texts : List (List Char)) : List Char := [',', ' '].intercalate texts

/-- A first text is joined to the others by a comma and a space. -/
theorem joined_cons_cons (text text' : List Char) (texts : List (List Char)) :
    joined (text :: text' :: texts) = text ++ ',' :: ' ' :: joined (text' :: texts) := by
  rw [joined, joined, List.intercalate_cons_cons]
  simp

/-- One text alone is joined as it is. -/
theorem joined_singleton (text : List Char) : joined [text] = text :=
  List.intercalate_singleton

/-- Parts begin with the first of them. -/
theorem exists_joined (text : List Char) (texts : List (List Char)) :
    ∃ more, joined (text :: texts) = text ++ more := by
  cases texts with
  | nil => exact ⟨[], by rw [joined_singleton, List.append_nil]⟩
  | cons text' texts => exact ⟨_, joined_cons_cons text text' texts⟩

/-- The space before a part is skipped. -/
theorem skip_space {c : Char} {text : List Char} (hc : isSpace c = false)
    (texts : List (List Char)) (r : List Char) :
    skip (' ' :: (joined ((c :: text) :: texts) ++ r)) = joined ((c :: text) :: texts) ++ r := by
  obtain ⟨more, hmore⟩ := exists_joined (c :: text) texts
  rw [hmore, List.cons_append, List.cons_append]
  exact skip_cons hc _

/-- **Items are read** up to the closing bracket. -/
theorem elements_joined {texts : List (List Char)} {items : List (Json LooseText)}
    (h : List.Forall₂ Writes texts items) (hne : items ≠ []) {fuel : Nat} {rest : List Char}
    (hfuel : (joined texts).length < fuel) :
    elements (some digitLimit) fuel (joined texts ++ ']' :: rest) = .ok (items, rest) := by
  induction h generalizing fuel with
  | nil => exact absurd rfl hne
  | @cons text j texts items hwrites htail ih =>
      obtain ⟨fuel, rfl⟩ : ∃ n, fuel = n + 1 := ⟨fuel - 1, by omega⟩
      cases htail with
      | nil =>
          rw [joined_singleton] at hfuel ⊢
          rw [elements, hwrites.reads (by omega) (endsValue_of (by simp))]
          rfl
      | @cons text' j' texts items hwrites' htail =>
          rw [joined_cons_cons] at hfuel ⊢
          simp only [List.length_append, List.length_cons] at hfuel
          have hread := @ih (by simp) fuel (by omega)
          obtain ⟨c, s, rfl, hc, -⟩ := hwrites'.begins
          rw [List.append_assoc, List.cons_append, List.cons_append, elements,
            hwrites.reads (by omega) (endsValue_of (by simp))]
          have hcomma : ∀ r, skip (',' :: r) = ',' :: r := fun r => skip_cons rfl r
          simp only [bind, Except.bind, hcomma, skip_space hc, hread]
          rfl

/-! ### Records -/

/-- A field with a new name is put last. -/
theorem put_of_not_mem {name : LooseText} {fields : List (LooseText × Json LooseText)}
    (h : name ∉ fields.map Prod.fst) (j : Json LooseText) :
    put name j fields = fields ++ [(name, j)] := by
  induction fields with
  | nil => rfl
  | cons f r ih =>
      rw [List.map_cons, List.mem_cons, not_or] at h
      rw [put, if_neg (Ne.symm h.1), ih h.2, List.cons_append]

/-- A name between quotes, a colon and the text of a value write a field. -/
def WritesField (text : List Char) (f : LooseText × Json LooseText) : Prop :=
  ∃ name t, f.1 = .whole name ∧ Writes t f.2 ∧ text = (quote name).toList ++ ':' :: ' ' :: t

/-- One field is read. -/
theorem members_step {t : List Char} {j : Json LooseText} (ht : Writes t j) (name : String)
    (known : List (LooseText × Json LooseText)) {fuel : Nat} (hfuel : t.length ≤ fuel)
    {r : List Char} (hr : EndsValue r) :
    members (some digitLimit) (fuel + 1) known ((quote name).toList ++ ':' :: ' ' :: t ++ r) =
      match skip r with
      | ',' :: s => members (some digitLimit) fuel (put (.whole name) j known) (skip s)
      | '\x7d' :: rest => .ok (put (.whole name) j known, rest)
      | _ => .error .malformed := by
  have htext : (quote name).toList ++ ':' :: ' ' :: t ++ r =
      '"' :: (name.toList.flatMap charText ++ '"' :: ':' :: ' ' :: (t ++ r)) := by
    rw [toList_quote]
    simp only [List.cons_append, List.append_assoc, List.nil_append]
  have hcolon : ∀ s, skip (':' :: s) = ':' :: s := fun s => skip_cons rfl s
  have hspace : skip (' ' :: (t ++ r)) = t ++ r := ht.skip_append r
  rw [htext, members, string?_quote]
  simp only [hcolon, hspace, ht.reads hfuel hr, bind, Except.bind]
  rfl

/-- **Fields are read** up to the closing brace, behind those that are known already. -/
theorem members_joined {texts : List (List Char)} {fields : List (LooseText × Json LooseText)}
    (h : List.Forall₂ WritesField texts fields) (hne : fields ≠ [])
    {known : List (LooseText × Json LooseText)} (hnames : ((known ++ fields).map Prod.fst).Nodup)
    {fuel : Nat} {rest : List Char} (hfuel : (joined texts).length < fuel) :
    members (some digitLimit) fuel known (joined texts ++ '\x7d' :: rest) =
      .ok (known ++ fields, rest) := by
  induction h generalizing fuel known with
  | nil => exact absurd rfl hne
  | @cons text f texts fields hwrites htail ih =>
      obtain ⟨fuel, rfl⟩ : ∃ n, fuel = n + 1 := ⟨fuel - 1, by omega⟩
      obtain ⟨key, j⟩ := f
      obtain ⟨name, t, rfl, ht, rfl⟩ := hwrites
      have hnew : .whole name ∉ known.map Prod.fst := by
        rw [List.map_append, List.map_cons] at hnames
        exact fun hmem => (List.nodup_append.mp hnames).2.2 _ hmem _ List.mem_cons_self rfl
      have hput := put_of_not_mem hnew j
      cases htail with
      | nil =>
          rw [joined_singleton] at hfuel ⊢
          simp only [List.length_append, List.length_cons] at hfuel
          rw [members_step ht name known (by omega) (endsValue_of (by simp)), hput]
          rfl
      | @cons text' f' texts fields hwrites' htail =>
          rw [joined_cons_cons] at hfuel ⊢
          simp only [List.length_append, List.length_cons] at hfuel
          have hknown : known ++ (.whole name, j) :: f' :: fields =
              put (.whole name) j known ++ f' :: fields := by
            rw [hput, List.append_assoc]
            rfl
          rw [hknown] at hnames ⊢
          have hread := @ih (by simp) _ hnames fuel (by omega)
          obtain ⟨name', t', -, -, rfl⟩ := hwrites'
          have hquote := toList_quote name'
          rw [hquote, List.cons_append] at hread ⊢
          rw [List.append_assoc, List.cons_append, List.cons_append,
            members_step ht name known (by omega) (endsValue_of (by simp))]
          have hcomma : ∀ r, skip (',' :: r) = ',' :: r := fun r => skip_cons rfl r
          simp only [hcomma]
          rw [skip_space rfl, hread]

/-! ### Values -/

/-- Joined texts are printable when each of them is. -/
theorem isShown_joined {texts : List (List Char)} (h : ∀ text ∈ texts, ∀ c ∈ text, IsShown c) :
    ∀ c ∈ joined texts, IsShown c := by
  induction texts with
  | nil => exact fun c hc => absurd hc List.not_mem_nil
  | cons text texts ih =>
      have htext := h text List.mem_cons_self
      have htexts := ih (fun t ht => h t (List.mem_cons_of_mem _ ht))
      cases texts with
      | nil => rwa [joined_singleton]
      | cons text' texts =>
          rw [joined_cons_cons]
          intro c hc
          rcases List.mem_append.mp hc with hc | hc
          · exact htext c hc
          rcases List.mem_cons.mp hc with rfl | hc
          · decide
          rcases List.mem_cons.mp hc with rfl | hc
          · decide
          · exact htexts c hc

/-- A text between two brackets is printable when what stands between them is. -/
theorem isShown_bracketed {cs : List Char} {opening closing : Char} (hopening : IsShown opening)
    (h : ∀ c ∈ cs, IsShown c) (hclosing : IsShown closing) :
    ∀ c ∈ opening :: (cs ++ [closing]), IsShown c := by
  intro c hc
  rcases List.mem_cons.mp hc with rfl | hc
  · exact hopening
  rcases List.mem_append.mp hc with hc | hc
  · exact h c hc
  · rw [List.mem_singleton.mp hc]
    exact hclosing

/-- The text of a field is printable. -/
theorem WritesField.shown {text : List Char} {f : LooseText × Json LooseText}
    (h : WritesField text f) :
    ∀ c ∈ text, IsShown c := by
  obtain ⟨name, t, -, ht, rfl⟩ := h
  intro c hc
  rcases List.mem_append.mp hc with hc | hc
  · exact isShown_quote name c hc
  rcases List.mem_cons.mp hc with rfl | hc
  · decide
  rcases List.mem_cons.mp hc with rfl | hc
  · decide
  · exact ht.shown c hc

/-- Parts are printable when each of them writes something and what writes is printable. -/
theorem forall_isShown {α : Type} {writes : List Char → α → Prop}
    (hshown : ∀ text x, writes text x → ∀ c ∈ text, IsShown c) {texts : List (List Char)}
    {xs : List α} (h : List.Forall₂ writes texts xs) : ∀ text ∈ texts, ∀ c ∈ text, IsShown c := by
  induction h with
  | nil => exact fun text ht => absurd ht List.not_mem_nil
  | cons hwrites _ ih =>
      intro text ht
      rcases List.mem_cons.mp ht with rfl | ht
      · exact hshown _ _ hwrites
      · exact ih text ht

/-- What does not begin with the closing bracket is read as the items of a list. -/
theorem value_list {r : List Char} (hr : ∀ s, skip r ≠ ']' :: s) (limit : Option Nat)
    (fuel : Nat) : value limit (fuel + 1) ('[' :: r) =
      (elements limit fuel (skip r)).map fun (items, rest) => (.list items, rest) := by
  rw [value]
  split
  · rename_i heq
    exact absurd heq (hr _)
  · cases elements limit fuel (skip r) <;> rfl

/-- What does not begin with the closing brace is read as the fields of a record. -/
theorem value_record {r : List Char} (hr : ∀ s, skip r ≠ '\x7d' :: s) (limit : Option Nat)
    (fuel : Nat) : value limit (fuel + 1) ('\x7b' :: r) =
      (members limit fuel [] (skip r)).map fun (fields, rest) => (.record fields, rest) := by
  rw [value]
  split
  · rename_i heq
    exact absurd heq (hr _)
  · cases members limit fuel [] (skip r) <;> rfl

/-- Items between brackets write a list. -/
theorem writes_list {texts : List (List Char)} {items : List (Json LooseText)}
    (h : List.Forall₂ Writes texts items) :
    Writes ('[' :: (joined texts ++ [']'])) (.list items) := by
  have hshown := forall_isShown (fun _ _ hwrites => hwrites.shown) h
  refine ⟨isShown_bracketed (by decide) (isShown_joined hshown) (by decide),
    ⟨_, _, rfl, rfl, by decide⟩, fun {fuel rest} hfuel _ => ?_⟩
  simp only [List.length_cons, List.length_append, List.length_nil] at hfuel
  obtain ⟨fuel, rfl⟩ : ∃ n, fuel = n + 1 := ⟨fuel - 1, by omega⟩
  have htext : '[' :: (joined texts ++ [']']) ++ rest = '[' :: (joined texts ++ ']' :: rest) := by
    rw [List.cons_append, List.append_assoc, List.singleton_append]
  rw [htext]
  cases h with
  | nil => rfl
  | @cons text j texts items hwrites htail =>
      have hread := @elements_joined _ _ (.cons hwrites htail) (by simp) fuel rest (by omega)
      obtain ⟨c, s, rfl, hc, hclose⟩ := hwrites.begins
      obtain ⟨more, hmore⟩ := exists_joined (c :: s) texts
      have hskip : skip (joined ((c :: s) :: texts) ++ ']' :: rest) =
          joined ((c :: s) :: texts) ++ ']' :: rest := by
        rw [hmore]
        exact skip_cons hc _
      rw [value_list, hskip, hread]
      · rfl
      · intro r hr
        rw [hskip, hmore] at hr
        exact hclose (List.cons.inj hr).1

/-- Fields between braces write a record. -/
theorem writes_record {texts : List (List Char)} {fields : List (LooseText × Json LooseText)}
    (h : List.Forall₂ WritesField texts fields) (hnames : (fields.map Prod.fst).Nodup) :
    Writes ('\x7b' :: (joined texts ++ ['\x7d'])) (.record fields) := by
  have hshown := forall_isShown (fun _ _ hwrites => hwrites.shown) h
  refine ⟨isShown_bracketed (by decide) (isShown_joined hshown) (by decide),
    ⟨_, _, rfl, rfl, by decide⟩, fun {fuel rest} hfuel _ => ?_⟩
  simp only [List.length_cons, List.length_append, List.length_nil] at hfuel
  obtain ⟨fuel, rfl⟩ : ∃ n, fuel = n + 1 := ⟨fuel - 1, by omega⟩
  have htext : '\x7b' :: (joined texts ++ ['\x7d']) ++ rest =
      '\x7b' :: (joined texts ++ '\x7d' :: rest) := by
    rw [List.cons_append, List.append_assoc, List.singleton_append]
  rw [htext]
  cases h with
  | nil => rfl
  | @cons text f texts fields hwrites htail =>
      have hread :=
        @members_joined _ _ (.cons hwrites htail) (by simp) [] hnames fuel rest (by omega)
      obtain ⟨name, t, -, -, rfl⟩ := hwrites
      rw [toList_quote, List.cons_append] at hread ⊢
      obtain ⟨more, hmore⟩ := exists_joined
        ('"' :: (name.toList.flatMap charText ++ ['"'] ++ ':' :: ' ' :: t)) texts
      rw [hmore, List.cons_append, List.cons_append] at hread ⊢
      rw [value_record, skip_cons rfl, hread]
      · rfl
      · intro r hr
        rw [skip_cons rfl] at hr
        exact absurd (List.cons.inj hr).1 (by decide)

/-! ### Lines -/

/-- The items of a list have texts when each of them has one. -/
theorem exists_lineList? {items : List Json}
    (h : ∀ j ∈ items, ∃ text, line? j = some text ∧ Writes text.toList j.loose) :
    ∃ parts, lineList? items = some parts ∧
      List.Forall₂ Writes (parts.map String.toList) (items.map loose) := by
  induction items with
  | nil => exact ⟨[], rfl, .nil⟩
  | cons j items ih =>
      obtain ⟨text, htext, hwrites⟩ := h j List.mem_cons_self
      obtain ⟨parts, hparts, hall⟩ := ih (fun k hk => h k (List.mem_cons_of_mem j hk))
      refine ⟨text :: parts, ?_, .cons hwrites hall⟩
      rw [lineList?, htext, hparts]
      rfl

/-- The fields of a record have texts when each of their values has one. -/
theorem exists_lineFields? {fields : List (String × Json)}
    (h : ∀ f ∈ fields, ∃ text, line? f.2 = some text ∧ Writes text.toList f.2.loose) :
    ∃ parts, lineFields? fields = some parts ∧
      List.Forall₂ WritesField (parts.map String.toList) (looseFields fields) := by
  induction fields with
  | nil => exact ⟨[], rfl, .nil⟩
  | cons f fields ih =>
      obtain ⟨text, htext, hwrites⟩ := h f List.mem_cons_self
      obtain ⟨parts, hparts, hall⟩ := ih (fun g hg => h g (List.mem_cons_of_mem f hg))
      refine ⟨(quote f.1 ++ ": " ++ text) :: parts, ?_, .cons ⟨_, _, rfl, hwrites, ?_⟩ hall⟩
      · rw [lineFields?, htext, hparts]
        rfl
      · simp only [String.toList_append, List.append_assoc]
        rfl

/-- Bracketed parts are their joined texts between the brackets. -/
theorem toList_bracketed (opening closing : String) (parts : List String) :
    (opening ++ ", ".intercalate parts ++ closing).toList =
      opening.toList ++ (joined (parts.map String.toList) ++ closing.toList) := by
  rw [String.toList_append, String.toList_append, String.toList_intercalate, List.append_assoc]
  rfl

/-- Names that occur once do so as they are read. -/
theorem nodup_looseFields {fields : List (String × Json)} (h : (fields.map Prod.fst).Nodup) :
    ((looseFields fields).map Prod.fst).Nodup := by
  have hnames : (looseFields fields).map Prod.fst =
      (fields.map Prod.fst).map LooseText.whole := by
    simp [looseFields]
  rw [hnames]
  exact h.map fun _ _ heq => LooseText.whole.inj heq

/-- **A proper value is read from its line**, which it has and whose characters are printable. -/
theorem Proper.writes {j : Json} (h : Proper (fun x => Decimal.isFinite x = true) j) :
    ∃ text, line? j = some text ∧ Writes text.toList j.loose := by
  induction h with
  | null => exact ⟨"null", rfl, writes_null⟩
  | bool b =>
      cases b with
      | false => exact ⟨"false", rfl, writes_false⟩
      | true => exact ⟨"true", rfl, writes_true⟩
  | whole hi =>
      refine ⟨_, ?_, writes_number (looksNumeric_intText _) (fun rest => number_intText hi)⟩
      rw [line?, wholeText?, if_pos hi]
  | real hx =>
      exact ⟨_, rfl, writes_number (looksNumeric_realText hx) (fun rest => number_realText hx _)⟩
  | text s => exact ⟨_, rfl, writes_text s⟩
  | list _ ih =>
      obtain ⟨parts, hparts, hall⟩ := exists_lineList? ih
      refine ⟨"[" ++ ", ".intercalate parts ++ "]", ?_, ?_⟩
      · rw [line?, hparts]
        rfl
      · rw [toList_bracketed, loose_list]
        exact writes_list hall
  | record hnames _ ih =>
      obtain ⟨parts, hparts, hall⟩ := exists_lineFields? ih
      refine ⟨"\x7b" ++ ", ".intercalate parts ++ "\x7d", ?_, ?_⟩
      · rw [line?, hparts]
        rfl
      · rw [toList_bracketed, loose_record]
        exact writes_record hall (nodup_looseFields hnames)

end SheetFormula.Json
