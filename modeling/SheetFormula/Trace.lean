/-!
# Computations That Leave Notes

A `Trace ν ε α` is a computation together with what it noted on the way: the list of its
notes in the order in which they were left, and its outcome, an answer in `α` or a failure
in `ε`. A failure ends the computation but keeps the notes left before it, so a trace
shows both what was answered and what was seen.

## Main statements

* `Trace.outcome_bind`: the outcomes of a sequence are the sequence of the outcomes.
* `Trace.outcome_bind_eq_ok_iff`: a sequence answers exactly when both of its parts do.
* `Trace.notes_bind_of_ok`, `Trace.notes_bind_of_error`: the notes of a sequence are those
  of its first part, followed by those of the second part when the first one answers.
-/

namespace SheetFormula

/-- A computation with its **notes**, oldest first, and its outcome. -/
structure Trace (ν ε α : Type) where
  notes : List ν
  outcome : Except ε α

namespace Trace

variable {ν ε α β : Type}

/-- An answer without a note. -/
def answer (a : α) : Trace ν ε α := ⟨[], .ok a⟩

/-- A failure without a note. -/
def fail (e : ε) : Trace ν ε α := ⟨[], .error e⟩

/-- A single note. -/
def note (n : ν) : Trace ν ε Unit := ⟨[n], .ok ()⟩

/-- An outcome that left no note. -/
def ofExcept (x : Except ε α) : Trace ν ε α := ⟨[], x⟩

/-- One computation after another: the second runs on the answer of the first, and a
failure of the first is final. -/
def andThen (t : Trace ν ε α) (f : α → Trace ν ε β) : Trace ν ε β :=
  match t.outcome with
  | .ok a => ⟨t.notes ++ (f a).notes, (f a).outcome⟩
  | .error e => ⟨t.notes, .error e⟩

instance : Monad (Trace ν ε) where
  pure := answer
  bind := andThen

instance : MonadExceptOf ε (Trace ν ε) where
  throw := fail
  tryCatch t handle :=
    match t.outcome with
    | .ok _ => t
    | .error e => ⟨t.notes ++ (handle e).notes, (handle e).outcome⟩

instance : MonadLift (Except ε) (Trace ν ε) where
  monadLift := ofExcept

/-- The same computation with its notes rewritten. -/
def mapNotes {μ : Type} (f : ν → μ) (t : Trace ν ε α) : Trace μ ε α :=
  ⟨t.notes.map f, t.outcome⟩

/-- An answer has no notes. -/
@[simp] theorem notes_answer (a : α) : (answer a : Trace ν ε α).notes = [] := rfl

/-- An answer is its own outcome. -/
@[simp] theorem outcome_answer (a : α) : (answer a : Trace ν ε α).outcome = .ok a := rfl

/-- A pure computation has no notes. -/
@[simp] theorem notes_pure (a : α) : (pure a : Trace ν ε α).notes = [] := rfl

/-- The outcome of a pure computation is its value. -/
@[simp] theorem outcome_pure (a : α) : (pure a : Trace ν ε α).outcome = .ok a := rfl

/-- To throw leaves no notes. -/
@[simp] theorem notes_throw (e : ε) : (throw e : Trace ν ε α).notes = [] := rfl

/-- To throw ends with the error. -/
@[simp] theorem outcome_throw (e : ε) : (throw e : Trace ν ε α).outcome = .error e := rfl

/-- The outcome of a sequence is the sequence of the outcomes. -/
@[simp] theorem outcome_bind (t : Trace ν ε α) (f : α → Trace ν ε β) :
    (t >>= f).outcome = t.outcome >>= fun a => (f a).outcome := by
  change (andThen t f).outcome = _
  unfold andThen
  cases t.outcome <;> rfl

/-- A result that is lifted is the outcome. -/
@[simp] theorem outcome_lift (x : Except ε α) : (liftM x : Trace ν ε α).outcome = x := rfl

/-- A note is left with no other outcome. -/
@[simp] theorem outcome_note (n : ν) : (note n : Trace ν ε Unit).outcome = .ok () := rfl

/-- Notes that are changed change no outcome. -/
@[simp] theorem outcome_mapNotes {μ : Type} (f : ν → μ) (t : Trace ν ε α) :
    (t.mapNotes f).outcome = t.outcome := rfl

/-- A sequence answers exactly when its first part does and its second part does so on the
answer of the first. -/
theorem outcome_bind_eq_ok_iff {t : Trace ν ε α} {f : α → Trace ν ε β} {b : β} :
    (t >>= f).outcome = .ok b ↔ ∃ a, t.outcome = .ok a ∧ (f a).outcome = .ok b := by
  rw [outcome_bind]
  cases ht : t.outcome with
  | error e => simp [bind, Except.bind]
  | ok a => simp [bind, Except.bind]

/-- A sequence fails in its first part, or in its second part on the answer of the first. -/
theorem outcome_bind_eq_error_iff {t : Trace ν ε α} {f : α → Trace ν ε β} {e : ε} :
    (t >>= f).outcome = .error e ↔
      t.outcome = .error e ∨ ∃ a, t.outcome = .ok a ∧ (f a).outcome = .error e := by
  rw [outcome_bind]
  cases ht : t.outcome with
  | error e' => simp [bind, Except.bind]
  | ok a => simp [bind, Except.bind]

/-- A sequence whose first part answers has the notes of both parts. -/
theorem notes_bind_of_ok {t : Trace ν ε α} {a : α} (h : t.outcome = .ok a)
    (f : α → Trace ν ε β) : (t >>= f).notes = t.notes ++ (f a).notes := by
  change (andThen t f).notes = _
  simp only [andThen, h]

/-- A sequence whose first part fails has the notes of that part. -/
theorem notes_bind_of_error {t : Trace ν ε α} {e : ε} (h : t.outcome = .error e)
    (f : α → Trace ν ε β) : (t >>= f).notes = t.notes := by
  change (andThen t f).notes = _
  simp only [andThen, h]

/-- To map by the identity changes nothing. -/
theorem id_map_eq (t : Trace ν ε α) : id <$> t = t := by
  obtain ⟨n, o⟩ := t
  change andThen _ _ = _
  cases o <;> simp [andThen, answer]

/-- A pure computation before another one passes its value on. -/
theorem pure_bind_eq (a : α) (f : α → Trace ν ε β) : (pure a >>= f) = f a := by
  change andThen _ _ = _
  simp [andThen, pure, answer]

/-- Sequences may be grouped either way. -/
theorem bind_assoc_eq {γ : Type} (t : Trace ν ε α) (f : α → Trace ν ε β)
    (g : β → Trace ν ε γ) : t >>= f >>= g = t >>= fun a => f a >>= g := by
  obtain ⟨n, o⟩ := t
  change andThen (andThen _ _) _ = andThen _ _
  cases o with
  | error e => simp [andThen]
  | ok a =>
      simp only [andThen, bind]
      cases (f a).outcome <;> simp [List.append_assoc]

instance : LawfulMonad (Trace ν ε) :=
  LawfulMonad.mk' (Trace ν ε) id_map_eq pure_bind_eq bind_assoc_eq

end Trace

end SheetFormula
