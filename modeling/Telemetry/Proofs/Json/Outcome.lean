import Telemetry.Json.Reader

/-!
What reading functions answer.

A reading function answers with a remainder that carries a proof about its
length, or with a fault. Neither matters for what is read: `outcome` keeps the
value and the characters left over, so that what two reading functions answer
can be compared whatever texts they started from. What a composed function
answers follows from what its parts answer.
-/

namespace Telemetry.Json

variable {α β : Type} {m n : Nat} {a : α} {s rest : List Char}

/-- What a reading function answers, without the reasons. -/
def outcome (x : Except Fault (α × Rest n)) : Option (α × List Char) :=
  match x with
  | .ok (a, r) => some (a, r.1)
  | .error _ => none

@[simp] theorem outcome_ok (a : α) (r : Rest n) :
    outcome (.ok (a, r)) = some (a, r.1) := rfl

@[simp] theorem outcome_error (fault : Fault) :
    outcome (.error fault : Except Fault (α × Rest n)) = none := rfl

theorem eq_ok_of_outcome {x : Except Fault (α × Rest n)} (h : outcome x = some (a, rest)) :
    ∃ lt, x = .ok (a, ⟨rest, lt⟩) := by
  cases x with
  | error fault => exact nomatch h
  | ok p =>
      rcases p with ⟨b, r⟩
      simp only [outcome_ok, Option.some.injEq, Prod.mk.injEq] at h
      obtain ⟨rfl, rfl⟩ := h
      exact ⟨r.2, rfl⟩

theorem eq_error_of_outcome {x : Except Fault (α × Rest n)} (h : outcome x = none) :
    ∃ fault, x = .error fault := by
  cases x with
  | error fault => exact ⟨fault, rfl⟩
  | ok p => exact nomatch h

theorem eq_ok_of_outcome_map {x : Except Fault (α × Rest n)} {a? : Option α}
    (h : outcome x = a?.map fun a => (a, rest)) (ha : a? = some a) :
    ∃ lt, x = .ok (a, ⟨rest, lt⟩) :=
  eq_ok_of_outcome (h.trans (by rw [ha]; rfl))

theorem eq_error_of_outcome_map {x : Except Fault (α × Rest n)} {a? : Option α}
    (h : outcome x = a?.map fun a => (a, rest)) (ha : a? = none) : ∃ fault, x = .error fault :=
  eq_error_of_outcome (h.trans (by rw [ha]; rfl))

theorem outcome_map {x : Except Fault (α × Rest m)} {f : α × Rest m → β × Rest n} {g : α → β}
    (hf : ∀ a r, (f (a, r)).1 = g a ∧ (f (a, r)).2.1 = r.1) :
    outcome (x.map f) = (outcome x).map fun p => (g p.1, p.2) := by
  cases x with
  | error fault => rfl
  | ok p =>
      obtain ⟨hvalue, hrest⟩ := hf p.1 p.2
      show some ((f p).1, (f p).2.1) = some (g p.1, p.2.1)
      rw [← hvalue, ← hrest]

/-- What is left may be carried under another bound. -/
theorem outcome_map_rest {x : Except Fault (α × Rest m)} {f : α × Rest m → α × Rest n}
    (hf : ∀ a r, (f (a, r)).1 = a ∧ (f (a, r)).2.1 = r.1) : outcome (x.map f) = outcome x := by
  rw [outcome_map (g := id) hf]
  simp

theorem outcome_readerMap (f : α → β) (read : Reader α) (s : List Char) :
    outcome (read.map f s) = (outcome (read s)).map fun p => (f p.1, p.2) :=
  outcome_map (by simp)

/-! ### Errors in other words -/

theorem mapError_ok {ε ε' : Type} (f : ε → ε') (a : α) :
    (Except.ok a : Except ε α).mapError f = .ok a := rfl

theorem mapError_error {ε ε' : Type} (f : ε → ε') (e : ε) :
    (Except.error e : Except ε α).mapError f = .error (f e) := rfl

/-! ### The first character that is not blank -/

/-- A look at a text behind its blanks. The reading functions all make it, each with its own
branches, which may use what has been found. -/
def atFirst {γ : Type} (s : List Char) (nil : skipBlanks s = [] → γ)
    (cons : ∀ c rest, skipBlanks s = c :: rest → γ) : γ :=
  match h : skipBlanks s with
  | [] => nil h
  | c :: rest => cons c rest h

theorem atFirst_eq {γ : Type} {c : Char} (h : skipBlanks s = c :: rest)
    (nil : skipBlanks s = [] → γ) (cons : ∀ c rest, skipBlanks s = c :: rest → γ) :
    atFirst s nil cons = cons c rest h := by
  unfold atFirst
  split
  · next hnil => exact absurd (h.symm.trans hnil) (List.cons_ne_nil c rest)
  · next c' rest' hcons =>
      obtain ⟨rfl, rfl⟩ := List.cons.inj (hcons.symm.trans h)
      rfl

/-- What is left behind the first character that is not blank decides what is read. -/
theorem outcome_withFirst {c : Char}
    {read : (c : Char) → (rest : List Char) → Except Fault (α × Rest (rest.length + 1))}
    (h : skipBlanks s = c :: rest) : outcome (withFirst s read) = outcome (read c rest) := by
  unfold withFirst
  refine (congrArg outcome (atFirst_eq h _ _)).trans ?_
  exact outcome_map_rest (by simp)

theorem outcome_withFirst_blank
    {read : (c : Char) → (rest : List Char) → Except Fault (α × Rest (rest.length + 1))}
    (h : skipBlanks s = []) : outcome (withFirst s read) = none := by
  unfold withFirst
  split
  · rfl
  · next hcons => exact absurd (h.symm.trans hcons) (List.cons_ne_nil _ _).symm

/-! ### Passing over -/

/-- What a function leaves that passes over something, without the reasons. -/
def remainder (x : Except Fault (Rest n)) : Option (List Char) :=
  match x with
  | .ok r => some r.1
  | .error _ => none

@[simp] theorem remainder_ok (r : Rest n) : remainder (.ok r) = some r.1 := rfl

@[simp] theorem remainder_error (fault : Fault) :
    remainder (.error fault : Except Fault (Rest n)) = none := rfl

theorem eq_ok_of_remainder {x : Except Fault (Rest n)} (h : remainder x = some rest) :
    ∃ lt, x = .ok ⟨rest, lt⟩ := by
  cases x with
  | error fault => exact nomatch h
  | ok r =>
      obtain rfl : r.1 = rest := Option.some.inj h
      exact ⟨r.2, rfl⟩

theorem remainder_map {x : Except Fault (Rest m)} {f : Rest m → Rest n}
    (hf : ∀ r, (f r).1 = r.1) : remainder (x.map f) = remainder x := by
  cases x with
  | error fault => rfl
  | ok r => exact congrArg some (hf r)

theorem remainder_snd (x : Except Fault (α × Rest n)) :
    remainder (x.map (·.2)) = (outcome x).map (·.2) := by
  cases x <;> rfl

theorem remainder_readWord (word rest : List Char) :
    remainder (readWord word (word ++ rest)) = some rest := by
  induction word with
  | nil => rfl
  | cons w word ih =>
      show remainder (readWord (w :: word) (w :: (word ++ rest))) = some rest
      rw [readWord, if_pos rfl, remainder_map Rest.val_succ, ih]

end Telemetry.Json
