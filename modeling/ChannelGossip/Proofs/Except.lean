/-! # Results that succeed or fail

When a computation in `Except` succeeds, all of its steps did, and when it fails, one of them was
the first to fail.  These lemmas take a result apart into the steps without unfolding the monad. -/

namespace Except

variable {ε ε' α β : Type}

/-- `x >>= f` succeeds exactly if `x` does and `f` then succeeds on its value. -/
theorem bind_eq_ok_iff {x : Except ε α} {f : α → Except ε β} {b : β} :
    (x >>= f) = .ok b ↔ ∃ a, x = .ok a ∧ f a = .ok b := by
  cases x with
  | error e => simp [bind, Except.bind]
  | ok a => simp [bind, Except.bind]

/-- `x >>= f` fails exactly if `x` does, or if `x` succeeds and `f` fails on its value. -/
theorem bind_eq_error_iff {x : Except ε α} {f : α → Except ε β} {e : ε} :
    (x >>= f) = .error e ↔ x = .error e ∨ ∃ a, x = .ok a ∧ f a = .error e := by
  cases x with
  | error e' => simp [bind, Except.bind]
  | ok a => simp [bind, Except.bind]

/-- `x.map f` succeeds exactly if `x` does, with `f` of its value. -/
theorem map_eq_ok_iff {x : Except ε α} {f : α → β} {b : β} :
    x.map f = .ok b ↔ ∃ a, x = .ok a ∧ f a = b := by
  cases x with
  | error e => simp [Except.map]
  | ok a => simp [Except.map]

/-- `x.map f` fails exactly if `x` does, with the same error. -/
theorem map_eq_error_iff {x : Except ε α} {f : α → β} {e : ε} :
    x.map f = .error e ↔ x = .error e := by
  cases x with
  | error e' => simp [Except.map]
  | ok a => simp [Except.map]

/-- `x.mapError f` does not touch a success. -/
theorem mapError_eq_ok_iff {x : Except ε α} {f : ε → ε'} {a : α} :
    x.mapError f = .ok a ↔ x = .ok a := by
  cases x with
  | error e =>
    constructor
    · intro h
      cases h
    · intro h
      cases h
  | ok b =>
    constructor
    · intro h
      cases h
      rfl
    · intro h
      cases h
      rfl

/-- `x.mapError f` fails exactly if `x` does, with `f` of its error. -/
theorem mapError_eq_error_iff {x : Except ε α} {f : ε → ε'} {e : ε'} :
    x.mapError f = .error e ↔ ∃ e', x = .error e' ∧ f e' = e := by
  cases x with
  | error e' =>
    constructor
    · intro h
      exact ⟨e', rfl, Except.error.inj h⟩
    · intro h
      obtain ⟨e'', he, rfl⟩ := h
      cases he
      rfl
  | ok a =>
    constructor
    · intro h
      cases h
    · intro h
      obtain ⟨e', he, -⟩ := h
      cases he

/-- `x.toOption` keeps the value of a success and forgets the error of a failure. -/
theorem mem_toOption_iff {x : Except ε α} {a : α} : a ∈ x.toOption ↔ x = .ok a := by
  cases x with
  | error e => simp [Except.toOption]
  | ok b => simp [Except.toOption]

/-- If `f` succeeds on every element, with the value that `g` has there, then `mapM f` gives the
    list of these values. -/
theorem mapM_eq_ok {as : List α} {f : α → Except ε β} {g : α → β} (h : ∀ a ∈ as, f a = .ok (g a)) :
    as.mapM f = .ok (as.map g) := by
  induction as with
  | nil => rfl
  | cons a as ih =>
    have ha : f a = .ok (g a) := h a List.mem_cons_self
    rw [List.mapM_cons, ha, ih fun b hb => h b (List.mem_cons_of_mem _ hb)]
    rfl

/-- `as.mapM f` fails exactly if `f` fails on some element of `as`. -/
theorem exists_mapM_eq_error_iff {as : List α} {f : α → Except ε β} :
    (∃ e, as.mapM f = .error e) ↔ ∃ a ∈ as, ∃ e, f a = .error e := by
  induction as with
  | nil =>
    constructor
    · rintro ⟨e, h⟩
      cases h
    · rintro ⟨a, ha, -⟩
      cases ha
  | cons a as ih =>
    -- A list fails at its first element or, if that succeeds, in the rest.
    simp only [List.mem_cons, exists_eq_or_imp, ← ih, List.mapM_cons, bind_eq_error_iff]
    cases f a with
    | error e => simp
    | ok b => simp [pure, Except.pure]

end Except
