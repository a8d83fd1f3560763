/-
# What a computation can raise

A computation that returns a value or raises an exception, and the exceptions it
can raise. Never raising is the case in which no exception is allowed.
-/

import Mathlib.Data.List.Forall2
import Mathlib.Tactic.Common

namespace Effects

variable {ε α β : Type} {P : ε → Prop}

/-- Every exception it raises is an allowed one. -/
def RaisesOnly (P : ε → Prop) (outcome : Except ε α) : Prop :=
  ∀ e, outcome = .error e → P e

@[simp]
theorem raisesOnly_ok (value : α) : RaisesOnly P (.ok value) := by
  intro e h
  nomatch h

@[simp]
theorem raisesOnly_error (e : ε) : RaisesOnly P (.error e : Except ε α) ↔ P e := by
  constructor
  · intro h
    exact h e rfl
  · intro h e' he'
    exact Except.error.inj he' ▸ h

/-- After a part whose exceptions are all allowed, only what its value leads to
matters. -/
theorem RaisesOnly.bind_iff_forall {outcome : Except ε α} (h : RaisesOnly P outcome)
    (next : α → Except ε β) :
    RaisesOnly P (outcome >>= next) ↔
      ∀ value, outcome = .ok value → RaisesOnly P (next value) := by
  cases outcome with
  | error e =>
      show RaisesOnly P (.error e) ↔ _
      simpa using h
  | ok value =>
      show RaisesOnly P (next value) ↔ _
      simp

/-- A part none of whose exceptions is allowed has to return a value. -/
theorem RaisesOnly.bind_iff_exists {outcome : Except ε α}
    (h : RaisesOnly (fun e => ¬ P e) outcome) (next : α → Except ε β) :
    RaisesOnly P (outcome >>= next) ↔
      ∃ value, outcome = .ok value ∧ RaisesOnly P (next value) := by
  cases outcome with
  | error e =>
      show RaisesOnly P (.error e) ↔ _
      simpa using h
  | ok value =>
      show RaisesOnly P (next value) ↔ _
      simp

theorem RaisesOnly.bind {outcome : Except ε α} {next : α → Except ε β}
    (h : RaisesOnly P outcome) (hnext : ∀ value, RaisesOnly P (next value)) :
    RaisesOnly P (outcome >>= next) :=
  (h.bind_iff_forall next).mpr fun value _ => hnext value

/-- Before a part whose exceptions are all allowed, only what comes first matters. -/
theorem RaisesOnly.bind_iff_left {next : α → Except ε β}
    (hnext : ∀ value, RaisesOnly P (next value))
    (outcome : Except ε α) : RaisesOnly P (outcome >>= next) ↔ RaisesOnly P outcome := by
  cases outcome with
  | error e =>
      show RaisesOnly P (.error e) ↔ _
      rw [raisesOnly_error, raisesOnly_error]
  | ok value => exact iff_of_true (hnext value) (raisesOnly_ok value)

/-- A computation for each element raises what they raise. -/
theorem RaisesOnly.mapM {f : α → Except ε β} (h : ∀ x, RaisesOnly P (f x)) (xs : List α) :
    RaisesOnly P (xs.mapM f) := by
  induction xs with
  | nil => exact raisesOnly_ok []
  | cons x xs ih =>
      rw [List.mapM_cons]
      exact (h x).bind fun y => ih.bind fun ys => raisesOnly_ok (y :: ys)

/-- A computation that raises no allowed exception has to return a value. -/
theorem RaisesOnly.iff_returns {outcome : Except ε α}
    (h : RaisesOnly (fun e => ¬ P e) outcome) :
    RaisesOnly P outcome ↔ ∃ value, outcome = .ok value := by
  cases outcome with
  | error e => simpa using h
  | ok value => simp

theorem bind_eq_ok_iff (outcome : Except ε α) (next : α → Except ε β) (result : β) :
    (outcome >>= next) = .ok result ↔ ∃ value, outcome = .ok value ∧ next value = .ok result := by
  cases outcome with
  | error e => simp [bind, Except.bind]
  | ok value => simp [bind, Except.bind]

/-- A computation for each element of a list returns exactly when each of them does. -/
theorem mapM_eq_ok_iff {f : α → Except ε β} {xs : List α} {ys : List β} :
    xs.mapM f = .ok ys ↔ List.Forall₂ (fun x y => f x = .ok y) xs ys := by
  induction xs generalizing ys with
  | nil =>
      rw [List.mapM_nil, List.forall₂_nil_left_iff]
      constructor
      · intro h
        exact (Except.ok.inj h).symm
      · rintro rfl
        rfl
  | cons x xs ih =>
      rw [List.mapM_cons, bind_eq_ok_iff, List.forall₂_cons_left_iff]
      refine exists_congr fun y => ?_
      rw [bind_eq_ok_iff]
      constructor
      · rintro ⟨hy, rest, hrest, hys⟩
        exact ⟨rest, hy, ih.mp hrest, (Except.ok.inj hys).symm⟩
      · rintro ⟨rest, hy, hrest, rfl⟩
        exact ⟨hy, rest, ih.mpr hrest, rfl⟩

end Effects
