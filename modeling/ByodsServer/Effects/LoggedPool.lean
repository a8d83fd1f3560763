/-
# Pools that keep histories

A pool that logs the calls of each participant, each with its answer. The answers
may depend on whose turn it is. Participants that follow a protocol go on following
it from their own histories, whatever happens to the shared state in between: at
each turn the call is one that the protocol allows then.
-/

import ByodsServer.Effects.Histories
import ByodsServer.Effects.Schedule

namespace Effects

variable {S : Signature} {ε α ι σ : Type}

/-- A pool with the history of each participant. -/
structure LoggedPool (S : Signature) (ε α ι σ : Type) extends Pool S ε α ι σ where
  /-- The calls of each participant so far, the latest first. -/
  histories : ι → History S ε

namespace LoggedPool

variable [DecidableEq ι] (handler : Handler S ε σ)

/-- One turn of a participant, with an entry in its history. -/
def turn (pool : LoggedPool S ε α ι σ) (who : ι) : LoggedPool S ε α ι σ :=
  match pool.programs who with
  | .finish _ => pool
  | .call request next =>
      { state := (handler request pool.state).2
        programs := Function.update pool.programs who (next (handler request pool.state).1)
        histories := Function.update pool.histories who
          (⟨request, (handler request pool.state).1⟩ :: pool.histories who) }

theorem turn_finish {pool : LoggedPool S ε α ι σ} {who : ι} {result : Except ε α}
    (h : pool.programs who = .finish result) : pool.turn handler who = pool := by
  simp only [turn, h]

theorem turn_call {pool : LoggedPool S ε α ι σ} {who : ι} {request : S.Call}
    {next : Except ε (S.Reply request) → Program S ε α}
    (h : pool.programs who = .call request next) :
    pool.turn handler who =
      { state := (handler request pool.state).2
        programs := Function.update pool.programs who (next (handler request pool.state).1)
        histories := Function.update pool.histories who
          (⟨request, (handler request pool.state).1⟩ :: pool.histories who) } := by
  simp only [turn, h]

omit [DecidableEq ι] in
/-- Every participant follows the protocol from its own history on. -/
def AllFollow (allowed : History S ε → S.Call → Prop)
    (post : History S ε → Except ε α → Prop) (pool : LoggedPool S ε α ι σ) : Prop :=
  ∀ who, (pool.programs who).Follows allowed post (pool.histories who)

variable {handler} {allowed : History S ε → S.Call → Prop}
  {post : History S ε → Except ε α → Prop}

omit [DecidableEq ι] in
theorem AllFollow.allowed_of_call {pool : LoggedPool S ε α ι σ}
    (h : pool.AllFollow allowed post) {who : ι} {request : S.Call}
    {next : Except ε (S.Reply request) → Program S ε α}
    (hcall : pool.programs who = .call request next) :
    allowed (pool.histories who) request := by
  have hwho := h who
  rw [hcall] at hwho
  exact hwho.1

omit [DecidableEq ι] in
theorem AllFollow.post_of_finish {pool : LoggedPool S ε α ι σ}
    (h : pool.AllFollow allowed post) {who : ι} {result : Except ε α}
    (hfinish : pool.programs who = .finish result) : post (pool.histories who) result := by
  have hwho := h who
  rwa [hfinish] at hwho

/-- A turn leaves everybody following the protocol. -/
theorem AllFollow.turn {pool : LoggedPool S ε α ι σ} (h : pool.AllFollow allowed post) (who : ι) :
    (pool.turn handler who).AllFollow allowed post := by
  cases hprogram : pool.programs who with
  | finish result =>
      rw [turn_finish handler hprogram]
      exact h
  | call request next =>
      rw [turn_call handler hprogram]
      intro other
      by_cases hother : other = who
      · subst hother
        have hwho := h other
        rw [hprogram] at hwho
        simpa using hwho.2 (handler request pool.state).1
      · simpa [Function.update_of_ne hother] using h other

end LoggedPool

end Effects
