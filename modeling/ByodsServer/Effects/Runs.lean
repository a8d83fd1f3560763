/-
# Runs of events

A state that changes event by event. A property that a step keeps exactly when
its event is safe holds all along a run exactly when every event of the run was
safe in the state that it met.
-/

import Mathlib.Data.List.Induction
import Mathlib.Tactic.Common

namespace Effects

variable {σ ι : Type}

/-- The state after a sequence of events. -/
def runEvents (step : σ → ι → σ) (start : σ) (events : List ι) : σ :=
  events.foldl step start

theorem runEvents_concat (step : σ → ι → σ) (start : σ) (events : List ι) (event : ι) :
    runEvents step start (events ++ [event]) = step (runEvents step start events) event :=
  List.foldl_append

/-- A property that every event keeps holds after every run. -/
theorem runEvents_invariant {step : σ → ι → σ} {P : σ → Prop}
    (hstep : ∀ state event, P state → P (step state event)) (events : List ι) {start : σ}
    (hstart : P start) : P (runEvents step start events) := by
  induction events generalizing start with
  | nil => exact hstart
  | cons event events ih => exact ih (hstep start event hstart)

/-- A relation between two systems that every event keeps relates their runs. -/
theorem runEvents_related {τ : Type} {first : σ → ι → σ} {second : τ → ι → τ} {R : σ → τ → Prop}
    (hstep : ∀ state other event, R state other → R (first state event) (second other event))
    (events : List ι) {start : σ} {otherStart : τ} (hstart : R start otherStart) :
    R (runEvents first start events) (runEvents second otherStart events) := by
  induction events generalizing start otherStart with
  | nil => exact hstart
  | cons event events ih => exact ih (hstep start otherStart event hstart)

/-- What holds at each event of a list holds at the first, and at each of the rest. -/
theorem forall_prefix_cons {P : List ι → ι → Prop} {first : ι} {events : List ι} :
    (∀ before event after, first :: events = before ++ event :: after → P before event) ↔
      P [] first ∧
        ∀ before event after, events = before ++ event :: after → P (first :: before) event := by
  constructor
  · intro h
    refine ⟨h [] first events rfl, fun before event after hevents => ?_⟩
    exact h (first :: before) event after (congrArg (first :: ·) hevents)
  · rintro ⟨hfirst, hrest⟩ before event after hevents
    cases before with
    | nil =>
        obtain ⟨rfl, -⟩ := List.cons.inj hevents
        exact hfirst
    | cons head before =>
        obtain ⟨rfl, htail⟩ := List.cons.inj hevents
        exact hrest before event after htail

/-- A property that safe events keep holds after every event of a run of them. -/
theorem holds_of_safe {step : σ → ι → σ} {P : σ → Prop} {safe : σ → ι → Prop}
    (hstep : ∀ state event, P state → safe state event → P (step state event))
    {start : σ} (hstart : P start) {events : List ι}
    (hsafe : ∀ before event after, events = before ++ event :: after →
      safe (runEvents step start before) event)
    (before after : List ι) (hevents : events = before ++ after) :
    P (runEvents step start before) := by
  induction before using List.reverseRecOn generalizing after with
  | nil => exact hstart
  | append_singleton before event ih =>
      have hevents : events = before ++ event :: after := by simpa using hevents
      rw [runEvents_concat]
      exact hstep _ event (ih (event :: after) hevents) (hsafe before event after hevents)

/-- A property that events keep only when they are safe, and that holds after
every event of a run, shows that each of them was safe. -/
theorem safe_of_holds {step : σ → ι → σ} {P : σ → Prop} {safe : σ → ι → Prop}
    (hstep : ∀ state event, P state → P (step state event) → safe state event)
    {start : σ} {events : List ι}
    (hholds : ∀ before after, events = before ++ after → P (runEvents step start before))
    (before : List ι) (event : ι) (after : List ι) (hevents : events = before ++ event :: after) :
    safe (runEvents step start before) event := by
  apply hstep
  · exact hholds before (event :: after) hevents
  · have hnext := hholds (before ++ [event]) after (by simp [hevents])
    rwa [runEvents_concat] at hnext

/-- A property that a step keeps exactly when its event is safe. -/
theorem holds_iff_safe {step : σ → ι → σ} {P : σ → Prop} {safe : σ → ι → Prop}
    (hstep : ∀ state event, P state → (P (step state event) ↔ safe state event))
    {start : σ} (hstart : P start) (events : List ι) :
    (∀ before after, events = before ++ after → P (runEvents step start before)) ↔
      ∀ before event after, events = before ++ event :: after →
        safe (runEvents step start before) event :=
  ⟨safe_of_holds fun state event h => (hstep state event h).mp,
    holds_of_safe (fun state event h => (hstep state event h).mpr) hstart⟩

end Effects
