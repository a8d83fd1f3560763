/-
# Pools whose calls may fail

A call of a pool may work, it may be refused before it has an effect, and its answer
may be lost after it has had one; what the environment does comes in between. A
participant that has died gets no further turn.

`UsesUnreliably` bounds the calls of a program whose replies come from such a service,
and `UsesAmid` those of a program whose replies come from states with a property. What
such calls and the changes of the environment keep, every run keeps.
-/

import ByodsServer.Effects.Schedule

namespace Effects

variable {S : Signature} {ε α β ι σ κ : Type}

/-- What becomes of a call. -/
inductive Fate (ε : Type)
  | works
  | refused (e : ε)
  | lost (e : ε)

/-- A call that meets its fate. -/
def Fate.handle (handler : Handler S ε σ) : Fate ε → Handler S ε σ
  | works => handler
  | refused e => fun _ state => (.error e, state)
  | lost e => fun request state => (.error e, (handler request state).2)

/-- A call makes of the state what it makes of it when it works, or nothing. -/
theorem Fate.handle_state (handler : Handler S ε σ) (fate : Fate ε) (request : S.Call)
    (state : σ) :
    (fate.handle handler request state).2 = (handler request state).2 ∨
      (fate.handle handler request state).2 = state := by
  cases fate with
  | works => exact Or.inl rfl
  | refused e => exact Or.inr rfl
  | lost e => exact Or.inl rfl

/-- What a call keeps, it keeps whatever becomes of it. -/
theorem Fate.handle_keeps {handler : Handler S ε σ} {P : σ → Prop} {request : S.Call} {state : σ}
    (hcall : P (handler request state).2) (hstate : P state) (fate : Fate ε) :
    P (fate.handle handler request state).2 := by
  rcases fate.handle_state handler request state with h | h
  · rwa [h]
  · rwa [h]

/-! ## What a program may call -/

namespace Program

/-- Every call the program can make is allowed, as long as its replies come from the
handler, in whatever states, or are failures. -/
def UsesUnreliably (handler : Handler S ε σ) (allowed : S.Call → Prop) : Program S ε α → Prop
  | .finish _ => True
  | .call request next =>
      allowed request ∧ ∀ (fate : Fate ε) (state : σ),
        (next (fate.handle handler request state).1).UsesUnreliably handler allowed

variable {handler : Handler S ε σ} {allowed : S.Call → Prop}

theorem Uses.usesUnreliably {p : Program S ε α} (huses : p.Uses allowed)
    (handler : Handler S ε σ) : p.UsesUnreliably handler allowed := by
  induction p with
  | finish result => trivial
  | call request next ih => exact ⟨huses.1, fun fate state => ih _ (huses.2 _)⟩

theorem UsesUnreliably.mono {second : S.Call → Prop} {p : Program S ε α}
    (huses : p.UsesUnreliably handler allowed)
    (himp : ∀ request, allowed request → second request) : p.UsesUnreliably handler second := by
  induction p with
  | finish result => trivial
  | call request next ih =>
      exact ⟨himp request huses.1, fun fate state => ih _ (huses.2 fate state)⟩

theorem UsesUnreliably.resume {p : Program S ε α} {k : Except ε α → Program S ε β}
    (hp : p.UsesUnreliably handler allowed)
    (hk : ∀ result, (k result).UsesUnreliably handler allowed) :
    (p.resume k).UsesUnreliably handler allowed := by
  induction p with
  | finish result => exact hk result
  | call request next ih => exact ⟨hp.1, fun fate state => ih _ (hp.2 fate state)⟩

theorem UsesUnreliably.bind {p : Program S ε α} {f : α → Program S ε β}
    (hp : p.UsesUnreliably handler allowed)
    (hf : ∀ value, (f value).UsesUnreliably handler allowed) :
    (p >>= f).UsesUnreliably handler allowed := by
  apply hp.resume
  intro result
  cases result with
  | ok value => exact hf value
  | error e => trivial

/-- The same, as long as the replies come from states with a property. -/
def UsesAmid (handler : Handler S ε σ) (P : σ → Prop) (allowed : S.Call → Prop) :
    Program S ε α → Prop
  | .finish _ => True
  | .call request next =>
      allowed request ∧ ∀ (fate : Fate ε) (state : σ), P state →
        (next (fate.handle handler request state).1).UsesAmid handler P allowed

variable {P : σ → Prop}

theorem Uses.usesAmid {p : Program S ε α} (huses : p.Uses allowed) (handler : Handler S ε σ)
    (P : σ → Prop) : p.UsesAmid handler P allowed := by
  induction p with
  | finish result => trivial
  | call request next ih => exact ⟨huses.1, fun fate state _ => ih _ (huses.2 _)⟩

theorem UsesAmid.mono {second : S.Call → Prop} {p : Program S ε α}
    (huses : p.UsesAmid handler P allowed)
    (himp : ∀ request, allowed request → second request) : p.UsesAmid handler P second := by
  induction p with
  | finish result => trivial
  | call request next ih =>
      exact ⟨himp request huses.1, fun fate state hstate => ih _ (huses.2 fate state hstate)⟩

theorem UsesAmid.resume {p : Program S ε α} {k : Except ε α → Program S ε β}
    (hp : p.UsesAmid handler P allowed)
    (hk : ∀ result, (k result).UsesAmid handler P allowed) :
    (p.resume k).UsesAmid handler P allowed := by
  induction p with
  | finish result => exact hk result
  | call request next ih =>
      exact ⟨hp.1, fun fate state hstate => ih _ (hp.2 fate state hstate)⟩

theorem UsesAmid.bind {p : Program S ε α} {f : α → Program S ε β}
    (hp : p.UsesAmid handler P allowed) (hf : ∀ value, (f value).UsesAmid handler P allowed) :
    (p >>= f).UsesAmid handler P allowed := by
  apply hp.resume
  intro result
  cases result with
  | ok value => exact hf value
  | error e => trivial

end Program

/-! ## Runs -/

/-- What happens in a pool: the next call of a participant meets its fate, or the
environment changes something. -/
inductive PoolEvent (ε ι κ : Type)
  | turn (who : ι) (fate : Fate ε)
  | changes (change : κ)

namespace Pool

variable [DecidableEq ι] (handler : Handler S ε σ) (environment : κ → σ → σ)

/-- One event. -/
def occur (pool : Pool S ε α ι σ) : PoolEvent ε ι κ → Pool S ε α ι σ
  | .turn who fate => pool.stepAt (fate.handle handler) who
  | .changes change => { pool with state := environment change pool.state }

/-- A run of events. -/
def occurAll (pool : Pool S ε α ι σ) (events : List (PoolEvent ε ι κ)) : Pool S ε α ι σ :=
  runEvents (occur handler environment) pool events

variable {handler environment} {allowed : S.Call → Prop} {P : σ → Prop}

/-- Turns leave every participant a program of allowed calls. -/
theorem usesUnreliably_stepAt {pool : Pool S ε α ι σ} {other : ι}
    (h : (pool.programs other).UsesUnreliably handler allowed) (who : ι) (fate : Fate ε) :
    ((pool.stepAt (fate.handle handler) who).programs other).UsesUnreliably handler allowed := by
  rcases pool.stepAt_cases (fate.handle handler) who with hsame | ⟨request, next, hcall, hstep⟩
  · rwa [hsame]
  · rw [hstep]
    by_cases hne : other = who
    · subst hne
      rw [hcall] at h
      simpa using h.2 fate pool.state
    · simpa [Function.update_of_ne hne] using h

omit [DecidableEq ι] in
/-- A property holds, and as long as it does every participant makes only allowed calls. -/
structure Kept (handler : Handler S ε σ) (allowed : S.Call → Prop) (P : σ → Prop)
    (pool : Pool S ε α ι σ) : Prop where
  uses : ∀ who, (pool.programs who).UsesAmid handler P allowed
  state : P pool.state

/-- A turn keeps what allowed calls keep. -/
theorem Kept.turn {pool : Pool S ε α ι σ} (h : pool.Kept handler allowed P)
    (hcall : ∀ request, allowed request → ∀ state, P state → P (handler request state).2)
    (who : ι) (fate : Fate ε) : (pool.stepAt (fate.handle handler) who).Kept handler allowed P := by
  rcases pool.stepAt_cases (fate.handle handler) who with hsame | ⟨request, next, hprogram, hstep⟩
  · rwa [hsame]
  · have hwho := h.uses who
    rw [hprogram] at hwho
    rw [hstep]
    refine ⟨fun other => ?_,
      fate.handle_keeps (hcall request hwho.1 pool.state h.state) h.state⟩
    by_cases hne : other = who
    · subst hne
      simpa using hwho.2 fate pool.state h.state
    · simpa [Function.update_of_ne hne] using h.uses other

/-- What allowed calls and the environment keep, every run keeps. -/
theorem Kept.occurAll {pool : Pool S ε α ι σ} (h : pool.Kept handler allowed P)
    (hcall : ∀ request, allowed request → ∀ state, P state → P (handler request state).2)
    (hchange : ∀ change state, P state → P (environment change state))
    (events : List (PoolEvent ε ι κ)) :
    (pool.occurAll handler environment events).Kept handler allowed P := by
  refine runEvents_invariant (fun pool event h => ?_) events h
  cases event with
  | turn who fate => exact h.turn hcall who fate
  | changes change => exact ⟨h.uses, hchange change pool.state h.state⟩

end Pool

end Effects
