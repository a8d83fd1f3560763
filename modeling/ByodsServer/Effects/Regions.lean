/-
# Participants that keep to a part of the state

A part of the state is given by a view of it. A call is decided by the view when its
answer and what it makes of the view depend on nothing else, and it spares the view
when it leaves it as it is. In a pool whose insiders make only calls of the first kind
and whose outsiders make only calls of the second, the insiders cannot tell whether
the outsiders took their turns: `occurAll_insiders` compares a run with what is left of
it when only the events that concern the insiders are kept.
-/

import ByodsServer.Effects.UnreliablePool

namespace Effects

variable {S : Signature} {ε α ι σ κ ν : Type}

/-- The call answers by the view alone, and so comes about what the view is after it. -/
structure DecidedBy (handler : Handler S ε σ) (view : σ → ν) (request : S.Call) : Prop where
  /-- States that look alike answer alike. -/
  answer : ∀ first second, view first = view second →
    (handler request first).1 = (handler request second).1
  /-- States that look alike look alike after the call. -/
  after : ∀ first second, view first = view second →
    view (handler request first).2 = view (handler request second).2

/-- The call leaves the view as it is. -/
def Spares (handler : Handler S ε σ) (view : σ → ν) (request : S.Call) : Prop :=
  ∀ state, view (handler request state).2 = view state

/-- What the view decides it decides whatever becomes of the call. -/
theorem DecidedBy.handle {handler : Handler S ε σ} {view : σ → ν} {request : S.Call}
    (h : DecidedBy handler view request) (fate : Fate ε) :
    DecidedBy (fate.handle handler) view request := by
  cases fate with
  | works => exact h
  | refused e => exact ⟨fun _ _ _ => rfl, fun _ _ hsame => hsame⟩
  | lost e => exact ⟨fun _ _ _ => rfl, h.after⟩

theorem Spares.handle {handler : Handler S ε σ} {view : σ → ν} {request : S.Call}
    (h : Spares handler view request) (fate : Fate ε) :
    Spares (fate.handle handler) view request := by
  cases fate with
  | works => exact h
  | refused e => exact fun _ => rfl
  | lost e => exact h

/-- A change of the environment that concerns the view is decided by it, and any other
spares it. -/
structure SeparatesChanges (environment : κ → σ → σ) (view : σ → ν) (concerns : κ → Prop) :
    Prop where
  decided : ∀ change, concerns change → ∀ first second, view first = view second →
    view (environment change first) = view (environment change second)
  spared : ∀ change, ¬ concerns change → ∀ state, view (environment change state) = view state

/-- The event is a turn of an insider, or a change that concerns them. -/
def PoolEvent.Inside (insider : ι → Prop) (concerns : κ → Prop) : PoolEvent ε ι κ → Prop
  | .turn who _ => insider who
  | .changes change => concerns change

instance {insider : ι → Prop} {concerns : κ → Prop} [DecidablePred insider]
    [DecidablePred concerns] :
    DecidablePred (PoolEvent.Inside insider concerns : PoolEvent ε ι κ → Prop)
  | .turn who _ => inferInstanceAs (Decidable (insider who))
  | .changes change => inferInstanceAs (Decidable (concerns change))

namespace Pool

variable {handler : Handler S ε σ} {view : σ → ν} {insider : ι → Prop}

/-- Insiders make only calls that the view decides, and outsiders only calls that
spare it. -/
structure Separated (handler : Handler S ε σ) (view : σ → ν) (insider : ι → Prop)
    (pool : Pool S ε α ι σ) : Prop where
  insiders : ∀ who, insider who →
    (pool.programs who).UsesUnreliably handler (DecidedBy handler view)
  outsiders : ∀ who, ¬ insider who →
    (pool.programs who).UsesUnreliably handler (Spares handler view)

/-- Two pools have the same view, and insiders have the same programs left. -/
structure AlikeFor (view : σ → ν) (insider : ι → Prop) (first second : Pool S ε α ι σ) : Prop where
  view_eq : view first.state = view second.state
  programs_eq : ∀ who, insider who → first.programs who = second.programs who

variable [DecidableEq ι]

/-- A turn keeps insiders and outsiders apart. -/
theorem Separated.stepAt {pool : Pool S ε α ι σ} (h : pool.Separated handler view insider)
    (who : ι) (fate : Fate ε) :
    (pool.stepAt (fate.handle handler) who).Separated handler view insider where
  insiders other hother := usesUnreliably_stepAt (h.insiders other hother) who fate
  outsiders other hother := usesUnreliably_stepAt (h.outsiders other hother) who fate

/-- A turn of an outsider is not noticed. -/
theorem AlikeFor.step_outsider {first second : Pool S ε α ι σ}
    (h : AlikeFor view insider first second) (hfirst : first.Separated handler view insider)
    {who : ι} (hwho : ¬ insider who) (fate : Fate ε) :
    AlikeFor view insider (first.stepAt (fate.handle handler) who) second := by
  rcases first.stepAt_cases (fate.handle handler) who with hsame | ⟨request, next, hcall, hstep⟩
  · rwa [hsame]
  · have huses := hfirst.outsiders who hwho
    rw [hcall] at huses
    rw [hstep]
    refine ⟨(huses.1.handle fate first.state).trans h.view_eq, fun other hother => ?_⟩
    have hne : other ≠ who := by
      rintro rfl
      exact hwho hother
    exact (Function.update_of_ne hne ..).trans (h.programs_eq other hother)

/-- A turn of an insider does the same in both pools. -/
theorem AlikeFor.step_insider {first second : Pool S ε α ι σ}
    (h : AlikeFor view insider first second) (hfirst : first.Separated handler view insider)
    {who : ι} (hwho : insider who) (fate : Fate ε) :
    AlikeFor view insider (first.stepAt (fate.handle handler) who)
      (second.stepAt (fate.handle handler) who) := by
  have hsame := h.programs_eq who hwho
  cases hprogram : first.programs who with
  | finish result =>
      rw [stepAt_finish _ hprogram, stepAt_finish _ (hsame.symm.trans hprogram)]
      exact h
  | call request next =>
      have huses := hfirst.insiders who hwho
      rw [hprogram] at huses
      have hdecided := huses.1.handle fate
      have hanswer := hdecided.answer first.state second.state h.view_eq
      rw [stepAt_call _ hprogram, stepAt_call _ (hsame.symm.trans hprogram)]
      refine ⟨hdecided.after first.state second.state h.view_eq, fun other hother => ?_⟩
      by_cases hne : other = who
      · subst hne
        simp [hanswer]
      · simpa [Function.update_of_ne hne] using h.programs_eq other hother

/-- After a run, the view is as it is when nothing happens but what concerns the
insiders, and they have the same programs left. -/
theorem occurAll_insiders [DecidablePred insider] {concerns : κ → Prop} [DecidablePred concerns]
    {environment : κ → σ → σ} (hchanges : SeparatesChanges environment view concerns)
    {pool : Pool S ε α ι σ} (hpool : pool.Separated handler view insider)
    (events : List (PoolEvent ε ι κ)) :
    AlikeFor view insider (pool.occurAll handler environment events)
      (pool.occurAll handler environment
        (events.filter fun event => event.Inside insider concerns)) := by
  have hrun (first second : Pool S ε α ι σ) (hfirst : first.Separated handler view insider)
      (halike : AlikeFor view insider first second) :
      AlikeFor view insider (first.occurAll handler environment events)
        (second.occurAll handler environment
          (events.filter fun event => event.Inside insider concerns)) := by
    induction events generalizing first second with
    | nil => exact halike
    | cons event events ih =>
        rw [List.filter_cons]
        cases event with
        | turn who fate =>
            have hseparated := hfirst.stepAt who fate
            split_ifs with hwho
            · exact ih _ _ hseparated (halike.step_insider hfirst (of_decide_eq_true hwho) fate)
            · have hout : ¬ insider who := fun hin => hwho (decide_eq_true hin)
              exact ih _ _ hseparated (halike.step_outsider hfirst hout fate)
        | changes change =>
            have hseparated : (Pool.mk (environment change first.state)
                first.programs).Separated handler view insider :=
              ⟨hfirst.insiders, hfirst.outsiders⟩
            split_ifs with hconcerns
            · have hview := hchanges.decided change (of_decide_eq_true hconcerns) first.state
                second.state halike.view_eq
              exact ih _ _ hseparated ⟨hview, halike.programs_eq⟩
            · have hout : ¬ concerns change := fun hin => hconcerns (decide_eq_true hin)
              have hview := hchanges.spared change hout first.state
              exact ih _ _ hseparated ⟨hview.trans halike.view_eq, halike.programs_eq⟩
  exact hrun pool pool hpool ⟨rfl, fun _ _ => rfl⟩

end Pool

end Effects
