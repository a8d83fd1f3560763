/-
# Interleaved programs

A pool is one shared state with a program for each participant. A schedule says
whose turn it is; a turn makes that participant's next call. Every interleaving
of the participants' calls is the run of some schedule, so a statement about all
interleavings is a statement about all schedules.

Two rules carry the proofs. `Obligation.settled_of_owed` shows that a goal on the
shared state holds once everybody has finished: somebody is always still bound
to bring it about, or it already holds. `reaches_resume` builds a particular
interleaving out of whole stretches of one participant's calls.
-/

import ByodsServer.Effects.Modality
import ByodsServer.Effects.Runs
import Mathlib.Data.Fintype.Basic
import Mathlib.Logic.Function.Basic

namespace Effects

variable {S : Signature} {ε α β ι σ : Type}

/-- A shared state and what each participant still has to do. -/
structure Pool (S : Signature) (ε α ι σ : Type) where
  /-- The shared state. -/
  state : σ
  /-- The remaining program of each participant. -/
  programs : ι → Program S ε α

namespace Pool

variable [DecidableEq ι] (handler : Handler S ε σ)

/-- One turn of a participant: its next call, or nothing once it has finished. -/
def stepAt (pool : Pool S ε α ι σ) (who : ι) : Pool S ε α ι σ :=
  match pool.programs who with
  | .finish _ => pool
  | .call request next =>
      { state := (handler request pool.state).2
        programs :=
          Function.update pool.programs who (next (handler request pool.state).1) }

/-- Run a schedule of turns. -/
def runSchedule (pool : Pool S ε α ι σ) (schedule : List ι) : Pool S ε α ι σ :=
  schedule.foldl (stepAt handler) pool

/-- Everybody has finished. -/
def Settled (pool : Pool S ε α ι σ) : Prop :=
  ∀ who, ∃ result, pool.programs who = .finish result

/-- Some schedule leads from one pool to another. -/
def Reaches (first second : Pool S ε α ι σ) : Prop :=
  ∃ schedule, first.runSchedule handler schedule = second

theorem stepAt_finish {pool : Pool S ε α ι σ} {who : ι} {result : Except ε α}
    (h : pool.programs who = .finish result) : pool.stepAt handler who = pool := by
  simp only [stepAt, h]

theorem stepAt_call {pool : Pool S ε α ι σ} {who : ι} {request : S.Call}
    {next : Except ε (S.Reply request) → Program S ε α}
    (h : pool.programs who = .call request next) :
    pool.stepAt handler who =
      { state := (handler request pool.state).2
        programs :=
          Function.update pool.programs who (next (handler request pool.state).1) } := by
  simp only [stepAt, h]

/-- What one turn can do: nothing, or one call of the participant whose turn it
is, everybody else keeping their program. -/
theorem stepAt_cases (pool : Pool S ε α ι σ) (who : ι) :
    pool.stepAt handler who = pool ∨
      ∃ request next, pool.programs who = .call request next ∧
        pool.stepAt handler who =
          { state := (handler request pool.state).2
            programs :=
              Function.update pool.programs who (next (handler request pool.state).1) } := by
  cases h : pool.programs who with
  | finish result => exact Or.inl (stepAt_finish handler h)
  | call request next => exact Or.inr ⟨request, next, rfl, stepAt_call handler h⟩

@[simp]
theorem runSchedule_nil (pool : Pool S ε α ι σ) : pool.runSchedule handler [] = pool := rfl

@[simp]
theorem runSchedule_cons (pool : Pool S ε α ι σ) (who : ι) (schedule : List ι) :
    pool.runSchedule handler (who :: schedule) =
      (pool.stepAt handler who).runSchedule handler schedule := rfl

theorem runSchedule_append (pool : Pool S ε α ι σ) (first second : List ι) :
    pool.runSchedule handler (first ++ second) =
      (pool.runSchedule handler first).runSchedule handler second :=
  List.foldl_append

/-- A property of pools that every turn preserves holds after every schedule. -/
theorem runSchedule_invariant {P : Pool S ε α ι σ → Prop}
    (hstep : ∀ pool who, P pool → P (pool.stepAt handler who))
    (schedule : List ι) {pool : Pool S ε α ι σ} (hpool : P pool) :
    P (pool.runSchedule handler schedule) :=
  runEvents_invariant hstep schedule hpool

/-- What holds of each participant's program and the shared state, and what every
participant's turns keep for itself and for all others, holds after every
schedule. -/
theorem runSchedule_each {R : ι → Program S ε α → σ → Prop}
    (hown : ∀ who request next state, R who (.call request next) state →
      R who (next (handler request state).1) (handler request state).2)
    (hother : ∀ who other request next p state, other ≠ who →
      R who (.call request next) state → R other p state → R other p (handler request state).2)
    (schedule : List ι) {pool : Pool S ε α ι σ}
    (h : ∀ who, R who (pool.programs who) pool.state) (who : ι) :
    R who ((pool.runSchedule handler schedule).programs who)
      (pool.runSchedule handler schedule).state := by
  refine runSchedule_invariant handler
    (P := fun pool => ∀ who, R who (pool.programs who) pool.state) (fun pool turn h other => ?_)
    schedule h who
  rcases pool.stepAt_cases handler turn with hsame | ⟨request, next, hcall, hstep⟩
  · rw [hsame]
    exact h other
  · have hturn := h turn
    rw [hcall] at hturn
    rw [hstep]
    by_cases hne : other = turn
    · subst hne
      simpa using hown other request next pool.state hturn
    · simpa [Function.update_of_ne hne] using
        hother turn other request next (pool.programs other) pool.state hne hturn (h other)

omit [DecidableEq ι] in
/-- A pool in which nobody has a call to make is settled. -/
theorem settled_of_nextCall? {pool : Pool S ε α ι σ}
    (h : ∀ who, (pool.programs who).nextCall?.isNone = true) : pool.Settled := by
  intro who
  have hnone := h who
  cases hprogram : pool.programs who with
  | finish result => exact ⟨result, rfl⟩
  | call request next =>
      rw [hprogram] at hnone
      cases hnone

/-- Who has no turn keeps its program. -/
theorem runSchedule_of_not_mem {who : ι} {schedule : List ι} (hnone : who ∉ schedule)
    (pool : Pool S ε α ι σ) :
    (pool.runSchedule handler schedule).programs who = pool.programs who := by
  induction schedule generalizing pool with
  | nil => rfl
  | cons other schedule ih =>
      rw [List.mem_cons, not_or] at hnone
      rw [runSchedule_cons, ih hnone.2]
      rcases pool.stepAt_cases handler other with hsame | ⟨request, next, hcall, hstep⟩
      · rw [hsame]
      · rw [hstep]
        exact Function.update_of_ne hnone.1 ..

/-- Who has finished stays so. -/
theorem runSchedule_finish {who : ι} {result : Except ε α} (schedule : List ι)
    {pool : Pool S ε α ι σ} (h : pool.programs who = .finish result) :
    (pool.runSchedule handler schedule).programs who = .finish result := by
  refine runSchedule_invariant handler (P := fun pool => pool.programs who = .finish result)
    (fun pool other h => ?_) schedule h
  rcases pool.stepAt_cases handler other with hsame | ⟨request, next, hcall, hstep⟩
  · rwa [hsame]
  · have hne : who ≠ other := by
      rintro rfl
      rw [h] at hcall
      cases hcall
    rw [hstep]
    exact (Function.update_of_ne hne ..).trans h

/-- At every turn of a schedule, what holds of the pool then. -/
def AtEveryTurn (pool : Pool S ε α ι σ) (schedule : List ι)
    (P : Pool S ε α ι σ → ι → Prop) : Prop :=
  ∀ before who after, schedule = before ++ who :: after →
    P (pool.runSchedule handler before) who

theorem AtEveryTurn.head {pool : Pool S ε α ι σ} {who : ι} {schedule : List ι}
    {P : Pool S ε α ι σ → ι → Prop} (h : pool.AtEveryTurn handler (who :: schedule) P) :
    P pool who :=
  h [] who schedule rfl

theorem AtEveryTurn.tail {pool : Pool S ε α ι σ} {who : ι} {schedule : List ι}
    {P : Pool S ε α ι σ → ι → Prop} (h : pool.AtEveryTurn handler (who :: schedule) P) :
    (pool.stepAt handler who).AtEveryTurn handler schedule P := by
  rintro before other after rfl
  exact h (who :: before) other after rfl

theorem AtEveryTurn.left {pool : Pool S ε α ι σ} {first second : List ι}
    {P : Pool S ε α ι σ → ι → Prop} (h : pool.AtEveryTurn handler (first ++ second) P) :
    pool.AtEveryTurn handler first P := by
  rintro before who after rfl
  exact h before who (after ++ second) (by simp)

/-- Two handlers that answer every call of a run alike lead to the same pool. -/
theorem runSchedule_congr {other : Handler S ε σ} {schedule : List ι} {pool : Pool S ε α ι σ}
    (h : pool.AtEveryTurn handler schedule fun pool who =>
      ∀ request, (pool.programs who).nextCall? = some request →
        handler request pool.state = other request pool.state) :
    pool.runSchedule handler schedule = pool.runSchedule other schedule := by
  induction schedule generalizing pool with
  | nil => rfl
  | cons who schedule ih =>
      have hstep : pool.stepAt handler who = pool.stepAt other who := by
        cases hprogram : pool.programs who with
        | finish result => rw [stepAt_finish handler hprogram, stepAt_finish other hprogram]
        | call request next =>
            have hsame := AtEveryTurn.head handler h request (by rw [hprogram]; rfl)
            rw [stepAt_call handler hprogram, stepAt_call other hprogram, hsame]
      rw [runSchedule_cons, runSchedule_cons, ih (AtEveryTurn.tail handler h), hstep]

/-! ## Obligations -/

/-- A goal on the shared state that the participants bring about together.
`live` describes the programs that occur, `pending` those still bound to bring
the goal about. A turn may spoil the goal only by a participant that is then
itself bound to bring it about again. -/
structure Obligation (live pending : ι → Program S ε α → Prop) (goal : σ → Prop) : Prop where
  /-- The programs that occur are closed under turns. -/
  live_next : ∀ who request next state, live who (.call request next) →
    live who (next (handler request state).1)
  /-- A participant that has finished is bound to nothing. -/
  not_pending_finish : ∀ who result, ¬ pending who (.finish result)
  /-- A bound participant brings the goal about or stays bound. -/
  pending_next : ∀ who request next state, live who (.call request next) →
    pending who (.call request next) →
    goal (handler request state).2 ∨ pending who (next (handler request state).1)
  /-- A turn keeps the goal or binds the participant that spoils it. -/
  goal_next : ∀ who request next state, live who (.call request next) → goal state →
    goal (handler request state).2 ∨ pending who (next (handler request state).1)

/-- The goal holds or somebody is bound to bring it about. -/
def Owed (live pending : ι → Program S ε α → Prop) (goal : σ → Prop)
    (pool : Pool S ε α ι σ) : Prop :=
  (∀ who, live who (pool.programs who)) ∧
    (goal pool.state ∨ ∃ who, pending who (pool.programs who))

variable {handler} in
theorem Obligation.owed_step {live pending : ι → Program S ε α → Prop} {goal : σ → Prop}
    (h : Obligation handler live pending goal) (pool : Pool S ε α ι σ) (who : ι)
    (howed : pool.Owed live pending goal) :
    (pool.stepAt handler who).Owed live pending goal := by
  rcases pool.stepAt_cases handler who with hsame | ⟨request, next, hcall, hstep⟩
  · rwa [hsame]
  · have hlive : live who (.call request next) := hcall ▸ howed.1 who
    rw [hstep]
    refine ⟨fun other => ?_, ?_⟩
    · by_cases hother : other = who
      · subst hother
        simpa using h.live_next other request next pool.state hlive
      · simpa [Function.update_of_ne hother] using howed.1 other
    · -- Either the goal or the debt of the participant on turn survives the call.
      have hturn (hdue : goal pool.state ∨ pending who (.call request next)) :
          goal (handler request pool.state).2 ∨
            pending who (next (handler request pool.state).1) :=
        hdue.elim (h.goal_next who request next pool.state hlive)
          (h.pending_next who request next pool.state hlive)
      have hmine (hdue : goal pool.state ∨ pending who (.call request next)) :
          goal (handler request pool.state).2 ∨ ∃ other, pending other
            (Function.update pool.programs who (next (handler request pool.state).1) other) :=
        (hturn hdue).imp id fun hpending => ⟨who, by simpa using hpending⟩
      rcases howed.2 with hgoal | ⟨other, hpending⟩
      · exact hmine (Or.inl hgoal)
      · by_cases hother : other = who
        · subst hother
          exact hmine (Or.inr (hcall ▸ hpending))
        · exact Or.inr ⟨other, by simpa [Function.update_of_ne hother] using hpending⟩

variable {handler} in
/-- When everybody has finished, nobody is bound any more, so the goal holds. -/
theorem Obligation.settled_of_owed {live pending : ι → Program S ε α → Prop}
    {goal : σ → Prop} (h : Obligation handler live pending goal) {pool : Pool S ε α ι σ}
    (howed : pool.Owed live pending goal) (schedule : List ι)
    (hsettled : (pool.runSchedule handler schedule).Settled) :
    goal (pool.runSchedule handler schedule).state := by
  have hfinal := runSchedule_invariant handler h.owed_step schedule howed
  rcases hfinal.2 with hgoal | ⟨who, hpending⟩
  · exact hgoal
  · obtain ⟨result, hresult⟩ := hsettled who
    rw [hresult] at hpending
    exact (h.not_pending_finish who result hpending).elim

omit [DecidableEq ι] in
variable {handler} in
/-- The usual obligation: a wanted call brings the goal about, only a call that
spoils can end it, and every such call is made up for. -/
theorem obligation_of_restores {spoils wanted : S.Call → Prop} {goal : σ → Prop}
    (hanswers : ∀ request state, ∃ reply, (handler request state).1 = .ok reply)
    (hwanted : ∀ request state, wanted request → goal (handler request state).2)
    (hkeeps : ∀ request state, ¬ spoils request → goal state → goal (handler request state).2) :
    Obligation handler (fun (_ : ι) (p : Program S ε α) => p.Restores spoils wanted)
      (fun _ p => p.Ensures wanted) goal where
  live_next _ request next state hlive := by
    obtain ⟨reply, hreply⟩ := hanswers request state
    rw [hreply]
    exact (hlive reply).2
  not_pending_finish _ _ := id
  pending_next _ request next state _ hpending := by
    obtain ⟨reply, hreply⟩ := hanswers request state
    rw [hreply]
    exact hpending.imp (hwanted request state) fun hnext => hnext reply
  goal_next _ request next state hlive hgoal := by
    obtain ⟨reply, hreply⟩ := hanswers request state
    rw [hreply]
    by_cases hspoils : spoils request
    · exact Or.inr ((hlive reply).1 hspoils)
    · exact Or.inl (hkeeps request state hspoils hgoal)

/-! ## Building one interleaving -/

variable {handler} in
theorem Reaches.refl (pool : Pool S ε α ι σ) : pool.Reaches handler pool := ⟨[], rfl⟩

variable {handler} in
theorem Reaches.trans {first second third : Pool S ε α ι σ}
    (h₁ : first.Reaches handler second) (h₂ : second.Reaches handler third) :
    first.Reaches handler third := by
  obtain ⟨schedule₁, rfl⟩ := h₁
  obtain ⟨schedule₂, rfl⟩ := h₂
  exact ⟨schedule₁ ++ schedule₂, runSchedule_append handler first schedule₁ schedule₂⟩

/-- One participant makes all the calls of the first part of its program while
the others wait. -/
theorem reaches_resume {pool : Pool S ε α ι σ} {who : ι} {p : Program S ε β}
    {k : Except ε β → Program S ε α} (h : pool.programs who = p.resume k) :
    pool.Reaches handler
      { state := (p.exec handler pool.state).2
        programs := Function.update pool.programs who (k (p.exec handler pool.state).1) } := by
  induction p generalizing pool with
  | finish result =>
      refine ⟨[], ?_⟩
      have hsame : Function.update pool.programs who (k result) = pool.programs := by
        rw [← Program.resume_finish (S := S) result k, ← h, Function.update_eq_self]
      simp [hsame]
  | call request next ih =>
      have hstep : pool.stepAt handler who =
          { state := (handler request pool.state).2
            programs := Function.update pool.programs who
              ((next (handler request pool.state).1).resume k) } :=
        stepAt_call handler h
      have hturn : (pool.stepAt handler who).programs who =
          (next (handler request pool.state).1).resume k := by
        rw [hstep]
        simp
      have hrest := ih (handler request pool.state).1 hturn
      have hone : pool.Reaches handler (pool.stepAt handler who) := ⟨[who], rfl⟩
      refine hone.trans ?_
      rw [hstep] at hrest ⊢
      simpa using hrest

/-- One participant runs to its end while the others wait. -/
theorem reaches_finish (pool : Pool S ε α ι σ) (who : ι) :
    pool.Reaches handler
      { state := ((pool.programs who).exec handler pool.state).2
        programs := Function.update pool.programs who
          (.finish ((pool.programs who).exec handler pool.state).1) } :=
  reaches_resume handler (k := Program.finish) (Program.resume_finish_right _).symm

/-- Some participants run to their ends, one after the other, while the others
wait. -/
theorem reaches_finish_each (pool : Pool S ε α ι σ) (done : List ι) :
    ∃ later, pool.Reaches handler later ∧
      (∀ who ∈ done, ∃ result, later.programs who = .finish result) ∧
      ∀ who ∉ done, later.programs who = pool.programs who := by
  induction done generalizing pool with
  | nil => exact ⟨pool, Reaches.refl pool, by simp, fun _ _ => rfl⟩
  | cons first done ih =>
      obtain ⟨later, hreaches, hdone, hsame⟩ := ih
        { state := ((pool.programs first).exec handler pool.state).2
          programs := Function.update pool.programs first
            (.finish ((pool.programs first).exec handler pool.state).1) }
      refine ⟨later, (reaches_finish handler pool first).trans hreaches, ?_, ?_⟩
      · intro who hwho
        by_cases hlater : who ∈ done
        · exact hdone who hlater
        · have hfirst : who = first := (List.mem_cons.mp hwho).resolve_right hlater
          subst hfirst
          exact ⟨_, (hsame who hlater).trans (Function.update_self ..)⟩
      · intro who hwho
        rw [List.mem_cons, not_or] at hwho
        exact (hsame who hwho.2).trans (Function.update_of_ne hwho.1 ..)

/-- One participant is overtaken: everybody else finishes, it makes the calls of
the first part of its program, another one runs from start to end, and then it
finishes as well. -/
theorem reaches_overtaken [Fintype ι] (pool : Pool S ε α ι σ) {slow fast : ι} (hne : fast ≠ slow)
    {p : Program S ε β} {k : Except ε β → Program S ε α}
    (hslow : pool.programs slow = p.resume k) :
    ∃ start schedule, (pool.runSchedule handler schedule).Settled ∧
      (pool.runSchedule handler schedule).state =
        ((k (p.exec handler start).1).exec handler
          ((pool.programs fast).exec handler (p.exec handler start).2).2).2 := by
  obtain ⟨waiting, hwaiting, hdone, hsame⟩ := reaches_finish_each handler pool
    (Finset.univ.toList.filter fun who => who ≠ slow ∧ who ≠ fast)
  have hturn : waiting.programs slow = p.resume k := (hsame slow (by simp)).trans hslow
  have hfast : waiting.programs fast = pool.programs fast := hsame fast (by simp)
  have hreaches := ((hwaiting.trans (reaches_resume handler hturn)).trans
    (reaches_finish handler _ fast)).trans (reaches_finish handler _ slow)
  obtain ⟨schedule, hschedule⟩ := hreaches
  refine ⟨waiting.state, schedule, ?_, ?_⟩
  · rw [hschedule]
    intro who
    by_cases hwhoSlow : who = slow
    · subst hwhoSlow
      exact ⟨_, Function.update_self ..⟩
    · by_cases hwhoFast : who = fast
      · subst hwhoFast
        exact ⟨_, (Function.update_of_ne hwhoSlow ..).trans (Function.update_self ..)⟩
      · obtain ⟨result, hresult⟩ := hdone who (by simp [hwhoSlow, hwhoFast])
        refine ⟨result, ?_⟩
        simp only [Function.update_of_ne hwhoSlow, Function.update_of_ne hwhoFast, hresult]
  · rw [hschedule]
    simp only [Function.update_of_ne hne, Function.update_of_ne hne.symm, Function.update_self,
      hfast]

/-! ## Two participants -/

/-- A pool of two: the one named and the other one. -/
def duo (who : Bool) (state : σ) (own other : Program S ε α) : Pool S ε α Bool σ where
  state := state
  programs participant := if participant = who then own else other

theorem update_duo_own (who : Bool) (state : σ) (own other p : Program S ε α) :
    Function.update (duo who state own other).programs who p =
        (duo who state p other).programs := by
  funext participant
  by_cases hwho : participant = who
  · simp [hwho, duo]
  · simp [hwho, duo]

theorem update_duo_other (who : Bool) (state : σ) (own other p : Program S ε α) :
    Function.update (duo who state own other).programs (!who) p =
      (duo who state own p).programs := by
  funext participant
  by_cases hwho : participant = who
  · simp [hwho, duo]
  · simp [Bool.eq_not_of_ne hwho, duo]

section Duo

variable (who : Bool) (state : σ) (p : Program S ε β) (k : Except ε β → Program S ε α)
  (rest : Program S ε α)

/-- The named participant runs the first part of its program. -/
theorem duo_reaches_own :
    (duo who state (p.resume k) rest).Reaches handler
      (duo who (p.exec handler state).2 (k (p.exec handler state).1) rest) := by
  have hturn : (duo who state (p.resume k) rest).programs who = p.resume k := if_pos rfl
  have h := reaches_resume handler hturn
  rw [update_duo_own] at h
  exact h

/-- The other participant runs the first part of its program. -/
theorem duo_reaches_other :
    (duo who state rest (p.resume k)).Reaches handler
      (duo who (p.exec handler state).2 rest (k (p.exec handler state).1)) := by
  have hturn : (duo who state rest (p.resume k)).programs (!who) = p.resume k :=
    if_neg (by simp)
  have h := reaches_resume handler hturn
  rw [update_duo_other] at h
  exact h

/-- The named participant runs to its end. -/
theorem duo_finishes_own (own : Program S ε α) :
    (duo who state own rest).Reaches handler
      (duo who (own.exec handler state).2 (.finish (own.exec handler state).1) rest) := by
  have h := duo_reaches_own handler who state own Program.finish rest
  rwa [Program.resume_finish_right] at h

/-- The other participant runs to its end. -/
theorem duo_finishes_other (other : Program S ε α) :
    (duo who state rest other).Reaches handler
      (duo who (other.exec handler state).2 rest (.finish (other.exec handler state).1)) := by
  have h := duo_reaches_other handler who state other Program.finish rest
  rwa [Program.resume_finish_right] at h

end Duo

/-- Either participant may be the one named. -/
theorem duo_swap (who : Bool) (state : σ) (own other : Program S ε α) :
    duo who state own other = duo (!who) state other own := by
  have hprograms : (duo who state own other).programs = (duo (!who) state other own).programs := by
    funext participant
    by_cases hwho : participant = who
    · simp [duo, hwho]
    · simp [duo, Bool.eq_not_of_ne hwho]
  exact congrArg (Pool.mk state) hprograms

theorem duo_forall {P : Bool → Program S ε α → Prop} (who : Bool) (state : σ)
    {own other : Program S ε α} (hown : P who own) (hother : P (!who) other)
    (participant : Bool) : P participant ((duo who state own other).programs participant) := by
  by_cases hwho : participant = who
  · simpa [duo, hwho] using hown
  · simpa [duo, Bool.eq_not_of_ne hwho] using hother

theorem duo_settled (who : Bool) (state : σ) (first second : Except ε α) :
    (duo who state (.finish first : Program S ε α) (.finish second)).Settled := by
  intro participant
  by_cases hwho : participant = who
  · exact ⟨first, if_pos hwho⟩
  · exact ⟨second, if_neg hwho⟩

end Pool

end Effects
