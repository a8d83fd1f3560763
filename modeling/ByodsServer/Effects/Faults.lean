/-
# Calls that fail

A fault plan lists, call by call, whether the call works or raises without
having had an effect; once the plan is used up every call works. A program that
stops at its first failed call, whatever it then reports, leaves the state of
some point of its undisturbed run, which is how every statement about
interrupted programs reduces to one about undisturbed ones.

`PausesBetween` names the points a bystander can look at: those between two
calls of a kind. Every such point is what some fault plan leaves behind.

The noting handler keeps what is noted about the calls in the state, for
statements about which calls a run made.
-/

import ByodsServer.Effects.Modality

namespace Effects

variable {S : Signature} {ε α β σ : Type}

namespace Handler

/-- Disturb a handler by a fault plan carried in the state. -/
def faulty (handler : Handler S ε σ) : Handler S ε (σ × List (Option ε))
  | request, (state, []) => ((handler request state).1, (handler request state).2, [])
  | request, (state, none :: plan) =>
      ((handler request state).1, (handler request state).2, plan)
  | _, (state, some e :: plan) => (.error e, state, plan)

/-- Keep what is noted about the calls in the state, oldest first. -/
def noting (note : S.Call → Option β) (handler : Handler S ε σ) : Handler S ε (σ × List β) :=
  fun request state =>
    ((handler request state.1).1, (handler request state.1).2,
      state.2 ++ (note request).toList)

end Handler

namespace Program

/-- An exception of a call is an exception of the program. -/
def Propagates : Program S ε α → Prop
  | .finish _ => True
  | .call _ next =>
      (∀ e, next (.error e) = .finish (.error e)) ∧
        ∀ reply, (next (.ok reply)).Propagates

/-- Once a call raises, the program makes no further call. -/
def StopsOnError : Program S ε α → Prop
  | .finish _ => True
  | .call _ next =>
      (∀ e, ∃ result, next (.error e) = .finish result) ∧
        ∀ reply, (next (.ok reply)).StopsOnError

theorem propagates_await (request : S.Call) : (await request : Program S ε _).Propagates :=
  ⟨fun _ => rfl, fun _ => trivial⟩

theorem Propagates.bind {p : Program S ε α} {f : α → Program S ε β} (hp : p.Propagates)
    (hf : ∀ value, (f value).Propagates) : (p >>= f).Propagates := by
  induction p with
  | finish result =>
      cases result with
      | ok value => exact hf value
      | error e => trivial
  | call request next ih =>
      refine ⟨fun e => ?_, fun reply => ih (.ok reply) (hp.2 reply)⟩
      simp [hp.1 e]

theorem propagates_forEach {body : β → Program S ε Unit} (hbody : ∀ x, (body x).Propagates)
    (xs : List β) : (forEach xs body).Propagates := by
  induction xs with
  | nil => trivial
  | cons x xs ih => exact (hbody x).bind fun _ => ih

theorem Propagates.stopsOnError {p : Program S ε α} (hp : p.Propagates) :
    p.StopsOnError := by
  induction p with
  | finish result => trivial
  | call request next ih =>
      exact ⟨fun e => ⟨_, hp.1 e⟩, fun reply => ih (.ok reply) (hp.2 reply)⟩

/-- What follows a call, whether it works or raises, stops as well. -/
theorem StopsOnError.next {request : S.Call} {next : Except ε (S.Reply request) → Program S ε α}
    (hp : (Program.call request next).StopsOnError) (reply : Except ε (S.Reply request)) :
    (next reply).StopsOnError := by
  cases reply with
  | ok value => exact hp.2 value
  | error e =>
      obtain ⟨result, hresult⟩ := hp.1 e
      rw [hresult]
      trivial

/-- Reporting the outcome of a program without further calls still stops at the
first failed call. -/
theorem StopsOnError.resume {p : Program S ε α} {k : Except ε α → Program S ε β}
    (hp : p.StopsOnError) (hk : ∀ result, ∃ report, k result = .finish report) :
    (p.resume k).StopsOnError := by
  induction p with
  | finish result =>
      obtain ⟨report, hreport⟩ := hk result
      simp [hreport, StopsOnError]
  | call request next ih =>
      refine ⟨fun e => ?_, fun reply => ih (.ok reply) (hp.2 reply)⟩
      obtain ⟨result, hresult⟩ := hp.1 e
      simpa [hresult] using hk result

/-- The state an interrupted program leaves is the state of some point of its
undisturbed run. -/
theorem StopsOnError.exec_faulty {handler : Handler S ε σ} {p : Program S ε α}
    (hp : p.StopsOnError) (state : σ) (plan : List (Option ε)) :
    ∃ fuel, (p.exec handler.faulty (state, plan)).2.1 = (p.runFor handler fuel state).2 := by
  induction p generalizing state plan with
  | finish result => exact ⟨0, rfl⟩
  | call request next ih =>
      have hworks (plan : List (Option ε)) :
          ∃ fuel, ((next (handler request state).1).exec handler.faulty
              ((handler request state).2, plan)).2.1 =
            ((Program.call request next).runFor handler fuel state).2 := by
        obtain ⟨fuel, hfuel⟩ := ih _ (hp.next _) (handler request state).2 plan
        exact ⟨fuel + 1, hfuel⟩
      rcases plan with _ | ⟨_ | e, plan⟩
      · exact hworks []
      · exact hworks plan
      · obtain ⟨result, hresult⟩ := hp.1 e
        exact ⟨0, by simp [Handler.faulty, hresult]⟩

/-- Conversely every point of the undisturbed run at which a call is still due
is left behind when exactly that call raises. -/
theorem StopsOnError.exec_faulty_at {handler : Handler S ε σ} {p : Program S ε α}
    (hp : p.StopsOnError) (state : σ) (fuel : ℕ) (e : ε) {request : S.Call}
    (hdue : (p.runFor handler fuel state).1.nextCall? = some request) :
    (p.exec handler.faulty (state, List.replicate fuel none ++ [some e])).2.1 =
      (p.runFor handler fuel state).2 := by
  induction fuel generalizing p state with
  | zero =>
      cases p with
      | finish result => rfl
      | call request' next =>
          obtain ⟨result, hresult⟩ := hp.1 e
          simp [Handler.faulty, hresult]
  | succ fuel ih =>
      cases p with
      | finish result => rfl
      | call request' next => exact ih (hp.next _) _ hdue

/-! ## Last calls -/

/-- A point of a run that ends in one more call is a point before this call, or
the end. -/
theorem runFor_bind_await_cases (handler : Handler S ε σ) (p : Program S ε α) (request : S.Call)
    (fuel : ℕ) (state : σ) :
    (∃ spent, ((p >>= fun _ => await request).runFor handler fuel state).2 =
        (p.runFor handler spent state).2) ∨
      ((p >>= fun _ => await request).runFor handler fuel state).2 =
        ((p >>= fun _ => await request).exec handler state).2 := by
  obtain ⟨whole, hwhole⟩ := exists_runFor_eq_exec handler p state
  rcases runFor_resume_cases handler fuel p (andThen fun _ => await request) state with
    hfirst | ⟨spent, hspent⟩
  · exact Or.inl hfirst
  · rw [bind_eq, hspent, exec_resume]
    cases (p.exec handler state).1 with
    | error e =>
        rw [andThen_error, runFor_finish]
        exact Or.inl ⟨whole, hwhole.symm⟩
    | ok value =>
        cases spent with
        | zero => exact Or.inl ⟨whole, hwhole.symm⟩
        | succ spent =>
            rw [andThen_ok, await, runFor_call, runFor_finish]
            exact Or.inr rfl

/-- When the last call of a sequence always works, the sequence raises only
before it is made. -/
theorem StopsOnError.exec_faulty_before_last {handler : Handler S ε σ} {p : Program S ε α}
    (hp : p.StopsOnError) {request : S.Call}
    (hlast : ∀ state, ∃ reply, (handler request state).1 = .ok reply) {state : σ}
    {plan rest : List (Option ε)} {e : ε} {final : σ}
    (h : (p >>= fun _ => await request).exec handler.faulty (state, plan) =
      (.error e, final, rest)) :
    ∃ fuel, final = (p.runFor handler fuel state).2 := by
  obtain ⟨fuel, hfuel⟩ : ∃ fuel, (p.exec handler.faulty (state, plan)).2.1 =
      (p.runFor handler fuel state).2 := hp.exec_faulty state plan
  refine ⟨fuel, ?_⟩
  rw [← hfuel]
  rw [exec_bind] at h
  cases hresult : (p.exec handler.faulty (state, plan)).1 with
  | error e' =>
      rw [hresult] at h
      exact (congrArg (fun after => after.2.1) h).symm
  | ok value =>
      rw [hresult, andThen_ok, exec_await] at h
      generalize (p.exec handler.faulty (state, plan)).2 = after at h ⊢
      obtain ⟨reached, left⟩ := after
      obtain ⟨reply, hreply⟩ := hlast reached
      -- Only a planned failure lets the last call raise, without any effect.
      rcases left with _ | ⟨_ | failure, left⟩
      · have hok : (handler request reached).1 = .error e := congrArg Prod.fst h
        rw [hreply] at hok
        cases hok
      · have hok : (handler request reached).1 = .error e := congrArg Prod.fst h
        rw [hreply] at hok
        cases hok
      · exact (congrArg (fun after => after.2.1) h).symm

/-- Two calls that work unless the plan says otherwise: when they raise, the
first has failed without an effect, or the second after the effect of the first. -/
theorem failed_of_two_awaits {handler : Handler S ε σ}
    (hworks : ∀ request state, ∃ reply, (handler request state).1 = .ok reply)
    {first second : S.Call} {state final : σ} {plan rest : List (Option ε)} {e : ε}
    (h : (await first >>= fun _ => await second : Program S ε _).exec handler.faulty
      (state, plan) = (.error e, final, rest)) :
    (plan = some e :: rest ∧ final = state) ∨
      (plan = none :: some e :: rest ∧ final = (handler first state).2) := by
  obtain ⟨reply, hreply⟩ := hworks first state
  obtain ⟨reply', hreply'⟩ := hworks second (handler first state).2
  -- The second call, after the first one has worked.
  have hsecond (plan : List (Option ε))
      (h : (await second : Program S ε _).exec handler.faulty ((handler first state).2, plan) =
        (.error e, final, rest)) :
      plan = some e :: rest ∧ final = (handler first state).2 := by
    rcases plan with _ | ⟨_ | failure, plan⟩
    · have hok : (handler second (handler first state).2).1 = .error e := congrArg Prod.fst h
      rw [hreply'] at hok
      cases hok
    · have hok : (handler second (handler first state).2).1 = .error e := congrArg Prod.fst h
      rw [hreply'] at hok
      cases hok
    · cases h
      exact ⟨rfl, rfl⟩
  rcases plan with _ | ⟨_ | failure, plan⟩
  · have hfirst : (await first : Program S ε _).exec handler.faulty (state, []) =
        (.ok reply, (handler first state).2, []) := by
      rw [← hreply]
      rfl
    rw [exec_bind_of_ok hfirst] at h
    obtain ⟨hplan, -⟩ := hsecond [] h
    cases hplan
  · have hfirst : (await first : Program S ε _).exec handler.faulty (state, none :: plan) =
        (.ok reply, (handler first state).2, plan) := by
      rw [← hreply]
      rfl
    rw [exec_bind_of_ok hfirst] at h
    obtain ⟨rfl, hfinal⟩ := hsecond plan h
    exact Or.inr ⟨rfl, hfinal⟩
  · cases h
    exact Or.inl ⟨rfl, rfl⟩

/-! ## Noted calls -/

/-- A program none of whose calls is noted adds nothing. -/
theorem Uses.exec_noting {note : S.Call → Option β} {handler : Handler S ε σ}
    {p : Program S ε α} (huses : p.Uses fun request => note request = none)
    (state : σ × List β) : (p.exec (handler.noting note) state).2.2 = state.2 := by
  refine huses.exec_preserves (P := fun after : σ × List β => after.2 = state.2) ?_ rfl
  intro request hnone before hbefore
  simp [Handler.noting, hnone, hbefore]

/-! ## Points between two calls -/

/-- The run passes through `paused` right after one call of a kind and right
before another. -/
def PausesBetween (handler : Handler S ε σ) (kind : S.Call → Bool) (p : Program S ε α)
    (state paused : σ) : Prop :=
  ∃ fuel first second,
    (p.runFor handler fuel state).1.nextCall? = some first ∧ kind first = true ∧
    (p.runFor handler (fuel + 1) state).1.nextCall? = some second ∧ kind second = true ∧
    (p.runFor handler (fuel + 1) state).2 = paused

/-- A pause of the continuation is a pause of the composed program. -/
theorem PausesBetween.resume {handler : Handler S ε σ} {kind : S.Call → Bool}
    {p : Program S ε α} {k : Except ε α → Program S ε β} {state paused : σ}
    (h : (k (p.exec handler state).1).PausesBetween handler kind
      (p.exec handler state).2 paused) :
    (p.resume k).PausesBetween handler kind state paused := by
  obtain ⟨fuel, first, second, hfirst, hkindFirst, hsecond, hkindSecond, hpaused⟩ := h
  refine ⟨p.callCount handler state + fuel, first, second, ?_, hkindFirst, ?_, hkindSecond, ?_⟩
  · rw [runFor_add, runFor_resume_callCount]
    exact hfirst
  · rw [Nat.add_assoc, runFor_add, runFor_resume_callCount]
    exact hsecond
  · rw [Nat.add_assoc, runFor_add, runFor_resume_callCount]
    exact hpaused

/-- The pause after a call whose continuation starts with another call. -/
theorem pausesBetween_call {handler : Handler S ε σ} {kind : S.Call → Bool}
    {first second : S.Call} {next : Except ε (S.Reply first) → Program S ε α} {state : σ}
    (hfirst : kind first = true) (hsecond : kind second = true)
    (hnext : (next (handler first state).1).nextCall? = some second) :
    (Program.call first next).PausesBetween handler kind state (handler first state).2 :=
  ⟨0, first, second, rfl, hfirst, by simpa using hnext, hsecond, by simp⟩

/-- What a pause shows is left behind when the second of its two calls raises. -/
theorem PausesBetween.left_behind {handler : Handler S ε σ} {kind : S.Call → Bool}
    {p : Program S ε α} {state paused : σ} (h : p.PausesBetween handler kind state paused)
    (hp : p.StopsOnError) (e : ε) :
    ∃ plan, (p.exec handler.faulty (state, plan)).2.1 = paused := by
  obtain ⟨fuel, _, second, -, -, hsecond, -, hpaused⟩ := h
  exact ⟨_, (hp.exec_faulty_at state (fuel + 1) e hsecond).trans hpaused⟩

end Program

end Effects
