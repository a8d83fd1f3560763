/-
# Histories of calls

The trace of a run lists its calls in order, each with its answer. A protocol says
which call may follow which history. A program that follows a protocol whatever it
is answered makes only allowed calls in every run, and leaves a history that meets
its postcondition. Nothing is assumed of the handler.
-/

import ByodsServer.Effects.Modality

namespace Effects

variable {S : Signature} {ε α β σ : Type}

/-- A call with its answer. -/
abbrev Answered (S : Signature) (ε : Type) := (request : S.Call) × Except ε (S.Reply request)

/-- The calls made so far, the latest first. -/
abbrev History (S : Signature) (ε : Type) := List (Answered S ε)

/-- A handler that answers by the request alone and keeps the history. -/
def recording (answer : (request : S.Call) → Except ε (S.Reply request)) :
    Handler S ε (History S ε) :=
  fun request history => (answer request, ⟨request, answer request⟩ :: history)

namespace Program

/-- The calls of a run in order. -/
def trace (handler : Handler S ε σ) : Program S ε α → σ → List (Answered S ε)
  | .finish _, _ => []
  | .call request next, state =>
      ⟨request, (handler request state).1⟩ ::
        (next (handler request state).1).trace handler (handler request state).2

/-- After a history, every call is allowed whatever the earlier ones are answered,
and in the end the postcondition holds. -/
def Follows (allowed : History S ε → S.Call → Prop) (post : History S ε → Except ε α → Prop) :
    Program S ε α → History S ε → Prop
  | .finish result, history => post history result
  | .call request next, history =>
      allowed history request ∧
        ∀ reply, (next reply).Follows allowed post (⟨request, reply⟩ :: history)

variable {allowed : History S ε → S.Call → Prop} {post : History S ε → Except ε α → Prop}
  {history : History S ε} {handler : Handler S ε σ}

/-- The composition follows a protocol when its second part does from where the
first part leaves off. -/
theorem Follows.resume {later : History S ε → Except ε β → Prop} {p : Program S ε α}
    {k : Except ε α → Program S ε β} (h : p.Follows allowed post history)
    (hk : ∀ history result, post history result → (k result).Follows allowed later history) :
    (p.resume k).Follows allowed later history := by
  induction p generalizing history with
  | finish result => exact hk history result h
  | call request next ih => exact ⟨h.1, fun reply => ih reply (h.2 reply)⟩

/-- Calls that are allowed under an invariant of the history and keep it follow the
protocol, and end with the invariant. -/
theorem Uses.follows {permitted : S.Call → Prop} {invariant : History S ε → Prop}
    (hallowed : ∀ history request, permitted request → invariant history →
      allowed history request)
    (hkeeps : ∀ history request reply, permitted request → invariant history →
      invariant (⟨request, reply⟩ :: history))
    {p : Program S ε α} (huses : p.Uses permitted) (h : invariant history) :
    p.Follows allowed (fun history _ => invariant history) history := by
  induction p generalizing history with
  | finish result => exact h
  | call request next ih =>
      refine ⟨hallowed history request huses.1 h, fun reply => ?_⟩
      exact ih reply (huses.2 reply) (hkeeps history request reply huses.1 h)

/-- In every run, each call is allowed after the calls before it. -/
theorem Follows.allowed_of_trace {p : Program S ε α} (h : p.Follows allowed post history)
    (state : σ) {before : List (Answered S ε)} {latest : Answered S ε}
    {after : List (Answered S ε)} (hsplit : p.trace handler state = before ++ latest :: after) :
    allowed (before.reverse ++ history) latest.1 := by
  induction p generalizing history state before with
  | finish result => simp [trace] at hsplit
  | call request next ih =>
      cases before with
      | nil =>
          obtain ⟨rfl, -⟩ := List.cons.inj hsplit
          exact h.1
      | cons first before =>
          obtain ⟨rfl, hrest⟩ := List.cons.inj hsplit
          have hlatest := ih _ (h.2 _) _ hrest
          simpa using hlatest

/-- In every run, the postcondition holds of all its calls and its result. -/
theorem Follows.post_of_trace {p : Program S ε α} (h : p.Follows allowed post history)
    (state : σ) :
    post ((p.trace handler state).reverse ++ history) (p.exec handler state).1 := by
  induction p generalizing history state with
  | finish result => exact h
  | call request next ih =>
      have hrest := ih _ (h.2 (handler request state).1) (handler request state).2
      simpa [trace] using hrest

theorem trace_resume (handler : Handler S ε σ) (p : Program S ε α)
    (k : Except ε α → Program S ε β) (state : σ) :
    (p.resume k).trace handler state =
      p.trace handler state ++
        (k (p.exec handler state).1).trace handler (p.exec handler state).2 := by
  induction p generalizing state with
  | finish result => rfl
  | call request next ih => exact congrArg (_ :: ·) (ih _ _)

theorem Uses.of_mem_trace {permitted : S.Call → Prop} {p : Program S ε α}
    (h : p.Uses permitted) {state : σ} {answered : Answered S ε}
    (hmem : answered ∈ p.trace handler state) : permitted answered.1 := by
  induction p generalizing state with
  | finish result => cases hmem
  | call request next ih =>
      rcases List.mem_cons.mp hmem with rfl | hrest
      · exact h.1
      · exact ih _ (h.2 _) hrest

/-- The answers in a trace are the handler's. -/
theorem answer_of_mem_trace {p : Program S ε α} {state : σ} {answered : Answered S ε}
    (h : answered ∈ p.trace handler state) :
    ∃ reached, answered.2 = (handler answered.1 reached).1 := by
  induction p generalizing state with
  | finish result => cases h
  | call request next ih =>
      rcases List.mem_cons.mp h with rfl | hrest
      · exact ⟨state, rfl⟩
      · exact ih _ hrest

/-- A relation between histories and states that every allowed call keeps holds at the
end of every run. -/
theorem Follows.related_of_trace {R : History S ε → σ → Prop}
    (hcall : ∀ history request state, allowed history request → R history state →
      R (⟨request, (handler request state).1⟩ :: history) (handler request state).2)
    {p : Program S ε α} (h : p.Follows allowed post history) {state : σ}
    (hstart : R history state) :
    R ((p.trace handler state).reverse ++ history) (p.exec handler state).2 := by
  induction p generalizing history state with
  | finish result => exact hstart
  | call request next ih =>
      have hrest := ih _ (h.2 (handler request state).1) (hcall history request state h.1 hstart)
      simpa [trace] using hrest

/-- A run goes on with the answer. -/
theorem exec_recording_call {answer : (request : S.Call) → Except ε (S.Reply request)}
    {request : S.Call} {reply : Except ε (S.Reply request)} (h : answer request = reply)
    (next : Except ε (S.Reply request) → Program S ε α) (history : History S ε) :
    (Program.call request next).exec (recording answer) history =
      (next reply).exec (recording answer) (⟨request, reply⟩ :: history) := by
  rw [← h]
  rfl

/-- What such a handler keeps is the trace. -/
theorem exec_recording (answer : (request : S.Call) → Except ε (S.Reply request))
    (p : Program S ε α) (history : History S ε) :
    (p.exec (recording answer) history).2 =
      (p.trace (recording answer) history).reverse ++ history := by
  induction p generalizing history with
  | finish result => rfl
  | call request next ih =>
      have hrest := ih (answer request) (⟨request, answer request⟩ :: history)
      simpa [trace, recording] using hrest

end Program

end Effects
