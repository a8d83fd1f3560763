/-
# Programs that make external calls

A program is the tree of the calls it may still make. Each call hands back a
reply or raises an exception, and the program continues with whichever it got,
so a `try` around an `await` is ordinary data here. A handler gives the calls
their meaning on a state. Nothing in this module fixes what is called: the
signature, the exceptions and the state are all parameters.

`resume` is the one composition: it hands the whole result of a program, value
or exception, to a continuation. Sequencing and exception handlers are both
instances of it, so each semantic rule is proved once, about `resume`.
-/

import Mathlib.Tactic.Common

namespace Effects

/-- External calls together with the type of the reply each of them gives. -/
structure Signature where
  /-- The calls. -/
  Call : Type
  /-- The reply to a call that does not raise. -/
  Reply : Call → Type

/-- A program over a signature: finished with a value or an exception, or
waiting for the reply to its next call. -/
inductive Program (S : Signature) (ε α : Type)
  | finish (result : Except ε α)
  | call (request : S.Call) (next : Except ε (S.Reply request) → Program S ε α)

variable {S T : Signature} {ε α β γ σ : Type}

namespace Program

/-- Hand the result of a program, value or exception, to a continuation. -/
def resume : Program S ε α → (Except ε α → Program S ε β) → Program S ε β
  | .finish result, k => k result
  | .call request next, k => .call request fun reply => (next reply).resume k

/-- Sequencing: an exception skips the continuation. -/
def andThen (f : α → Program S ε β) : Except ε α → Program S ε β
  | .ok value => f value
  | .error e => .finish (.error e)

/-- Exception handling: a value skips the handler. -/
def recover (h : ε → Program S ε α) : Except ε α → Program S ε α
  | .ok value => .finish (.ok value)
  | .error e => h e

instance : Monad (Program S ε) where
  pure value := .finish (.ok value)
  bind p f := p.resume (andThen f)

instance : MonadExcept ε (Program S ε) where
  throw e := .finish (.error e)
  tryCatch p h := p.resume (recover h)

/-- Make one call and return its reply; an exception of the call propagates. -/
def await (request : S.Call) : Program S ε (S.Reply request) :=
  .call request .finish

/-- A result computed without any call. -/
def ofExcept (result : Except ε α) : Program S ε α := .finish result

/-- The loop `for x in xs: body(x)`. -/
def forEach : List β → (β → Program S ε Unit) → Program S ε Unit
  | [], _ => pure ()
  | x :: xs, body => body x >>= fun _ => forEach xs body

/-- Replace every call by a program over another signature. -/
def translate (embed : (request : S.Call) → Program T ε (S.Reply request)) :
    Program S ε α → Program T ε α
  | .finish result => .finish result
  | .call request next => (embed request).resume fun reply => (next reply).translate embed

/-- The call a program is waiting for. -/
def nextCall? : Program S ε α → Option S.Call
  | .finish _ => none
  | .call request _ => some request

theorem bind_eq (p : Program S ε α) (f : α → Program S ε β) :
    p >>= f = p.resume (andThen f) := rfl

theorem tryCatch_eq (p : Program S ε α) (h : ε → Program S ε α) :
    tryCatch p h = p.resume (recover h) := rfl

@[simp]
theorem resume_finish (result : Except ε α) (k : Except ε α → Program S ε β) :
    (Program.finish result).resume k = k result := rfl

@[simp]
theorem resume_call (request : S.Call)
    (next : Except ε (S.Reply request) → Program S ε α) (k : Except ε α → Program S ε β) :
    (Program.call request next).resume k =
      .call request fun reply => (next reply).resume k := rfl

@[simp]
theorem andThen_ok (f : α → Program S ε β) (value : α) :
    andThen f (.ok value) = f value := rfl

@[simp]
theorem andThen_error (f : α → Program S ε β) (e : ε) :
    andThen f (.error e) = .finish (.error e) := rfl

@[simp]
theorem recover_ok (h : ε → Program S ε α) (value : α) :
    recover h (.ok value) = .finish (.ok value) := rfl

@[simp]
theorem recover_error (h : ε → Program S ε α) (e : ε) :
    recover h (.error e) = h e := rfl

@[simp]
theorem ofExcept_eq (result : Except ε α) :
    (ofExcept result : Program S ε α) = .finish result := rfl

@[simp]
theorem finish_bind (value : α) (f : α → Program S ε β) :
    (Program.finish (.ok value) >>= f) = f value := rfl

theorem resume_assoc (p : Program S ε α) (f : Except ε α → Program S ε β)
    (g : Except ε β → Program S ε γ) :
    (p.resume f).resume g = p.resume fun result => (f result).resume g := by
  induction p with
  | finish result => rfl
  | call request next ih =>
      simp only [resume_call]
      exact congrArg (Program.call request) (funext ih)

@[simp]
theorem resume_finish_right (p : Program S ε α) :
    p.resume Program.finish = p := by
  induction p with
  | finish result => rfl
  | call request next ih =>
      simp only [resume_call]
      exact congrArg (Program.call request) (funext ih)

theorem forEach_cons (x : β) (xs : List β) (body : β → Program S ε Unit) :
    forEach (x :: xs) body = (body x >>= fun _ => forEach xs body) := rfl

theorem bind_bind (p : Program S ε α) (f : α → Program S ε β) (g : β → Program S ε γ) :
    (p >>= f) >>= g = p >>= fun value => f value >>= g := by
  simp only [bind_eq, resume_assoc]
  congr 1
  funext result
  cases result with
  | ok value => rfl
  | error e => rfl

theorem forEach_append (xs ys : List β) (body : β → Program S ε Unit) :
    forEach (xs ++ ys) body = (forEach xs body >>= fun _ => forEach ys body) := by
  induction xs with
  | nil => rfl
  | cons x xs ih => simp only [List.cons_append, forEach_cons, ih, bind_bind]

end Program

/-! ## Running a program against a handler -/

/-- The meaning of the calls on a state: an answer, value or exception, and the
state after the call. -/
abbrev Handler (S : Signature) (ε σ : Type) :=
  (request : S.Call) → σ → Except ε (S.Reply request) × σ

namespace Program

variable (handler : Handler S ε σ)

/-- Run a program alone to its end. -/
def exec : Program S ε α → σ → Except ε α × σ
  | .finish result, state => (result, state)
  | .call request next, state =>
      (next (handler request state).1).exec (handler request state).2

@[simp]
theorem exec_finish (result : Except ε α) (state : σ) :
    (Program.finish result : Program S ε α).exec handler state = (result, state) := rfl

@[simp]
theorem exec_call (request : S.Call)
    (next : Except ε (S.Reply request) → Program S ε α) (state : σ) :
    (Program.call request next).exec handler state =
      (next (handler request state).1).exec handler (handler request state).2 := rfl

@[simp]
theorem exec_pure (value : α) (state : σ) :
    (pure value : Program S ε α).exec handler state = (.ok value, state) := rfl

@[simp]
theorem exec_throw (e : ε) (state : σ) :
    (throw e : Program S ε α).exec handler state = (.error e, state) := rfl

@[simp]
theorem exec_await (request : S.Call) (state : σ) :
    (await request : Program S ε _).exec handler state = handler request state := rfl

theorem exec_resume (p : Program S ε α) (k : Except ε α → Program S ε β) (state : σ) :
    (p.resume k).exec handler state =
      (k (p.exec handler state).1).exec handler (p.exec handler state).2 := by
  induction p generalizing state with
  | finish result => rfl
  | call request next ih => exact ih _ _

theorem exec_bind (p : Program S ε α) (f : α → Program S ε β) (state : σ) :
    (p >>= f).exec handler state =
      (andThen f (p.exec handler state).1).exec handler (p.exec handler state).2 :=
  exec_resume handler p _ state

variable {handler} in
/-- A first part that returns hands its value on. -/
theorem exec_bind_of_ok {p : Program S ε α} {state after : σ} {value : α}
    (hp : p.exec handler state = (.ok value, after)) (f : α → Program S ε β) :
    (p >>= f).exec handler state = (f value).exec handler after := by
  rw [exec_bind, hp]
  rfl

variable {handler} in
/-- A first part that raises ends the sequence. -/
theorem exec_bind_of_error {p : Program S ε α} {state after : σ} {e : ε}
    (hp : p.exec handler state = (.error e, after)) (f : α → Program S ε β) :
    (p >>= f).exec handler state = (.error e, after) := by
  rw [exec_bind, hp]
  rfl

/-- A last part that makes no calls does not change the state. -/
theorem exec_bind_pure_state (p : Program S ε α) (f : α → β) (state : σ) :
    ((p >>= fun value => pure (f value)).exec handler state).2 = (p.exec handler state).2 := by
  rw [exec_bind]
  cases (p.exec handler state).1 with
  | ok value => rfl
  | error e => rfl

theorem exec_tryCatch (p : Program S ε α) (h : ε → Program S ε α) (state : σ) :
    (tryCatch p h).exec handler state =
      (recover h (p.exec handler state).1).exec handler (p.exec handler state).2 :=
  exec_resume handler p _ state

/-- A program whose calls were replaced runs like the original against the
handler that answers each call by running its replacement. -/
theorem exec_translate (handler : Handler T ε σ)
    (embed : (request : S.Call) → Program T ε (S.Reply request))
    (p : Program S ε α) (state : σ) :
    (p.translate embed).exec handler state =
      p.exec (fun request state => (embed request).exec handler state) state := by
  induction p generalizing state with
  | finish result => rfl
  | call request next ih =>
      simp only [translate, exec_resume, exec_call, ih]

/-- A loop whose body always returns applies the body's state change for each
element, in order. -/
theorem exec_forEach {body : β → Program S ε Unit} (change : β → σ → σ)
    (hbody : ∀ x state, (body x).exec handler state = (.ok (), change x state))
    (xs : List β) (state : σ) :
    (forEach xs body).exec handler state =
      (.ok (), xs.foldl (fun state x => change x state) state) := by
  induction xs generalizing state with
  | nil => rfl
  | cons x xs ih =>
      rw [forEach_cons, exec_bind, hbody]
      exact ih (change x state)

/-! ## Calls with fixed answers -/

/-- The result of a program when every call has a fixed answer. -/
def resultOf (answers : (request : S.Call) → Except ε (S.Reply request)) :
    Program S ε α → Except ε α
  | .finish result => result
  | .call request next => (next (answers request)).resultOf answers

section ResultOf

variable {answers : (request : S.Call) → Except ε (S.Reply request)}

theorem resultOf_resume (p : Program S ε α) (k : Except ε α → Program S ε β) :
    (p.resume k).resultOf answers = (k (p.resultOf answers)).resultOf answers := by
  induction p with
  | finish result => rfl
  | call request next ih => exact ih _

/-- A sequence returns a value when both of its parts do. -/
theorem resultOf_bind_eq_ok {p : Program S ε α} {f : α → Program S ε β} {value : β} :
    (p >>= f).resultOf answers = .ok value ↔
      ∃ first, p.resultOf answers = .ok first ∧ (f first).resultOf answers = .ok value := by
  rw [bind_eq, resultOf_resume]
  cases p.resultOf answers with
  | ok first => simp
  | error e => simp [resultOf]

/-- Replacing calls by programs replaces their answers by the programs' results. -/
theorem resultOf_translate {T : Signature}
    {answers : (request : T.Call) → Except ε (T.Reply request)}
    (embed : (request : S.Call) → Program T ε (S.Reply request)) (p : Program S ε α) :
    (p.translate embed).resultOf answers =
      p.resultOf fun request => (embed request).resultOf answers := by
  induction p with
  | finish result => rfl
  | call request next ih =>
      rw [translate, resultOf_resume, ih]
      rfl

end ResultOf

/-! ## Stopping after a number of calls -/

/-- The program left over and the state reached after at most `fuel` calls. -/
def runFor : ℕ → Program S ε α → σ → Program S ε α × σ
  | 0, p, state => (p, state)
  | _ + 1, .finish result, state => (.finish result, state)
  | fuel + 1, .call request next, state =>
      runFor fuel (next (handler request state).1) (handler request state).2

@[simp]
theorem runFor_zero (p : Program S ε α) (state : σ) :
    p.runFor handler 0 state = (p, state) := by
  cases p <;> rfl

@[simp]
theorem runFor_finish (fuel : ℕ) (result : Except ε α) (state : σ) :
    (Program.finish result : Program S ε α).runFor handler fuel state =
      (.finish result, state) := by
  cases fuel <;> rfl

@[simp]
theorem runFor_call (fuel : ℕ) (request : S.Call)
    (next : Except ε (S.Reply request) → Program S ε α) (state : σ) :
    (Program.call request next).runFor handler (fuel + 1) state =
      (next (handler request state).1).runFor handler fuel (handler request state).2 := rfl

/-- Running in two stages is running once. -/
theorem runFor_add (first second : ℕ) (p : Program S ε α) (state : σ) :
    p.runFor handler (first + second) state =
      (p.runFor handler first state).1.runFor handler second
        (p.runFor handler first state).2 := by
  induction first generalizing p state with
  | zero => simp
  | succ first ih =>
      cases p with
      | finish result => simp
      | call request next =>
          rw [Nat.add_right_comm, runFor_call, runFor_call]
          exact ih _ _

/-- The number of calls a program makes when it runs alone. -/
def callCount : Program S ε α → σ → ℕ
  | .finish _, _ => 0
  | .call request next, state =>
      (next (handler request state).1).callCount (handler request state).2 + 1

/-- After all the calls of the first part, exactly the continuation is left. -/
theorem runFor_resume_callCount (p : Program S ε α) (k : Except ε α → Program S ε β)
    (state : σ) :
    (p.resume k).runFor handler (p.callCount handler state) state =
      (k (p.exec handler state).1, (p.exec handler state).2) := by
  induction p generalizing state with
  | finish result => simp [callCount]
  | call request next ih => exact ih _ _

/-- A state met while a composed program runs is met either while its first
part runs or while the continuation runs. -/
theorem runFor_resume_cases (fuel : ℕ) (p : Program S ε α)
    (k : Except ε α → Program S ε β) (state : σ) :
    (∃ spent, ((p.resume k).runFor handler fuel state).2 =
        (p.runFor handler spent state).2) ∨
      ∃ spent, ((p.resume k).runFor handler fuel state).2 =
        ((k (p.exec handler state).1).runFor handler spent (p.exec handler state).2).2 := by
  induction fuel generalizing p state with
  | zero => exact Or.inl ⟨0, by simp⟩
  | succ fuel ih =>
      cases p with
      | finish result => exact Or.inr ⟨fuel + 1, rfl⟩
      | call request next =>
          rcases ih (next (handler request state).1) (handler request state).2 with
            ⟨spent, hspent⟩ | ⟨spent, hspent⟩
          · exact Or.inl ⟨spent + 1, hspent⟩
          · exact Or.inr ⟨spent, hspent⟩

/-- The state at the end of a run is met by the run. -/
theorem exists_runFor_eq_exec (p : Program S ε α) (state : σ) :
    ∃ fuel, (p.runFor handler fuel state).2 = (p.exec handler state).2 := by
  refine ⟨p.callCount handler state, ?_⟩
  have h := runFor_resume_callCount handler p Program.finish state
  rw [resume_finish_right] at h
  rw [h]

end Program

end Effects
