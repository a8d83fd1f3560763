/-
# Resources that are opened and closed

A session opens a resource with some calls, one after the other, uses it between `try` and
a `finally` with one call, and so closes it, whatever its use came to. Whatever the calls
are answered, the closing call is made exactly if all opening calls were answered, and then
it is the last one. Programs that pass every exception on return a value only if every call
was answered.
-/

import ByodsServer.Effects.Faults
import ByodsServer.Effects.Histories

namespace Effects

variable {S T : Signature} {ε α β σ : Type}

namespace Program

/-- `finally` with one call. -/
def closing (close : S.Call) (p : Program S ε α) : Program S ε α :=
  p.resume fun result => await close >>= fun _ => ofExcept result

variable {handler : Handler S ε σ}

theorem trace_bind (p : Program S ε α) (f : α → Program S ε β) (state : σ) :
    (p >>= f).trace handler state =
      p.trace handler state ++
        (andThen f (p.exec handler state).1).trace handler (p.exec handler state).2 :=
  trace_resume handler p (andThen f) state

/-- The closing call is the last one, and follows all of the program's. -/
theorem trace_closing (close : S.Call) (p : Program S ε α) (state : σ) :
    (p.closing close).trace handler state =
      p.trace handler state ++ [⟨close, (handler close (p.exec handler state).2).1⟩] := by
  rw [closing, trace_resume, trace_bind]
  congr 1
  simp only [await, trace, exec_call, exec_finish, ofExcept]
  cases (handler close (p.exec handler state).2).1 <;> rfl

/-- A closing that works keeps the result. -/
theorem exec_closing_of_ok {close : S.Call} {p : Program S ε α} {state after : σ}
    {reply : S.Reply close} (h : handler close (p.exec handler state).2 = (.ok reply, after)) :
    (p.closing close).exec handler state = ((p.exec handler state).1, after) := by
  rw [closing, exec_resume, exec_bind, exec_await, h]
  rfl

/-- The closing call is allowed whatever the program came to, and what it is answered is
added to that. -/
theorem Follows.closing {allowed : History S ε → S.Call → Prop}
    {post later : History S ε → Except ε α → Prop} {close : S.Call} {p : Program S ε α}
    {history : History S ε} (h : p.Follows allowed post history)
    (hallowed : ∀ history result, post history result → allowed history close)
    (hclosed : ∀ history result reply, post history result →
      later (⟨close, reply⟩ :: history) (reply >>= fun _ => result)) :
    (p.closing close).Follows allowed later history := by
  refine h.resume fun history result hpost => ⟨hallowed history result hpost, fun reply => ?_⟩
  have hlater := hclosed history result reply hpost
  cases reply with
  | ok value => exact hlater
  | error e => exact hlater

/-- The whole returns a value when the program does and the closing works. -/
theorem exec_closing_eq_ok {close : S.Call} {p : Program S ε α} {state : σ} {value : α} :
    ((p.closing close).exec handler state).1 = .ok value ↔
      (p.exec handler state).1 = .ok value ∧
        ∃ reply, (handler close (p.exec handler state).2).1 = .ok reply := by
  rw [closing, exec_resume, exec_bind, exec_await]
  cases (handler close (p.exec handler state).2).1 with
  | ok reply => simp
  | error e => simp

/-- An answer without an exception. -/
def Works (answered : Answered S ε) : Prop := ∃ reply, answered.2 = .ok reply

/-- Where every exception is passed on, a value means that there was none. -/
theorem Propagates.works_of_mem_trace {p : Program S ε α} (hp : p.Propagates) {state : σ}
    {value : α} (h : (p.exec handler state).1 = .ok value) :
    ∀ answered ∈ p.trace handler state, Works answered := by
  induction p generalizing state with
  | finish result => exact List.forall_mem_nil _
  | call request next ih =>
      rw [trace, List.forall_mem_cons]
      rw [exec_call] at h
      cases hanswer : (handler request state).1 with
      | ok reply =>
          rw [hanswer] at h
          exact ⟨⟨reply, rfl⟩, ih (.ok reply) (hp.2 reply) h⟩
      | error e =>
          rw [hanswer, hp.1 e] at h
          cases h

/-! ## Sessions -/

/-- The program makes the opening calls in their order, up to the first one that raises, and
returns `true` when all of them were answered; it may stop before any of them. -/
def Opens : List S.Call → Program S ε Bool → Prop
  | [], .finish result => result = .ok true
  | _ :: _, .finish result => result ≠ .ok true
  | [], .call _ _ => False
  | request :: opening, .call first next =>
      first = request ∧ (∀ e, ∃ result, next (.error e) = .finish result ∧ result ≠ .ok true) ∧
        ∀ reply, (next (.ok reply)).Opens opening

/-- The calls begin with the opening ones, all of them answered. -/
def Opened : List S.Call → List (Answered S ε) → Prop
  | [], _ => True
  | _ :: _, [] => False
  | request :: opening, answered :: calls =>
      answered.1 = request ∧ Works answered ∧ Opened opening calls

theorem Opened.works {opening : List S.Call} {calls : List (Answered S ε)}
    (h : Opened opening calls) (hcalls : calls.map Sigma.fst = opening) :
    ∀ answered ∈ calls, Works answered := by
  induction opening generalizing calls with
  | nil =>
      rw [List.map_eq_nil_iff] at hcalls
      rw [hcalls]
      exact List.forall_mem_nil _
  | cons request opening ih =>
      cases calls with
      | nil => exact List.forall_mem_nil _
      | cons answered calls =>
          rw [List.map_cons, List.cons.injEq] at hcalls
          exact List.forall_mem_cons.mpr ⟨h.2.1, ih h.2.2 hcalls.2⟩

/-- The resource is returned when all opening calls were answered, and otherwise no call is made
after the one that was not. -/
theorem Opens.cases {opening : List S.Call} {p : Program S ε Bool} (h : p.Opens opening)
    (state : σ) :
    ((p.exec handler state).1 = .ok true ∧ (p.trace handler state).map Sigma.fst = opening ∧
      ∀ rest, Opened opening (p.trace handler state ++ rest)) ∨
    ((p.exec handler state).1 ≠ .ok true ∧ (p.trace handler state).map Sigma.fst <+: opening ∧
      ¬ Opened opening (p.trace handler state)) := by
  induction p generalizing opening state with
  | finish result =>
      cases opening with
      | nil => exact Or.inl ⟨h, rfl, fun _ => trivial⟩
      | cons request opening => exact Or.inr ⟨h, List.nil_prefix, id⟩
  | call first next ih =>
      cases opening with
      | nil => exact h.elim
      | cons request opening =>
          obtain ⟨rfl, herror, hnext⟩ := h
          rw [exec_call, trace, List.map_cons]
          cases hanswer : (handler first state).1 with
          | ok reply =>
              rcases ih (.ok reply) (hnext reply) (handler first state).2 with
                ⟨hexec, htrace, hopened⟩ | ⟨hexec, htrace, hopened⟩
              · exact Or.inl ⟨hexec, congrArg (first :: ·) htrace,
                  fun rest => ⟨rfl, ⟨reply, rfl⟩, hopened rest⟩⟩
              · exact Or.inr ⟨hexec, (List.prefix_cons_inj first).mpr htrace,
                  fun hall => hopened hall.2.2⟩
          | error e =>
              obtain ⟨result, hresult, hne⟩ := herror e
              rw [hresult]
              refine Or.inr ⟨hne, ?_, fun hall => ?_⟩
              · exact (List.prefix_cons_inj first).mpr List.nil_prefix
              · obtain ⟨reply, hreply⟩ := hall.2.1
                cases hreply

/-- Open a resource, use it, and close it; without it the result is a fixed one. -/
def session (openIt : Program S ε Bool) (close : S.Call) (body : Program S ε α)
    (refused : Except ε α) : Program S ε α :=
  openIt >>= fun isOpen => if isOpen then body.closing close else ofExcept refused

variable {openIt : Program S ε Bool} {opening : List S.Call} {close : S.Call}
  {body : Program S ε α} {refused : Except ε α}

/-- Once opened, the resource is closed with the last call; otherwise only opening calls were
made. -/
theorem Opens.session_calls (h : openIt.Opens opening) (close : S.Call) (body : Program S ε α)
    (refused : Except ε α) (handler : Handler S ε σ) (state : σ) :
    (Opened opening ((session openIt close body refused).trace handler state) →
      ∃ answered used closing, (session openIt close body refused).trace handler state =
          answered ++ used ++ [⟨close, closing⟩] ∧
        answered.map Sigma.fst = opening ∧ ∃ reached, used = body.trace handler reached) ∧
    (¬ Opened opening ((session openIt close body refused).trace handler state) →
      ((session openIt close body refused).trace handler state).map Sigma.fst <+: opening) := by
  rw [session, trace_bind]
  rcases h.cases state with ⟨hexec, htrace, hopened⟩ | ⟨hexec, htrace, hopened⟩
  · rw [hexec, andThen_ok, if_pos rfl, trace_closing, ← List.append_assoc]
    refine ⟨fun _ => ⟨_, _, _, rfl, htrace, _, rfl⟩, fun hnot => (hnot ?_).elim⟩
    rw [List.append_assoc]
    exact hopened _
  · have hrest : (andThen (fun isOpen => if isOpen then body.closing close else ofExcept refused)
        (openIt.exec handler state).1).trace handler (openIt.exec handler state).2 = [] := by
      cases hresult : (openIt.exec handler state).1 with
      | error e => rfl
      | ok isOpen =>
          cases isOpen with
          | false => rfl
          | true => exact (hexec hresult).elim
    rw [hrest, List.append_nil]
    exact ⟨fun hall => (hopened hall).elim, fun _ => htrace⟩

/-- A value that is not the one for a missing resource comes from an opened one and from a
closing that worked; if it needed every call of the body, every call was answered. -/
theorem Opens.session_value (h : openIt.Opens opening) {state : σ} {value : α}
    (hvalue : ((session openIt close body refused).exec handler state).1 = .ok value)
    (hrefused : refused ≠ .ok value)
    (hbody : ∀ reached, (body.exec handler reached).1 = .ok value →
      ∀ answered ∈ body.trace handler reached, Works answered) :
    Opened opening ((session openIt close body refused).trace handler state) ∧
      ∀ answered ∈ (session openIt close body refused).trace handler state, Works answered := by
  rw [session, exec_bind] at hvalue
  rw [session, trace_bind]
  rcases h.cases state with ⟨hexec, htrace, hopened⟩ | ⟨hexec, -, -⟩
  · rw [hexec, andThen_ok, if_pos rfl] at hvalue ⊢
    obtain ⟨hresult, reply, hclosed⟩ := exec_closing_eq_ok.mp hvalue
    have hworks := (List.append_nil (openIt.trace handler state) ▸ hopened []).works htrace
    rw [trace_closing, List.forall_mem_append, List.forall_mem_append, List.forall_mem_singleton]
    exact ⟨hopened _, hworks,
      hbody _ hresult, reply, hclosed⟩
  · cases hresult : (openIt.exec handler state).1 with
    | error e =>
        rw [hresult] at hvalue
        cases hvalue
    | ok isOpen =>
        rw [hresult] at hvalue
        cases isOpen with
        | false => exact (hrefused hvalue).elim
        | true => exact (hexec hresult).elim

theorem Uses.translate {allowed : S.Call → Prop} {permitted : T.Call → Prop}
    {embed : (request : S.Call) → Program T ε (S.Reply request)} {p : Program S ε α}
    (hp : p.Uses allowed) (hembed : ∀ request, allowed request → (embed request).Uses permitted) :
    (p.translate embed).Uses permitted := by
  induction p with
  | finish result => trivial
  | call request next ih =>
      exact (hembed request hp.1).resume fun reply => ih reply (hp.2 reply)

theorem uses_anything (p : Program S ε α) : p.Uses fun _ => True := by
  induction p with
  | finish result => trivial
  | call request next ih => exact ⟨trivial, ih⟩

/-- Both branches make allowed calls only. -/
theorem Uses.ite {allowed : S.Call → Prop} {c : Prop} [Decidable c] {p q : Program S ε α}
    (hp : c → p.Uses allowed) (hq : ¬ c → q.Uses allowed) :
    (if c then p else q).Uses allowed := by
  split_ifs with h
  · exact hp h
  · exact hq h

/-- Handlers that answer the allowed calls alike run the program alike. -/
theorem Uses.exec_congr {allowed : S.Call → Prop} {p : Program S ε α} (hp : p.Uses allowed)
    {first second : Handler S ε σ}
    (hsame : ∀ request, allowed request → first request = second request) (state : σ) :
    p.exec first state = p.exec second state := by
  induction p generalizing state with
  | finish result => rfl
  | call request next ih =>
      rw [exec_call, exec_call, hsame request hp.1]
      exact ih _ (hp.2 _) _

/-- Exceptions are passed on through a continuation that passes them on. -/
theorem Propagates.resume {p : Program S ε α} {k : Except ε α → Program S ε β}
    (hp : p.Propagates) (hvalue : ∀ value, (k (.ok value)).Propagates)
    (herror : ∀ e, k (.error e) = .finish (.error e)) : (p.resume k).Propagates := by
  induction p with
  | finish result =>
      cases result with
      | ok value => exact hvalue value
      | error e =>
          rw [resume_finish, herror]
          trivial
  | call request next ih =>
      refine ⟨fun e => ?_, fun reply => ih (.ok reply) (hp.2 reply)⟩
      dsimp only
      rw [hp.1 e, resume_finish, herror]

theorem Propagates.translate {embed : (request : S.Call) → Program T ε (S.Reply request)}
    {p : Program S ε α} (hp : p.Propagates) (hembed : ∀ request, (embed request).Propagates) :
    (p.translate embed).Propagates := by
  induction p with
  | finish result => trivial
  | call request next ih =>
      refine (hembed request).resume (fun reply => ih (.ok reply) (hp.2 reply)) fun e => ?_
      rw [hp.1 e]
      rfl

end Program

end Effects
