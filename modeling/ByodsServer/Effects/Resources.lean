/-
# What is open

Some calls open a resource when they are answered, others close one. The history of a run says
which are open at each moment; one that is open alone is left alone by calls that change
nothing, and nothing is open once it is closed. A program that raises only what its last call
raised leaves open what was open at that call.
-/

import ByodsServer.Effects.Histories

namespace Effects

variable {S T : Signature} {ε α β ρ σ : Type}

/-- What an answered call makes of a resource: it opens it or closes it, or leaves it as it
is. -/
abbrev ResourceChange (S : Signature) (ε ρ : Type) := Answered S ε → ρ → Option Bool

/-- The resource is open after a history. -/
def isOpen (change : ResourceChange S ε ρ) : History S ε → ρ → Bool
  | [], _ => false
  | answered :: earlier, resource =>
      (change answered resource).getD (isOpen change earlier resource)

section Open

variable {change : ResourceChange S ε ρ} {answered : Answered S ε} {history : History S ε}
  {resource : ρ}

theorem isOpen_cons_of_some {nowOpen : Bool} (h : change answered resource = some nowOpen) :
    isOpen change (answered :: history) resource = nowOpen := by
  rw [isOpen, h, Option.getD_some]

theorem isOpen_cons_of_none (h : change answered resource = none) :
    isOpen change (answered :: history) resource = isOpen change history resource := by
  rw [isOpen, h, Option.getD_none]

/-- Calls that mean the same to the resources leave the same open. -/
theorem isOpen_map {other : ResourceChange T ε ρ} {embed : Answered S ε → Answered T ε}
    (hsame : ∀ answered resource, other (embed answered) resource = change answered resource)
    (history : History S ε) (resource : ρ) :
    isOpen other (history.map embed) resource = isOpen change history resource := by
  induction history with
  | nil => rfl
  | cons answered earlier ih => rw [List.map_cons, isOpen, isOpen, hsame, ih]

end Open

/-! ## One resource at a time -/

/-- Nothing is open after a history. -/
def NothingOpen (change : ResourceChange S ε ρ) (history : History S ε) : Prop :=
  ∀ resource, isOpen change history resource = false

section OneAtATime

variable [DecidableEq ρ] {change : ResourceChange S ε ρ} {only : ρ} {answered : Answered S ε}
  {history : History S ε}

/-- One resource is open after a history, and no other. -/
def OnlyOpen (change : ResourceChange S ε ρ) (only : ρ) (history : History S ε) : Prop :=
  ∀ resource, isOpen change history resource = decide (resource = only)

omit [DecidableEq ρ] in
theorem NothingOpen.later (h : NothingOpen change history)
    (hnone : ∀ resource, change answered resource = none) :
    NothingOpen change (answered :: history) :=
  fun resource => (isOpen_cons_of_none (hnone resource)).trans (h resource)

theorem OnlyOpen.later (h : OnlyOpen change only history)
    (hnone : ∀ resource, change answered resource = none) :
    OnlyOpen change only (answered :: history) :=
  fun resource => (isOpen_cons_of_none (hnone resource)).trans (h resource)

/-- A call that opens one resource. -/
theorem NothingOpen.opened (h : NothingOpen change history)
    (hopens : ∀ resource, change answered resource = if resource = only then some true else none) :
    OnlyOpen change only (answered :: history) := by
  intro resource
  have hchange := hopens resource
  by_cases honly : resource = only
  · rw [if_pos honly] at hchange
    rw [isOpen_cons_of_some hchange, decide_eq_true honly]
  · rw [if_neg honly] at hchange
    rw [isOpen_cons_of_none hchange, h resource, decide_eq_false honly]

/-- A call that closes the open resource. -/
theorem OnlyOpen.closed (h : OnlyOpen change only history)
    (hcloses : ∀ resource,
      change answered resource = if resource = only then some false else none) :
    NothingOpen change (answered :: history) := by
  intro resource
  have hchange := hcloses resource
  by_cases honly : resource = only
  · rw [if_pos honly] at hchange
    exact isOpen_cons_of_some hchange
  · rw [if_neg honly] at hchange
    rw [isOpen_cons_of_none hchange, h resource, decide_eq_false honly]

end OneAtATime

/-! ## What ends a run -/

/-- The exception of an answer. -/
def error? : Except ε α → Option ε
  | .ok _ => none
  | .error e => some e

namespace Program

/-- Whatever is raised in the end is what the last call raised; `last` is what the call before
the program raised. -/
def RaisesLast : Program S ε α → Option ε → Prop
  | .finish result, last => ∀ e, result = .error e → last = some e
  | .call _ next, _ => ∀ reply, (next reply).RaisesLast (error? reply)

theorem raisesLast_pure (value : α) (last : Option ε) :
    (Program.finish (S := S) (.ok value)).RaisesLast last := by
  rintro _ ⟨⟩

theorem raisesLast_await (request : S.Call) (last : Option ε) :
    (Program.await (ε := ε) request).RaisesLast last := by
  rintro _ e rfl
  rfl

theorem RaisesLast.resume {p : Program S ε α} {k : Except ε α → Program S ε β} {last : Option ε}
    (hp : p.RaisesLast last)
    (hk : ∀ result last, (∀ e, result = .error e → last = some e) → (k result).RaisesLast last) :
    (p.resume k).RaisesLast last := by
  induction p generalizing last with
  | finish result => exact hk result last hp
  | call request next ih => exact fun reply => ih reply (hp reply)

theorem RaisesLast.bind {p : Program S ε α} {f : α → Program S ε β} {last : Option ε}
    (hp : p.RaisesLast last) (hf : ∀ value last, (f value).RaisesLast last) :
    (p >>= f).RaisesLast last := by
  refine hp.resume fun result last hresult => ?_
  cases result with
  | ok value => exact hf value last
  | error e =>
      rintro _ ⟨⟩
      exact hresult e rfl

theorem RaisesLast.tryCatch {p : Program S ε α} {h : ε → Program S ε α} {last : Option ε}
    (hp : p.RaisesLast last) (hh : ∀ e, (h e).RaisesLast (some e)) :
    (tryCatch p h).RaisesLast last := by
  refine hp.resume fun result last hresult => ?_
  cases result with
  | ok value => exact raisesLast_pure value last
  | error e =>
      rw [hresult e rfl]
      exact hh e

theorem RaisesLast.of_none {p : Program S ε α} (hp : p.RaisesLast none) (last : Option ε) :
    p.RaisesLast last := by
  cases p with
  | finish result =>
      intro e he
      cases hp e he
  | call request next => exact hp

theorem RaisesLast.ite {c : Prop} [Decidable c] {p q : Program S ε α} {last : Option ε}
    (hp : p.RaisesLast last) (hq : q.RaisesLast last) :
    (if c then p else q).RaisesLast last := by
  split_ifs
  · exact hp
  · exact hq

theorem RaisesLast.translate {p : Program S ε α} {last : Option ε} (hp : p.RaisesLast last)
    {embed : (request : S.Call) → Program T ε (S.Reply request)}
    (hembed : ∀ request last, (embed request).RaisesLast last) :
    (p.translate embed).RaisesLast last := by
  induction p generalizing last with
  | finish result => exact hp
  | call request next ih =>
      refine (hembed request last).resume fun result after hresult => ?_
      have hnext := hp result
      cases result with
      | ok value => exact ih _ (hnext.of_none after)
      | error e =>
          rw [hresult e rfl]
          exact ih _ hnext

/-- An exception comes from the last call of the run. -/
theorem RaisesLast.of_trace {p : Program S ε α} {last : Option ε} (hp : p.RaisesLast last)
    {handler : Handler S ε σ} {state : σ} {e : ε} (he : (p.exec handler state).1 = .error e) :
    (p.trace handler state = [] ∧ last = some e) ∨
      ∃ before request, p.trace handler state = before ++ [⟨request, .error e⟩] := by
  induction p generalizing last state with
  | finish result => exact .inl ⟨rfl, hp e he⟩
  | call request next ih =>
      right
      rcases ih _ (hp _) he with ⟨hnone, hlast⟩ | ⟨before, latest, hsplit⟩
      · cases hreply : (handler request state).1 with
        | ok value =>
            rw [hreply] at hlast
            cases hlast
        | error raised =>
            rw [hreply] at hlast
            obtain rfl : raised = e := Option.some.inj hlast
            refine ⟨[], request, ?_⟩
            rw [trace, hnone, hreply]
            rfl
      · exact ⟨⟨request, (handler request state).1⟩ :: before, latest,
          congrArg (_ :: ·) hsplit⟩

end Program

end Effects
