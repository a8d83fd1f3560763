/-
# What a program may call, and what it is bound to call

Three readings of a program tree. `Uses` bounds every call the program can ever
make; it carries frame conditions, since calls that all preserve a property
preserve it over the whole run. `Ensures` says that some call of a kind lies
ahead on every path on which no call raises; it carries obligations that an
interleaving cannot take away. `Reliable` says that the program itself raises
nothing, so sequencing after it loses no obligation. `Restores` ties the first
two together: a call that spoils something is always followed by one that is
wanted.
-/

import ByodsServer.Effects.Program

namespace Effects

variable {S : Signature} {ε α β σ : Type}

namespace Program

/-- Every call the program can make is allowed, whatever the replies are. -/
def Uses (allowed : S.Call → Prop) : Program S ε α → Prop
  | .finish _ => True
  | .call request next => allowed request ∧ ∀ reply, (next reply).Uses allowed

/-- A wanted call lies ahead on every path on which no call raises. -/
def Ensures (wanted : S.Call → Prop) : Program S ε α → Prop
  | .finish _ => False
  | .call request next => wanted request ∨ ∀ reply, (next (.ok reply)).Ensures wanted

/-- The program returns a value on every path on which no call raises. -/
def Reliable : Program S ε α → Prop
  | .finish (.ok _) => True
  | .finish (.error _) => False
  | .call _ next => ∀ reply, (next (.ok reply)).Reliable

/-- As long as no call raises, a wanted call lies ahead after every call that
spoils. -/
def Restores (spoils wanted : S.Call → Prop) : Program S ε α → Prop
  | .finish _ => True
  | .call request next =>
      ∀ reply, (spoils request → (next (.ok reply)).Ensures wanted) ∧
        (next (.ok reply)).Restores spoils wanted

/-! ## Calls that may be made -/

theorem Uses.mono {first second : S.Call → Prop} {p : Program S ε α}
    (huses : p.Uses first) (himp : ∀ request, first request → second request) :
    p.Uses second := by
  induction p with
  | finish result => trivial
  | call request next ih => exact ⟨himp request huses.1, fun reply => ih reply (huses.2 reply)⟩

theorem Uses.resume {allowed : S.Call → Prop} {p : Program S ε α}
    {k : Except ε α → Program S ε β} (hp : p.Uses allowed)
    (hk : ∀ result, (k result).Uses allowed) : (p.resume k).Uses allowed := by
  induction p with
  | finish result => exact hk result
  | call request next ih => exact ⟨hp.1, fun reply => ih reply (hp.2 reply)⟩

theorem Uses.bind {allowed : S.Call → Prop} {p : Program S ε α} {f : α → Program S ε β}
    (hp : p.Uses allowed) (hf : ∀ value, (f value).Uses allowed) :
    (p >>= f).Uses allowed := by
  refine hp.resume fun result => ?_
  cases result with
  | ok value => exact hf value
  | error e => trivial

theorem uses_await {allowed : S.Call → Prop} {request : S.Call} (h : allowed request) :
    (await request : Program S ε _).Uses allowed :=
  ⟨h, fun _ => trivial⟩

theorem uses_forEach {allowed : S.Call → Prop} {body : β → Program S ε Unit} {xs : List β}
    (hbody : ∀ x ∈ xs, (body x).Uses allowed) : (forEach xs body).Uses allowed := by
  induction xs with
  | nil => trivial
  | cons x xs ih =>
      exact (hbody x List.mem_cons_self).bind fun _ =>
        ih fun y hy => hbody y (List.mem_cons_of_mem x hy)

/-- Replacing every call by allowed ones. -/
theorem uses_translate {T : Signature} {allowed : T.Call → Prop}
    {embed : (request : S.Call) → Program T ε (S.Reply request)}
    (hembed : ∀ request, (embed request).Uses allowed) (p : Program S ε α) :
    (p.translate embed).Uses allowed := by
  induction p with
  | finish result => trivial
  | call request next ih => exact (hembed request).resume fun reply => ih reply

/-- A property that every allowed call preserves is preserved by the run. -/
theorem Uses.exec_preserves {handler : Handler S ε σ} {allowed : S.Call → Prop}
    {P : σ → Prop} (hcall : ∀ request, allowed request → ∀ state, P state →
      P (handler request state).2)
    {p : Program S ε α} (huses : p.Uses allowed) {state : σ} (hstate : P state) :
    P (p.exec handler state).2 := by
  induction p generalizing state with
  | finish result => exact hstate
  | call request next ih =>
      exact ih _ (huses.2 _) (hcall request huses.1 state hstate)

/-- A property that every allowed call preserves holds at every point of the run. -/
theorem Uses.runFor_preserves {handler : Handler S ε σ} {allowed : S.Call → Prop}
    {P : σ → Prop} (hcall : ∀ request, allowed request → ∀ state, P state →
      P (handler request state).2)
    (fuel : ℕ) {p : Program S ε α} (huses : p.Uses allowed) {state : σ} (hstate : P state) :
    P (p.runFor handler fuel state).2 := by
  induction fuel generalizing p state with
  | zero => simpa using hstate
  | succ fuel ih =>
      cases p with
      | finish result => exact hstate
      | call request next =>
          exact ih (huses.2 _) (hcall request huses.1 state hstate)

/-- Every call the program can make is allowed, as long as its replies come from
the handler, in whatever states. -/
def UsesOn (handler : Handler S ε σ) (allowed : S.Call → Prop) : Program S ε α → Prop
  | .finish _ => True
  | .call request next =>
      allowed request ∧ ∀ state, (next (handler request state).1).UsesOn handler allowed

theorem Uses.usesOn {allowed : S.Call → Prop} {p : Program S ε α} (huses : p.Uses allowed)
    (handler : Handler S ε σ) : p.UsesOn handler allowed := by
  induction p with
  | finish result => trivial
  | call request next ih => exact ⟨huses.1, fun state => ih _ (huses.2 _)⟩

theorem UsesOn.resume {handler : Handler S ε σ} {allowed : S.Call → Prop} {p : Program S ε α}
    {k : Except ε α → Program S ε β} (hp : p.UsesOn handler allowed)
    (hk : ∀ result, (k result).UsesOn handler allowed) :
    (p.resume k).UsesOn handler allowed := by
  induction p with
  | finish result => exact hk result
  | call request next ih => exact ⟨hp.1, fun state => ih _ (hp.2 state)⟩

theorem UsesOn.bind {handler : Handler S ε σ} {allowed : S.Call → Prop} {p : Program S ε α}
    {f : α → Program S ε β} (hp : p.UsesOn handler allowed)
    (hf : ∀ value, (f value).UsesOn handler allowed) : (p >>= f).UsesOn handler allowed := by
  apply hp.resume
  intro result
  cases result with
  | ok value => exact hf value
  | error e => trivial

/-! ## Properties kept at every point -/

/-- A program that is started in a state with the property has it at every point
of its run. -/
def Maintains (handler : Handler S ε σ) (P : σ → Prop) (p : Program S ε α) : Prop :=
  ∀ state, P state → ∀ fuel, P (p.runFor handler fuel state).2

theorem maintains_finish {handler : Handler S ε σ} {P : σ → Prop} (result : Except ε α) :
    (Program.finish result : Program S ε α).Maintains handler P := by
  intro state hstate fuel
  simpa using hstate

theorem Maintains.exec {handler : Handler S ε σ} {P : σ → Prop} {p : Program S ε α}
    (hp : p.Maintains handler P) {state : σ} (hstate : P state) :
    P (p.exec handler state).2 := by
  obtain ⟨fuel, hfuel⟩ := exists_runFor_eq_exec handler p state
  rw [← hfuel]
  exact hp state hstate fuel

theorem Maintains.resume {handler : Handler S ε σ} {P : σ → Prop} {p : Program S ε α}
    {k : Except ε α → Program S ε β} (hp : p.Maintains handler P)
    (hk : ∀ result, (k result).Maintains handler P) : (p.resume k).Maintains handler P := by
  intro state hstate fuel
  rcases runFor_resume_cases handler fuel p k state with ⟨spent, hspent⟩ | ⟨spent, hspent⟩
  · rw [hspent]
    exact hp state hstate spent
  · rw [hspent]
    exact hk _ _ (hp.exec hstate) spent

theorem Maintains.bind {handler : Handler S ε σ} {P : σ → Prop} {p : Program S ε α}
    {f : α → Program S ε β} (hp : p.Maintains handler P)
    (hf : ∀ value, (f value).Maintains handler P) : (p >>= f).Maintains handler P := by
  apply hp.resume
  intro result
  cases result with
  | ok value => exact hf value
  | error e => exact maintains_finish _

theorem Maintains.tryCatch {handler : Handler S ε σ} {P : σ → Prop} {p : Program S ε α}
    {h : ε → Program S ε α} (hp : p.Maintains handler P)
    (hh : ∀ e, (h e).Maintains handler P) :
    (MonadExcept.tryCatch p h : Program S ε α).Maintains handler P := by
  apply hp.resume
  intro result
  cases result with
  | ok value => exact maintains_finish _
  | error e => exact hh e

theorem Uses.maintains {handler : Handler S ε σ} {allowed : S.Call → Prop} {P : σ → Prop}
    {p : Program S ε α} (huses : p.Uses allowed)
    (hcall : ∀ request, allowed request → ∀ state, P state → P (handler request state).2) :
    p.Maintains handler P :=
  fun _ hstate fuel => huses.runFor_preserves hcall fuel hstate

/-! ## Calls that will be made -/

theorem Ensures.mono {first second : S.Call → Prop} {p : Program S ε α}
    (hensures : p.Ensures first) (himp : ∀ request, first request → second request) :
    p.Ensures second := by
  induction p with
  | finish result => exact hensures
  | call request next ih =>
      exact hensures.imp (himp request) fun h reply => ih (.ok reply) (h reply)

theorem Ensures.resume {wanted : S.Call → Prop} {p : Program S ε α}
    {k : Except ε α → Program S ε β} (hp : p.Ensures wanted) :
    (p.resume k).Ensures wanted := by
  induction p with
  | finish result => exact hp.elim
  | call request next ih => exact hp.imp id fun h reply => ih (.ok reply) (h reply)

theorem Ensures.bind_left {wanted : S.Call → Prop} {p : Program S ε α}
    {f : α → Program S ε β} (hp : p.Ensures wanted) : (p >>= f).Ensures wanted :=
  hp.resume

/-- An obligation of the continuation is one of the sequence, when nothing
before it raises. -/
theorem Ensures.bind_right {wanted : S.Call → Prop} {p : Program S ε α}
    {f : α → Program S ε β} (hp : p.Reliable) (hf : ∀ value, (f value).Ensures wanted) :
    (p >>= f).Ensures wanted := by
  induction p with
  | finish result =>
      cases result with
      | ok value => exact hf value
      | error e => exact False.elim hp
  | call request next ih => exact Or.inr fun reply => ih (.ok reply) (hp reply)

theorem ensures_await {wanted : S.Call → Prop} {request : S.Call} (h : wanted request) :
    (await request : Program S ε _).Ensures wanted :=
  Or.inl h

theorem Reliable.bind {p : Program S ε α} {f : α → Program S ε β} (hp : p.Reliable)
    (hf : ∀ value, (f value).Reliable) : (p >>= f).Reliable := by
  induction p with
  | finish result =>
      cases result with
      | ok value => exact hf value
      | error e => exact False.elim hp
  | call request next ih => exact fun reply => ih (.ok reply) (hp reply)

theorem reliable_await (request : S.Call) : (await request : Program S ε _).Reliable :=
  fun _ => trivial

theorem reliable_forEach {body : β → Program S ε Unit} (hbody : ∀ x, (body x).Reliable)
    (xs : List β) : (forEach xs body).Reliable := by
  induction xs with
  | nil => trivial
  | cons x xs ih => exact (hbody x).bind fun _ => ih

/-- A loop is bound to make the calls its body makes for each element. -/
theorem ensures_forEach {wanted : S.Call → Prop} {body : β → Program S ε Unit}
    (hreliable : ∀ x, (body x).Reliable) {xs : List β} {x : β} (hx : x ∈ xs)
    (hbody : (body x).Ensures wanted) : (forEach xs body).Ensures wanted := by
  induction xs with
  | nil => cases hx
  | cons y ys ih =>
      rcases List.mem_cons.mp hx with rfl | hx
      · exact hbody.bind_left
      · exact Ensures.bind_right (hreliable y) fun _ => ih hx

/-! ## Calls that make up for others -/

theorem Restores.bind {spoils wanted : S.Call → Prop} {p : Program S ε α}
    {f : α → Program S ε β} (hp : p.Restores spoils wanted)
    (hf : ∀ value, (f value).Restores spoils wanted) :
    (p >>= f).Restores spoils wanted := by
  induction p with
  | finish result =>
      cases result with
      | ok value => exact hf value
      | error e => trivial
  | call request next ih =>
      intro reply
      exact ⟨fun hspoils => ((hp reply).1 hspoils).bind_left, ih (.ok reply) (hp reply).2⟩

/-- Anything may be spoiled before a continuation that is bound to make up for
it. -/
theorem Reliable.restores_bind {spoils wanted : S.Call → Prop} {p : Program S ε α}
    {f : α → Program S ε β} (hp : p.Reliable) (hensures : ∀ value, (f value).Ensures wanted)
    (hrestores : ∀ value, (f value).Restores spoils wanted) :
    (p >>= f).Restores spoils wanted := by
  induction p with
  | finish result =>
      cases result with
      | ok value => exact hrestores value
      | error e => exact False.elim hp
  | call request next ih =>
      intro reply
      exact ⟨fun _ => Ensures.bind_right (hp reply) hensures, ih (.ok reply) (hp reply)⟩

/-- A program that never spoils has nothing to make up for. -/
theorem Uses.restores {spoils wanted : S.Call → Prop} {p : Program S ε α}
    (hp : p.Uses fun request => ¬ spoils request) : p.Restores spoils wanted := by
  induction p with
  | finish result => trivial
  | call request next ih =>
      intro reply
      exact ⟨fun hspoils => (hp.1 hspoils).elim, ih (.ok reply) (hp.2 (.ok reply))⟩

end Program

end Effects
