/-
# Facts that last

Processes start, fail and are replaced, while the state that they share goes through all of
it. A fact about the state is durable when every permitted call and every change of the
environment keeps it. Once a call was answered as it is answered only by a call that makes
the fact true, it is true as long as only permitted calls are made; a process that starts
later is answered accordingly, and never does what it may do only after another answer.
-/

import ByodsServer.Effects.Attribution
import ByodsServer.Effects.UnreliablePool

namespace Effects

variable {S : Signature} {ε α ι σ κ : Type}

/-- What the permitted calls and the environment keep. -/
structure Durable (handler : Handler S ε σ) (environment : κ → σ → σ) (permitted : S.Call → Prop)
    (P : σ → Prop) : Prop where
  call : ∀ request, permitted request → ∀ state, P state → P (handler request state).2
  change : ∀ change state, P state → P (environment change state)

/-- Translating allowed calls by programs of permitted ones. -/
theorem Program.Uses.translate_unreliably {S T : Signature} {handler : Handler T ε σ}
    {allowed : S.Call → Prop} {permitted : T.Call → Prop}
    {f : (request : S.Call) → Program T ε (S.Reply request)}
    (hcalls : ∀ request, allowed request → (f request).UsesUnreliably handler permitted)
    {p : Program S ε α} (huses : p.Uses allowed) :
    (p.translate f).UsesUnreliably handler permitted := by
  induction p with
  | finish result => trivial
  | call request next ih =>
      exact (hcalls request huses.1).resume fun reply => ih reply (huses.2 reply)

namespace LoggedPool

variable [DecidableEq ι] (handler : Handler S ε σ) (environment : κ → σ → σ)

/-- One event. -/
def occur (pool : LoggedPool S ε α ι σ) : PoolEvent ε ι κ → LoggedPool S ε α ι σ
  | .turn who fate => pool.turn (fate.handle handler) who
  | .changes change => { pool with state := environment change pool.state }

/-- A run of events. -/
def occurAll (pool : LoggedPool S ε α ι σ) (events : List (PoolEvent ε ι κ)) :
    LoggedPool S ε α ι σ :=
  runEvents (occur handler environment) pool events

theorem occurAll_append (pool : LoggedPool S ε α ι σ) (first second : List (PoolEvent ε ι κ)) :
    pool.occurAll handler environment (first ++ second) =
      (pool.occurAll handler environment first).occurAll handler environment second :=
  List.foldl_append

/-- A participant that is left alone comes to its end, and the others have made no calls. -/
theorem exists_alone (pool : LoggedPool S ε α ι σ) (who : ι) :
    ∃ turns : ℕ,
      (pool.occurAll handler environment (List.replicate turns (.turn who .works))).programs who =
          .finish ((pool.programs who).exec handler pool.state).1 ∧
        ∀ other, other ≠ who →
          (pool.occurAll handler environment
            (List.replicate turns (.turn who .works))).histories other = pool.histories other := by
  induction hprogram : pool.programs who generalizing pool with
  | finish result => exact ⟨0, hprogram, fun _ _ => rfl⟩
  | call request next ih =>
      have hturn : (pool.turn handler who).programs who =
          next (handler request pool.state).1 := by
        rw [turn_call handler hprogram]
        exact Function.update_self _ _ _
      have hstate : (pool.turn handler who).state = (handler request pool.state).2 := by
        rw [turn_call handler hprogram]
      obtain ⟨turns, hfinish, hothers⟩ := ih _ (pool.turn handler who) hturn
      refine ⟨turns + 1, ?_, fun other hother => ?_⟩
      · rw [Program.exec_call, ← hstate]
        exact hfinish
      · exact (hothers other hother).trans (turn_histories_of_ne handler pool hother)

/-- Without the histories, a turn is a turn. -/
theorem turn_toPool (pool : LoggedPool S ε α ι σ) (who : ι) :
    (pool.turn handler who).toPool = pool.toPool.stepAt handler who := by
  cases hprogram : pool.programs who with
  | finish result => rw [turn_finish handler hprogram, Pool.stepAt_finish handler hprogram]
  | call request next => rw [turn_call handler hprogram, Pool.stepAt_call handler hprogram]

variable {handler environment} {permitted : S.Call → Prop} {P : σ → Prop}

theorem EachFollows.occurAll {allowed : ι → History S ε → S.Call → Prop}
    {post : ι → History S ε → Except ε α → Prop} {pool : LoggedPool S ε α ι σ}
    (h : pool.EachFollows allowed post) (events : List (PoolEvent ε ι κ)) :
    (pool.occurAll handler environment events).EachFollows allowed post := by
  refine runEvents_invariant (fun pool event h => ?_) events h
  cases event with
  | turn who fate => exact h.turn who
  | changes change => exact h

omit [DecidableEq ι] in
/-- Only permitted calls were made. -/
def OnlyMade (permitted : S.Call → Prop) (pool : LoggedPool S ε α ι σ) : Prop :=
  ∀ who, ∀ answered ∈ pool.histories who, permitted answered.1

/-- An event takes nothing out of a history. -/
theorem histories_occur (pool : LoggedPool S ε α ι σ) (event : PoolEvent ε ι κ) (who : ι) :
    pool.histories who <:+ (pool.occur handler environment event).histories who := by
  cases event with
  | changes change => exact List.suffix_refl _
  | turn other fate =>
      cases hprogram : pool.programs other with
      | finish result => rw [occur, turn_finish _ hprogram]
      | call request next =>
          rw [occur, turn_call _ hprogram]
          dsimp only
          by_cases hwho : who = other
          · subst hwho
            rw [Function.update_self]
            exact List.suffix_cons _ _
          · rw [Function.update_of_ne hwho]

theorem histories_occurAll (pool : LoggedPool S ε α ι σ) (events : List (PoolEvent ε ι κ))
    (who : ι) :
    pool.histories who <:+ (pool.occurAll handler environment events).histories who :=
  runEvents_invariant (P := fun reached : LoggedPool S ε α ι σ =>
    pool.histories who <:+ reached.histories who)
    (fun reached event h => h.trans (histories_occur reached event who)) events
    (List.suffix_refl _)

/-- What was made later on includes what was made before. -/
theorem OnlyMade.of_occur {pool : LoggedPool S ε α ι σ} {event : PoolEvent ε ι κ}
    (h : (pool.occur handler environment event).OnlyMade permitted) : pool.OnlyMade permitted :=
  fun who answered hmem => h who answered ((histories_occur pool event who).subset hmem)

theorem OnlyMade.of_occurAll {pool : LoggedPool S ε α ι σ} {events : List (PoolEvent ε ι κ)}
    (h : (pool.occurAll handler environment events).OnlyMade permitted) :
    pool.OnlyMade permitted :=
  fun who answered hmem => h who answered ((histories_occurAll pool events who).subset hmem)

/-- The programs make permitted calls, and no others were made. -/
structure Confined (handler : Handler S ε σ) (permitted : S.Call → Prop)
    (pool : LoggedPool S ε α ι σ) : Prop where
  uses : ∀ who, (pool.programs who).UsesUnreliably handler permitted
  made : pool.OnlyMade permitted

theorem Confined.occur {pool : LoggedPool S ε α ι σ} (h : pool.Confined handler permitted)
    (event : PoolEvent ε ι κ) :
    (pool.occur handler environment event).Confined handler permitted := by
  cases event with
  | changes change => exact ⟨h.uses, h.made⟩
  | turn other fate =>
      refine ⟨fun who => ?_, fun who answered hmem => ?_⟩
      · rw [LoggedPool.occur, turn_toPool]
        exact Pool.usesUnreliably_stepAt (h.uses who) other fate
      · cases hprogram : pool.programs other with
        | finish result =>
            rw [LoggedPool.occur, turn_finish _ hprogram] at hmem
            exact h.made who answered hmem
        | call request next =>
            have hother := h.uses other
            rw [hprogram] at hother
            rw [LoggedPool.occur, turn_call _ hprogram] at hmem
            dsimp only at hmem
            by_cases hwho : who = other
            · subst hwho
              rw [Function.update_self, List.mem_cons] at hmem
              rcases hmem with rfl | hbefore
              · exact hother.1
              · exact h.made who answered hbefore
            · rw [Function.update_of_ne hwho] at hmem
              exact h.made who answered hmem

theorem Confined.occurAll {pool : LoggedPool S ε α ι σ} (h : pool.Confined handler permitted)
    (events : List (PoolEvent ε ι κ)) :
    (pool.occurAll handler environment events).Confined handler permitted :=
  runEvents_invariant (P := fun pool : LoggedPool S ε α ι σ => pool.Confined handler permitted)
    (fun _ event hpool => hpool.occur event) events h

/-- An event whose call is permitted keeps a durable fact. -/
theorem holds_occur (hdurable : Durable handler environment permitted P)
    {pool : LoggedPool S ε α ι σ} (h : P pool.state) (event : PoolEvent ε ι κ)
    (hmade : (pool.occur handler environment event).OnlyMade permitted) :
    P (pool.occur handler environment event).state := by
  cases event with
  | changes change => exact hdurable.change change pool.state h
  | turn who fate =>
      cases hprogram : pool.programs who with
      | finish result =>
          rw [occur, turn_finish _ hprogram]
          exact h
      | call request next =>
          have hrequest : permitted request := by
            refine hmade who ⟨request, (fate.handle handler request pool.state).1⟩ ?_
            rw [occur, turn_call _ hprogram]
            dsimp only
            rw [Function.update_self]
            exact List.mem_cons_self
          rw [occur, turn_call _ hprogram]
          exact fate.handle_keeps (hdurable.call request hrequest pool.state h) h

/-- A durable fact lasts as long as only permitted calls are made. -/
theorem holds_occurAll (hdurable : Durable handler environment permitted P)
    {pool : LoggedPool S ε α ι σ} (h : P pool.state) (events : List (PoolEvent ε ι κ))
    (hmade : (pool.occurAll handler environment events).OnlyMade permitted) :
    P (pool.occurAll handler environment events).state :=
  runEvents_invariant (P := fun pool : LoggedPool S ε α ι σ =>
    pool.OnlyMade permitted → P pool.state)
    (fun _ event hpool hmade => holds_occur hdurable (hpool hmade.of_occur) event hmade)
    events (fun _ => h) hmade

/-- What an answer proves is true as long as the facts of its kind last. -/
theorem holds_of_evidence (hdurable : Durable handler environment permitted P)
    {evidence : Answered S ε → Prop}
    (hevidence : ∀ (fate : Fate ε) request state,
      evidence ⟨request, (fate.handle handler request state).1⟩ →
        P (fate.handle handler request state).2)
    {pool : LoggedPool S ε α ι σ} (hnone : ∀ who, pool.histories who = [])
    (events : List (PoolEvent ε ι κ))
    (hmade : (pool.occurAll handler environment events).OnlyMade permitted) {who : ι}
    {answered : Answered S ε}
    (hmem : answered ∈ (pool.occurAll handler environment events).histories who)
    (h : evidence answered) : P (pool.occurAll handler environment events).state := by
  refine runEvents_invariant (P := fun pool : LoggedPool S ε α ι σ =>
    pool.OnlyMade permitted →
      ∀ who, ∀ answered ∈ pool.histories who, evidence answered → P pool.state)
    (fun pool event hpool hmade who answered hmem hanswered => ?_) events
    (fun _ who answered hmem => ?_) hmade who answered hmem h
  · have hearlier (hbefore : answered ∈ pool.histories who) :
        P (pool.occur handler environment event).state :=
      holds_occur hdurable (hpool hmade.of_occur who answered hbefore hanswered) event hmade
    cases event with
    | changes change => exact hearlier hmem
    | turn other fate =>
        cases hprogram : pool.programs other with
        | finish result =>
            rw [occur, turn_finish _ hprogram] at hmem
            exact hearlier hmem
        | call request next =>
            rw [occur, turn_call _ hprogram] at hmem
            dsimp only at hmem
            by_cases hwho : who = other
            · subst hwho
              rw [Function.update_self, List.mem_cons] at hmem
              rcases hmem with rfl | hbefore
              · rw [occur, turn_call _ hprogram]
                exact hevidence fate request pool.state hanswered
              · exact hearlier hbefore
            · rw [Function.update_of_ne hwho] at hmem
              exact hearlier hmem
  · rw [hnone who] at hmem
    cases hmem

/-- A participant that has made no call yet is answered in agreement with a durable fact from
then on, and never makes a call that it may make only otherwise. -/
theorem avoids_of_durable (hdurable : Durable handler environment permitted P)
    {agrees : Answered S ε → Prop} {forbidden : S.Call → Prop}
    (hagrees : ∀ (fate : Fate ε) request state, P state →
      agrees ⟨request, (fate.handle handler request state).1⟩)
    {allowed : History S ε → S.Call → Prop} {post : History S ε → Except ε α → Prop}
    (havoids : ∀ history request, (∀ answered ∈ history, agrees answered) →
      allowed history request → ¬ forbidden request)
    {pool : LoggedPool S ε α ι σ} (hholds : P pool.state) {who : ι}
    (hfollows : (pool.programs who).Follows allowed post (pool.histories who))
    (hnew : pool.histories who = []) (events : List (PoolEvent ε ι κ))
    (hmade : (pool.occurAll handler environment events).OnlyMade permitted) :
    ∀ answered ∈ (pool.occurAll handler environment events).histories who,
      ¬ forbidden answered.1 := by
  have hrun : P (pool.occurAll handler environment events).state ∧
      ((pool.occurAll handler environment events).programs who).Follows allowed post
        ((pool.occurAll handler environment events).histories who) ∧
      ∀ answered ∈ (pool.occurAll handler environment events).histories who,
        agrees answered ∧ ¬ forbidden answered.1 := by
    refine runEvents_invariant (P := fun pool : LoggedPool S ε α ι σ =>
      pool.OnlyMade permitted → P pool.state ∧
        (pool.programs who).Follows allowed post (pool.histories who) ∧
        ∀ answered ∈ pool.histories who, agrees answered ∧ ¬ forbidden answered.1)
      (fun pool event hpool hmade => ?_) events
      (fun _ => ⟨hholds, hfollows, fun answered hmem => ?_⟩) hmade
    · obtain ⟨hholds, hfollows, hanswers⟩ := hpool hmade.of_occur
      refine ⟨holds_occur hdurable hholds event hmade, ?_⟩
      cases event with
      | changes change => exact ⟨hfollows, hanswers⟩
      | turn other fate =>
          cases hprogram : pool.programs other with
          | finish result =>
              rw [occur, turn_finish _ hprogram]
              exact ⟨hfollows, hanswers⟩
          | call request next =>
              rw [occur, turn_call _ hprogram]
              dsimp only
              by_cases hwho : who = other
              · subst hwho
                rw [hprogram] at hfollows
                rw [Function.update_self, Function.update_self]
                refine ⟨hfollows.2 _, fun answered hmem => ?_⟩
                rcases List.mem_cons.mp hmem with rfl | hbefore
                · exact ⟨hagrees fate request pool.state hholds,
                    havoids _ request (fun answered hmem => (hanswers answered hmem).1) hfollows.1⟩
                · exact hanswers answered hbefore
              · rw [Function.update_of_ne hwho, Function.update_of_ne hwho]
                exact ⟨hfollows, hanswers⟩
    · rw [hnew] at hmem
      cases hmem
  exact fun answered hmem => (hrun.2.2 answered hmem).2

end LoggedPool

end Effects
