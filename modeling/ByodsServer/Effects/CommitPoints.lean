/-
# Operations that take effect with their first call

An object is kept in a shared state; a relation says which state stands for which
object. An operation on it takes effect at once: its first call does what the
operation means for the object, and whatever it calls afterwards leaves the object
alone. `linearized` shows that any interleaving of such operations looks as if they had
been carried out one after the other, in the order of their first turns, whichever calls
fail: an operation whose first call was refused has not happened, and one whose answer
was lost has, without a word.

An operation may promise nothing about its answer, and a program that never calls
anything is no operation at all.
-/

import ByodsServer.Effects.UnreliablePool

namespace Effects

variable {S : Signature} {ε α ι σ κ ο : Type}

/-- A call with this fate takes effect. -/
def Fate.takesEffect : Fate ε → Bool
  | works => true
  | refused _ => false
  | lost _ => true

/-- What the result of an operation has to do with its promise: an answer is the one
promised, and one that failed at first gives none. -/
def Fate.Honours (promised : Option α) (result : Except ε α) : Fate ε → Prop
  | works => ∀ value, result = .ok value → ∀ answer ∈ promised, value = answer
  | _ => promised.isSome → ∃ e, result = .error e

/-- Any result goes with no promise. -/
theorem honours_none (fate : Fate ε) (result : Except ε α) : fate.Honours none result := by
  cases fate with
  | works => exact fun _ _ answer hanswer => nomatch hanswer
  | refused e => exact fun hpromised => nomatch hpromised
  | lost e => exact fun hpromised => nomatch hpromised

namespace Program

variable (handler : Handler S ε σ) (R : ο → σ → Prop)

/-- No call of the program changes the object, and its results are such and such. -/
def LeavesAlone (post : Except ε α → Prop) : Program S ε α → Prop
  | .finish result => post result
  | .call request next =>
      (∀ object state, R object state → R object (handler request state).2) ∧
        ∀ (fate : Fate ε) (state : σ),
          (next (fate.handle handler request state).1).LeavesAlone post

/-- The first call does what the operation means for the object. -/
def TakesEffect (operation : ο → ο × Option α) : Program S ε α → Prop
  | .finish _ => ∀ object, operation object = (object, none)
  | .call request next => ∀ object state, R object state →
      R (operation object).1 (handler request state).2 ∧
        ∀ fate : Fate ε, (next (fate.handle handler request state).1).LeavesAlone handler R
          fun result => fate.Honours (operation object).2 result

variable {handler R}

theorem LeavesAlone.mono {first second : Except ε α → Prop} {p : Program S ε α}
    (h : p.LeavesAlone handler R first) (himp : ∀ result, first result → second result) :
    p.LeavesAlone handler R second := by
  induction p with
  | finish result => exact himp result h
  | call request next ih => exact ⟨h.1, fun fate state => ih _ (h.2 fate state)⟩

/-- A program whose calls all leave the object alone does so itself. -/
theorem UsesUnreliably.leavesAlone {p : Program S ε α}
    (huses : p.UsesUnreliably handler fun request =>
      ∀ object state, R object state → R object (handler request state).2) :
    p.LeavesAlone handler R fun _ => True := by
  induction p with
  | finish result => trivial
  | call request next ih => exact ⟨huses.1, fun fate state => ih _ (huses.2 fate state)⟩

/-- A program whose calls all leave the object alone is an operation that does nothing and
promises nothing. -/
theorem UsesUnreliably.takesEffect {p : Program S ε α}
    (huses : p.UsesUnreliably handler fun request =>
      ∀ object state, R object state → R object (handler request state).2) :
    p.TakesEffect handler R fun object => (object, none) := by
  cases p with
  | finish result => exact fun object => rfl
  | call request next =>
      intro object state hstate
      refine ⟨huses.1 object state hstate, fun fate => ?_⟩
      exact (huses.2 fate state).leavesAlone.mono fun result _ => honours_none fate result

/-- The program makes one call, and raises when that fails. -/
def IsOneCall : Program S ε α → Prop
  | .finish _ => False
  | .call _ next => (∀ reply, ∃ result, next (.ok reply) = .finish result) ∧
      ∀ e, ∃ e', next (.error e) = .finish (.error e')

/-- A program of one call takes effect with it. -/
theorem IsOneCall.takesEffect {p : Program S ε α} (hone : p.IsOneCall)
    {operation : ο → ο × Option α}
    (hexec : ∀ object state, R object state →
      R (operation object).1 (p.exec handler state).2 ∧
        ∀ answer ∈ (operation object).2, (p.exec handler state).1 = .ok answer) :
    p.TakesEffect handler R operation := by
  cases p with
  | finish result => exact hone.elim
  | call request next =>
      intro object state hstate
      obtain ⟨hafter, hanswer⟩ := hexec object state hstate
      rw [exec_call] at hafter hanswer
      have hreply : ∃ result, next (handler request state).1 = .finish result := by
        cases (handler request state).1 with
        | ok reply => exact hone.1 reply
        | error e =>
            obtain ⟨e', hfinish⟩ := hone.2 e
            exact ⟨_, hfinish⟩
      obtain ⟨result, hresult⟩ := hreply
      rw [hresult, exec_finish] at hafter hanswer
      refine ⟨hafter, fun fate => ?_⟩
      have hraises (e : ε) : (next (.error e)).LeavesAlone handler R fun result =>
          (operation object).2.isSome → ∃ e', result = .error e' := by
        obtain ⟨e', hfinish⟩ := hone.2 e
        rw [hfinish]
        exact fun _ => ⟨e', rfl⟩
      cases fate with
      | works =>
          show (next (handler request state).1).LeavesAlone handler R _
          rw [hresult]
          intro value hvalue answer hpromised
          exact Except.ok.inj (hvalue.symm.trans (hanswer answer hpromised))
      | refused e => exact hraises e
      | lost e => exact hraises e

end Program

/-! ## First turns -/

section FirstTurns

variable [DecidableEq ι]

/-- One more event: whoever has not had a turn may have the first one. -/
def recordTurn (turns : List (ι × Fate ε)) : PoolEvent ε ι κ → List (ι × Fate ε)
  | .turn who fate => if who ∈ turns.map Prod.fst then turns else turns ++ [(who, fate)]
  | .changes _ => turns

/-- The participants who have had a turn, with what became of the first one, in the order
of these. -/
def firstTurns (events : List (PoolEvent ε ι κ)) : List (ι × Fate ε) :=
  runEvents recordTurn [] events

/-- The participants whose first turn took effect, in the order of these. -/
def effective (turns : List (ι × Fate ε)) : List ι :=
  (turns.filter fun turn => turn.2.takesEffect).map Prod.fst

/-- The object after some operations, one after the other. -/
def objectAfter (operation : ι → ο → ο × Option α) (order : List ι) (object : ο) : ο :=
  order.foldl (fun object who => (operation who object).1) object

theorem firstTurns_concat (events : List (PoolEvent ε ι κ)) (event : PoolEvent ε ι κ) :
    firstTurns (events ++ [event]) = recordTurn (firstTurns events) event :=
  runEvents_concat recordTurn [] events event

theorem nodup_firstTurns (events : List (PoolEvent ε ι κ)) :
    ((firstTurns events).map Prod.fst).Nodup := by
  refine runEvents_invariant (P := fun turns : List (ι × Fate ε) => (turns.map Prod.fst).Nodup)
    (fun turns event h => ?_) events List.nodup_nil
  cases event with
  | changes change => exact h
  | turn who fate =>
      rw [recordTurn]
      split_ifs with hmem
      · exact h
      · rw [List.map_append, List.nodup_append]
        refine ⟨h, List.nodup_singleton who, ?_⟩
        rintro first hfirst last hlast rfl
        have hsame : first = who := List.mem_singleton.mp hlast
        exact hmem (hsame ▸ hfirst)

/-- Later events only add later turns. -/
theorem firstTurns_prefix (first second : List (PoolEvent ε ι κ)) :
    firstTurns first <+: firstTurns (first ++ second) := by
  induction second using List.reverseRecOn with
  | nil => rw [List.append_nil]
  | append_singleton second event ih =>
      rw [← List.append_assoc, firstTurns_concat]
      apply ih.trans
      cases event with
      | changes change => exact List.prefix_refl _
      | turn who fate =>
          rw [recordTurn]
          split_ifs
          · exact List.prefix_refl _
          · exact List.prefix_append _ _

/-- The participant has a turn. -/
def HasTurn (events : List (PoolEvent ε ι κ)) (who : ι) : Prop :=
  ∃ fate, PoolEvent.turn who fate ∈ events

theorem mem_firstTurns_iff {events : List (PoolEvent ε ι κ)} {who : ι} :
    who ∈ (firstTurns events).map Prod.fst ↔ HasTurn events who := by
  induction events using List.reverseRecOn with
  | nil => simp [firstTurns, runEvents, HasTurn]
  | append_singleton events event ih =>
      rw [firstTurns_concat]
      cases event with
      | changes change =>
          rw [recordTurn, ih]
          simp [HasTurn]
      | turn other fate =>
          have hturn : HasTurn (events ++ [.turn other fate]) who ↔
              HasTurn events who ∨ who = other := by
            simp only [HasTurn, List.mem_append, List.mem_singleton, PoolEvent.turn.injEq,
              exists_or, exists_and_left, exists_eq, and_true]
          rw [recordTurn, hturn, ← ih]
          split_ifs with hmem
          · exact ⟨Or.inl, fun h => h.elim id fun hother => hother ▸ hmem⟩
          · simp

/-- Who took effect in a part of a run comes before anybody who had no turn in it. -/
theorem sublist_effective {first second : List (PoolEvent ε ι κ)} {one other : ι}
    (hone : HasTurn first one) (hother : ¬ HasTurn first other)
    (hone' : one ∈ effective (firstTurns (first ++ second)))
    (hother' : other ∈ effective (firstTurns (first ++ second))) :
    [one, other].Sublist (effective (firstTurns (first ++ second))) := by
  obtain ⟨later, hlater⟩ := firstTurns_prefix first second
  have hnodup := nodup_firstTurns (first ++ second)
  rw [← hlater, List.map_append, List.nodup_append] at hnodup
  rw [← mem_firstTurns_iff] at hone hother
  rw [← hlater, effective, List.filter_append, List.map_append, ← effective, ← effective]
    at hone' hother' ⊢
  have hsub (turns : List (ι × Fate ε)) : effective turns ⊆ turns.map Prod.fst :=
    List.map_subset _ (List.filter_subset_self _)
  have hfirst : one ∈ effective (firstTurns first) := by
    rcases List.mem_append.mp hone' with hmem | hmem
    · exact hmem
    · exact (hnodup.2.2 one hone one (hsub later hmem) rfl).elim
  have hlast : other ∈ effective later := by
    rcases List.mem_append.mp hother' with hmem | hmem
    · exact (hother (hsub _ hmem)).elim
    · exact hmem
  exact (List.singleton_sublist.mpr hfirst).append (List.singleton_sublist.mpr hlast)

omit [DecidableEq ι] in
theorem effective_concat (turns : List (ι × Fate ε)) (who : ι) (fate : Fate ε) :
    effective (turns ++ [(who, fate)]) =
      if fate.takesEffect then effective turns ++ [who] else effective turns := by
  rw [effective, List.filter_append, List.map_append]
  cases hfate : fate.takesEffect with
  | true => simp [effective, hfate]
  | false => simp [effective, hfate]

omit [DecidableEq ι] in
/-- Who took effect had a first turn at that place. -/
theorem exists_turn_of_effective {turns : List (ι × Fate ε)} {before after : List ι} {who : ι}
    (h : effective turns = before ++ who :: after) :
    ∃ earlier fate later, turns = earlier ++ (who, fate) :: later ∧ fate.takesEffect = true ∧
      effective earlier = before := by
  obtain ⟨first, second, hfilter, rfl, hsecond⟩ := List.map_eq_append_iff.mp h
  obtain ⟨⟨_, fate⟩, rest, rfl, rfl, -⟩ := List.map_eq_cons_iff.mp hsecond
  obtain ⟨kept, others, rfl, rfl, hothers⟩ := List.filter_eq_append_iff.mp hfilter
  obtain ⟨skipped, later, rfl, hskipped, hfate, -⟩ := List.filter_eq_cons_iff.mp hothers
  refine ⟨kept ++ skipped, fate, later, by rw [List.append_assoc], hfate, ?_⟩
  rw [effective, List.filter_append, List.filter_eq_nil_iff.mpr hskipped, List.append_nil]

omit [DecidableEq ι] in
theorem objectAfter_concat (operation : ι → ο → ο × Option α) (order : List ι) (who : ι)
    (object : ο) : objectAfter operation (order ++ [who]) object =
      (operation who (objectAfter operation order object)).1 :=
  List.foldl_append

end FirstTurns

/-! ## Every interleaving -/

namespace Pool

variable [DecidableEq ι] {handler : Handler S ε σ} {R : ο → σ → Prop}
  {operation : ι → ο → ο × Option α}

/-- Where a pool is: the state stands for the object after the operations that took
effect, those who have had no turn have all to do, and what anybody else will answer is
settled. -/
structure CommittedTo (handler : Handler S ε σ) (R : ο → σ → Prop)
    (operation : ι → ο → ο × Option α) (object : ο) (turns : List (ι × Fate ε))
    (pool : Pool S ε α ι σ) : Prop where
  state : R (objectAfter operation (effective turns) object) pool.state
  ahead : ∀ who, who ∉ turns.map Prod.fst →
    (pool.programs who).TakesEffect handler R (operation who)
  begun : ∀ before who fate after, turns = before ++ (who, fate) :: after →
    (pool.programs who).LeavesAlone handler R fun result =>
      fate.Honours (operation who (objectAfter operation (effective before) object)).2 result

/-- A further turn of somebody who has begun changes nothing about the object. -/
theorem CommittedTo.stepAt_begun {object : ο} {turns : List (ι × Fate ε)}
    {pool : Pool S ε α ι σ} (h : pool.CommittedTo handler R operation object turns) {who : ι}
    (hwho : who ∈ turns.map Prod.fst) (fate : Fate ε) :
    (pool.stepAt (fate.handle handler) who).CommittedTo handler R operation object turns := by
  rcases pool.stepAt_cases (fate.handle handler) who with hsame | ⟨request, next, hcall, hstep⟩
  · rwa [hsame]
  · obtain ⟨first, hturn⟩ : ∃ first, (who, first) ∈ turns := by simpa using hwho
    obtain ⟨before, after, hturns⟩ := List.append_of_mem hturn
    have hleaves := h.begun before who first after hturns
    rw [hcall] at hleaves
    rw [hstep]
    refine ⟨fate.handle_keeps (hleaves.1 _ pool.state h.state) h.state, fun other hother => ?_,
      fun before other fate' after hturns => ?_⟩
    · have hne : other ≠ who := by
        rintro rfl
        exact hother hwho
      simpa [Function.update_of_ne hne] using h.ahead other hother
    · have hother := h.begun before other fate' after hturns
      by_cases hne : other = who
      · subst hne
        rw [hcall] at hother
        simpa using hother.2 fate pool.state
      · simpa [Function.update_of_ne hne] using hother

/-- The first turn of a participant is where its operation takes effect, if it does. -/
theorem CommittedTo.stepAt_first {object : ο} {turns : List (ι × Fate ε)}
    {pool : Pool S ε α ι σ} (h : pool.CommittedTo handler R operation object turns) {who : ι}
    (hwho : who ∉ turns.map Prod.fst) (fate : Fate ε) :
    (pool.stepAt (fate.handle handler) who).CommittedTo handler R operation object
      (turns ++ [(who, fate)]) := by
  have hahead := h.ahead who hwho
  -- The turns before are as they were, and this one is the last.
  have hsplit {before after : List (ι × Fate ε)} {other : ι} {fate' : Fate ε}
      (hturns : turns ++ [(who, fate)] = before ++ (other, fate') :: after) :
      (before = turns ∧ other = who ∧ fate' = fate) ∨
        ∃ rest, turns = before ++ (other, fate') :: rest := by
    rcases List.eq_nil_or_concat' after with rfl | ⟨rest, last, rfl⟩
    · obtain ⟨hbefore, hlast⟩ := List.append_inj' hturns rfl
      obtain ⟨rfl, rfl⟩ := Prod.mk.inj (List.cons.inj hlast).1
      exact Or.inl ⟨hbefore.symm, rfl, rfl⟩
    · rw [← List.cons_append, ← List.append_assoc] at hturns
      exact Or.inr ⟨rest, (List.append_inj' hturns rfl).1⟩
  cases hprogram : pool.programs who with
  | finish result =>
      rw [hprogram] at hahead
      rw [stepAt_finish _ hprogram]
      refine ⟨?_, fun other hother => ?_, fun before other fate' after hturns => ?_⟩
      · rw [effective_concat]
        split_ifs
        · rw [objectAfter_concat, hahead]
          exact h.state
        · exact h.state
      · rw [List.map_append, List.mem_append, not_or] at hother
        exact h.ahead other hother.1
      · rcases hsplit hturns with ⟨-, rfl, rfl⟩ | ⟨rest, hrest⟩
        · rw [hprogram, hahead]
          exact honours_none fate' result
        · exact h.begun before other fate' rest hrest
  | call request next =>
      rw [hprogram] at hahead
      obtain ⟨heffect, hrest⟩ := hahead _ pool.state h.state
      rw [stepAt_call _ hprogram]
      refine ⟨?_, fun other hother => ?_, fun before other fate' after hturns => ?_⟩
      · rw [effective_concat]
        cases fate with
        | works =>
            show R (objectAfter operation (effective turns ++ [who]) object) _
            rw [objectAfter_concat]
            exact heffect
        | refused e => exact h.state
        | lost e =>
            show R (objectAfter operation (effective turns ++ [who]) object) _
            rw [objectAfter_concat]
            exact heffect
      · rw [List.map_append, List.mem_append, not_or] at hother
        have hne : other ≠ who := by
          rintro rfl
          exact hother.2 (List.mem_singleton_self _)
        simpa [Function.update_of_ne hne] using h.ahead other hother.1
      · rcases hsplit hturns with ⟨rfl, rfl, rfl⟩ | ⟨rest, hturn⟩
        · simpa using hrest fate'
        · have hne : other ≠ who := by
            rintro rfl
            apply hwho
            rw [hturn]
            simp
          simpa [Function.update_of_ne hne] using h.begun before other fate' rest hturn

/-- Every run of a pool of operations is one of operations that take effect one after the
other, in the order of their first turns. -/
theorem linearized {environment : κ → σ → σ}
    (hchange : ∀ change object state, R object state → R object (environment change state))
    {pool : Pool S ε α ι σ} {object : ο} (hstate : R object pool.state)
    (hprograms : ∀ who, (pool.programs who).TakesEffect handler R (operation who))
    (events : List (PoolEvent ε ι κ)) :
    (pool.occurAll handler environment events).CommittedTo handler R operation object
      (firstTurns events) := by
  induction events using List.reverseRecOn with
  | nil =>
      refine ⟨hstate, fun who _ => hprograms who, fun before who fate after h => ?_⟩
      exact absurd h.symm (List.append_ne_nil_of_right_ne_nil _ (List.cons_ne_nil _ _))
  | append_singleton events event ih =>
      rw [occurAll, runEvents_concat, ← occurAll, firstTurns_concat]
      cases event with
      | changes change => exact ⟨hchange change _ _ ih.state, ih.ahead, ih.begun⟩
      | turn who fate =>
          rw [recordTurn]
          split_ifs with hwho
          · exact ih.stepAt_begun hwho fate
          · exact ih.stepAt_first hwho fate

/-- Whatever happens, the operations that took effect can be put in an order in which an
object that is used by one at a time gives all the answers that were given, and ends as
it did; everybody who was promised an answer and got one is among them. Who had a turn
before another one's first comes before, so the order respects what was over when. -/
theorem linearizable {environment : κ → σ → σ}
    (hchange : ∀ change object state, R object state → R object (environment change state))
    {pool : Pool S ε α ι σ} {object : ο} (hstate : R object pool.state)
    (hprograms : ∀ who, (pool.programs who).TakesEffect handler R (operation who))
    (events : List (PoolEvent ε ι κ)) :
    ∃ order : List ι, order.Nodup ∧
      R (objectAfter operation order object) (pool.occurAll handler environment events).state ∧
      (∀ before who after value, order = before ++ who :: after →
        (pool.occurAll handler environment events).programs who = .finish (.ok value) →
        ∀ answer ∈ (operation who (objectAfter operation before object)).2, value = answer) ∧
      (∀ who value, (∀ object, (operation who object).2.isSome) →
        (pool.occurAll handler environment events).programs who = .finish (.ok value) →
        who ∈ order) ∧
      ∀ first second, events = first ++ second → ∀ one other, HasTurn first one →
        ¬ HasTurn first other → one ∈ order → other ∈ order → [one, other].Sublist order := by
  have hcommitted := linearized hchange hstate hprograms events
  have hnodup := nodup_firstTurns events
  refine ⟨effective (firstTurns events), ?_, hcommitted.state, ?_, ?_, ?_⟩
  · exact hnodup.sublist (List.filter_sublist.map Prod.fst)
  · intro before who after value horder hfinish answer hanswer
    obtain ⟨earlier, fate, later, hturns, heffect, rfl⟩ := exists_turn_of_effective horder
    have hhonours := hcommitted.begun earlier who fate later hturns
    rw [hfinish] at hhonours
    cases fate with
    | works => exact hhonours value rfl answer hanswer
    | refused e => cases heffect
    | lost e =>
        obtain ⟨e', herror⟩ := hhonours (Option.isSome_of_mem hanswer)
        cases herror
  · intro who value hpromises hfinish
    by_cases hturn : who ∈ (firstTurns events).map Prod.fst
    · obtain ⟨fate, hmem⟩ : ∃ fate, (who, fate) ∈ firstTurns events := by simpa using hturn
      obtain ⟨earlier, later, hturns⟩ := List.append_of_mem hmem
      have hhonours := hcommitted.begun earlier who fate later hturns
      rw [hfinish] at hhonours
      have heffect : fate.takesEffect = true := by
        cases fate with
        | works => rfl
        | lost e => rfl
        | refused e =>
            obtain ⟨e', herror⟩ := hhonours (hpromises _)
            cases herror
      exact List.mem_map.mpr ⟨(who, fate), List.mem_filter.mpr ⟨hmem, heffect⟩, rfl⟩
    · -- A program that finishes without a turn is no operation.
      have hahead := hcommitted.ahead who hturn
      rw [hfinish] at hahead
      have hnone := hpromises object
      rw [hahead object] at hnone
      cases hnone
  · rintro first second rfl one other hone hother hone' hother'
    exact sublist_effective hone hother hone' hother'

end Pool

end Effects
