/-
# A queue that is read up to a marker

Several parties put items into an unbounded queue, and one consumer takes them in
order until it comes to a marker. What was put is always what was received and what
is still waiting; so the consumer that has stopped has received exactly what was put
before the first marker. Once a marker was put, it stops, however much is put later.
-/

import ByodsServer.Effects.Runs
import Mathlib.Tactic.Common

namespace Effects

variable {α : Type}

/-- Somebody puts an item, or a marker, or the consumer asks for what is next. -/
inductive QueueEvent (α : Type)
  | put (item : Option α)
  | take

/-- What is waiting in the queue, and the consumer. -/
structure MarkedQueue (α : Type) where
  waiting : List (Option α) := []
  received : List α := []
  stopped : Bool := false

namespace MarkedQueue

/-- One event. The consumer waits while the queue is empty. -/
def step (queue : MarkedQueue α) : QueueEvent α → MarkedQueue α
  | .put item => { queue with waiting := queue.waiting ++ [item] }
  | .take =>
      if queue.stopped then queue
      else
        match queue.waiting with
        | [] => queue
        | some item :: waiting =>
            { queue with waiting := waiting, received := queue.received ++ [item] }
        | none :: waiting => { queue with waiting := waiting, stopped := true }

/-- After some events. -/
def run (events : List (QueueEvent α)) : MarkedQueue α :=
  runEvents step {} events

/-- What an event puts. -/
def put? : QueueEvent α → Option (Option α)
  | .put item => some item
  | .take => none

/-- All that some events put, in order. -/
def puts (events : List (QueueEvent α)) : List (Option α) :=
  events.filterMap put?

/-- How often the consumer asks. -/
def takes (events : List (QueueEvent α)) : ℕ :=
  events.countP fun event => (put? event).isNone

theorem puts_append (first second : List (QueueEvent α)) :
    puts (first ++ second) = puts first ++ puts second :=
  List.filterMap_append

theorem run_append (first second : List (QueueEvent α)) :
    run (first ++ second) = runEvents step (run first) second :=
  List.foldl_append

/-! ## Nothing is lost -/

/-- What was put is what was received, the marker at which the consumer stopped, and
what is still waiting. -/
def Accounts (queue : MarkedQueue α) (items : List (Option α)) : Prop :=
  items = queue.received.map some ++
    (if queue.stopped then none :: queue.waiting else queue.waiting)

theorem Accounts.step {queue : MarkedQueue α} {items : List (Option α)}
    (h : queue.Accounts items) (event : QueueEvent α) :
    (queue.step event).Accounts (items ++ (put? event).toList) := by
  obtain ⟨waiting, received, stopped⟩ := queue
  cases event with
  | put item =>
      rw [h]
      cases stopped <;> simp [Accounts, MarkedQueue.step, put?]
  | take =>
      rw [h]
      cases stopped with
      | true => simp [Accounts, MarkedQueue.step, put?]
      | false =>
          rcases waiting with _ | ⟨_ | item, waiting⟩
          · simp [Accounts, MarkedQueue.step, put?]
          · simp [Accounts, MarkedQueue.step, put?]
          · simp [Accounts, MarkedQueue.step, put?]

theorem run_accounts (events : List (QueueEvent α)) : (run events).Accounts (puts events) := by
  induction events using List.reverseRecOn with
  | nil => rfl
  | append_singleton events event ih =>
      have hputs : puts (events ++ [event]) = puts events ++ (put? event).toList := by
        rw [puts_append]
        cases event <;> rfl
      rw [hputs, run, runEvents_concat]
      exact ih.step event

/-- A consumer that has stopped has received what was put before the first marker. -/
theorem puts_of_stopped {events : List (QueueEvent α)} (h : (run events).stopped = true) :
    ∃ rest, puts events = (run events).received.map some ++ none :: rest := by
  have haccounts := run_accounts events
  rw [Accounts, h, if_pos rfl] at haccounts
  exact ⟨_, haccounts⟩

/-- Without a marker, the consumer does not stop. -/
theorem not_stopped_of_none_notMem {events : List (QueueEvent α)} (h : none ∉ puts events) :
    (run events).stopped = false := by
  cases hstopped : (run events).stopped with
  | false => rfl
  | true =>
      obtain ⟨rest, hputs⟩ := puts_of_stopped hstopped
      rw [hputs] at h
      simp at h

/-- What was received was put. -/
theorem mem_puts_of_mem_received {events : List (QueueEvent α)} {item : α}
    (h : item ∈ (run events).received) : some item ∈ puts events := by
  rw [run_accounts events]
  exact List.mem_append_left _ (List.mem_map_of_mem h)

/-! ## The consumer stops -/

theorem stopped_step {queue : MarkedQueue α} (h : queue.stopped = true) (event : QueueEvent α) :
    (queue.step event).stopped = true := by
  cases event with
  | put item => exact h
  | take =>
      rw [step, if_pos h]
      exact h

/-- A marker waits behind fewer items than the consumer still asks for. -/
def MarkerWithin (queue : MarkedQueue α) (asked : ℕ) : Prop :=
  ∃ (items : List α) (rest : List (Option α)),
    queue.waiting = items.map some ++ none :: rest ∧ items.length < asked

theorem markerWithin_step {queue : MarkedQueue α} {event : QueueEvent α}
    {later : List (QueueEvent α)} (h : queue.MarkerWithin (takes (event :: later))) :
    (queue.step event).stopped = true ∨ (queue.step event).MarkerWithin (takes later) := by
  obtain ⟨items, rest, hwaiting, hlength⟩ := h
  obtain ⟨waiting, received, stopped⟩ := queue
  cases event with
  | put item => exact Or.inr ⟨items, rest ++ [item], by simp_all [step], hlength⟩
  | take =>
      have htakes : takes (QueueEvent.take :: later) = takes later + 1 :=
        List.countP_cons_of_pos rfl
      rw [htakes] at hlength
      cases stopped with
      | true => exact Or.inl rfl
      | false =>
          cases items with
          | nil =>
              left
              rw [show waiting = none :: rest from hwaiting]
              rfl
          | cons first items =>
              right
              rw [show waiting = some first :: (items.map some ++ none :: rest) from hwaiting]
              exact ⟨items, rest, rfl, by simpa using hlength⟩

/-- The consumer asks often enough to come to the marker. -/
theorem stopped_of_markerWithin (later : List (QueueEvent α)) {queue : MarkedQueue α}
    (h : queue.stopped = true ∨ queue.MarkerWithin (takes later)) :
    (runEvents step queue later).stopped = true := by
  induction later generalizing queue with
  | nil =>
      rcases h with h | ⟨items, rest, -, hlength⟩
      · exact h
      · cases hlength
  | cons event later ih =>
      refine ih (h.elim (fun hstopped => ?_) markerWithin_step)
      exact Or.inl (stopped_step hstopped event)

/-- Items up to the first marker. -/
theorem exists_before_marker {items : List (Option α)} (h : none ∈ items) :
    ∃ (before : List α) (rest : List (Option α)), items = before.map some ++ none :: rest := by
  induction items with
  | nil => cases h
  | cons item items ih =>
      cases item with
      | none => exact ⟨[], items, rfl⟩
      | some first =>
          obtain ⟨before, rest, rfl⟩ := ih (List.mem_of_ne_of_mem (Option.some_ne_none _).symm h)
          exact ⟨first :: before, rest, rfl⟩

theorem markerWithin_of_none_mem {events : List (QueueEvent α)} (hmarker : none ∈ puts events)
    (hstopped : (run events).stopped = false) :
    (run events).MarkerWithin (puts events).length := by
  have haccounts := run_accounts events
  rw [Accounts, hstopped, if_neg Bool.false_ne_true] at haccounts
  have hwaiting : none ∈ (run events).waiting := by
    rw [haccounts] at hmarker
    simpa using hmarker
  obtain ⟨items, rest, hitems⟩ := exists_before_marker hwaiting
  refine ⟨items, rest, hitems, ?_⟩
  have hlength := congrArg List.length haccounts
  rw [hitems] at hlength
  simp only [List.length_append, List.length_map, List.length_cons] at hlength
  omega

/-- Once a marker was put, a consumer that asks as often as anything was put receives
all that was put before the first marker, and stops. -/
theorem stops_at_marker {events later : List (QueueEvent α)} (hmarker : none ∈ puts events)
    (htakes : (puts events).length ≤ takes later) :
    (run (events ++ later)).stopped = true ∧
      ∃ rest, puts events = (run (events ++ later)).received.map some ++ none :: rest := by
  have hstopped : (run (events ++ later)).stopped = true := by
    rw [run_append]
    apply stopped_of_markerWithin
    cases hbefore : (run events).stopped with
    | true => exact Or.inl rfl
    | false =>
        obtain ⟨items, rest, hwaiting, hlength⟩ := markerWithin_of_none_mem hmarker hbefore
        exact Or.inr ⟨items, rest, hwaiting, Nat.lt_of_lt_of_le hlength htakes⟩
  refine ⟨hstopped, ?_⟩
  obtain ⟨rest, hputs⟩ := puts_of_stopped hstopped
  rw [puts_append] at hputs
  -- The first marker is among the earlier puts, so the split is there already.
  rcases List.append_eq_append_iff.mp hputs with ⟨items, hreceived, -⟩ | ⟨items, hevents, hrest⟩
  · have hnone : none ∈ (run (events ++ later)).received.map some := by
      rw [hreceived]
      exact List.mem_append_left items hmarker
    simp at hnone
  · cases items with
    | nil =>
        rw [hevents] at hmarker
        simp at hmarker
    | cons first items =>
        obtain ⟨rfl, -⟩ := List.cons.inj hrest
        exact ⟨items, hevents⟩

end MarkedQueue

end Effects
