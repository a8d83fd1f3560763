/-
# The events of a media stream

Whatever requests come and whatever the SDK raises, the dispatched events are those
of a session: a start first, input for the latest start in between, at most one end,
and nothing after it. Without a verified token there are none at all.
-/

import ByodsServer.Byova.TryStatement

namespace ByodsServer

open Effects

variable {Session Turn : Type}

/-- The event that a call dispatches. -/
def dispatch? : Answered (mediaCalls Session Turn) MediaException →
    Option (Dispatch Session Turn)
  | ⟨.dispatchEvent _ event session turn, _⟩ => some ⟨event, session, turn⟩
  | _ => none

/-- The events that some calls dispatch, in order. -/
def dispatched (calls : List (Answered (mediaCalls Session Turn) MediaException)) :
    List (Dispatch Session Turn) :=
  calls.filterMap dispatch?

theorem after_dispatches (account : MediaAccount Session Turn)
    (answered : Answered (mediaCalls Session Turn) MediaException) :
    (account.after answered).dispatches = (dispatch? answered).toList ++ account.dispatches := by
  obtain ⟨request, reply⟩ := answered
  cases request with
  | verifyContext => cases reply <;> rfl
  | anext request => cases request <;> cases reply <;> rfl
  | getOrCreate conversationId metadata => cases reply <;> rfl
  | _ => rfl

/-- The account of some calls has their events, the latest first. -/
theorem accountOf_reverse_dispatches
    (calls : List (Answered (mediaCalls Session Turn) MediaException)) :
    (accountOf calls.reverse).dispatches = (dispatched calls).reverse := by
  have hhistory (history : MediaHistory Session Turn) :
      (accountOf history).dispatches = dispatched history := by
    induction history with
    | nil => rfl
    | cons answered history ih =>
        rw [accountOf, after_dispatches, ih, dispatched, dispatched, List.filterMap_cons]
        cases dispatch? answered with
        | none => rfl
        | some dispatch => rfl
  rw [hhistory, dispatched, dispatched, List.filterMap_reverse]

/-- A dispatched event was dispatched by a call, after the calls of the earlier ones. -/
theorem exists_call_of_dispatched
    {calls : List (Answered (mediaCalls Session Turn) MediaException)}
    {before after : List (Dispatch Session Turn)} {dispatch : Dispatch Session Turn}
    (h : dispatched calls = before ++ dispatch :: after) :
    ∃ earlier name reply later,
      calls = earlier ++
        ⟨.dispatchEvent name dispatch.event dispatch.session dispatch.turn, reply⟩ :: later ∧
      dispatched earlier = before := by
  obtain ⟨first, rest, rfl, hfirst, hrest⟩ := List.filterMap_eq_append_iff.mp h
  obtain ⟨skipped, answered, later, rfl, hskipped, hcall, -⟩ := List.filterMap_eq_cons_iff.mp hrest
  obtain ⟨request, reply⟩ := answered
  have hearlier : dispatched (first ++ skipped) = before := by
    have hnone : skipped.filterMap dispatch? = [] := List.filterMap_eq_nil_iff.mpr hskipped
    rw [dispatched, List.filterMap_append, hfirst, hnone, List.append_nil]
  cases request with
  | dispatchEvent name event session turn =>
      cases hcall
      exact ⟨first ++ skipped, name, reply, later, by simp, hearlier⟩
  | _ => cases hcall

/-- In every run, an event may follow the events before it. -/
theorem mayFollow_of_dispatched {σ : Type}
    (handler : Handler (mediaCalls Session Turn) MediaException σ) (streamId : String)
    (config : MediaConfig) (dtmfMap : Int → Option String) (requests : List VoiceVARequest)
    (state : σ) {before after : List (Dispatch Session Turn)} {dispatch : Dispatch Session Turn}
    (h : dispatched ((requestReader streamId config dtmfMap requests).trace handler state) =
      before ++ dispatch :: after) : MayFollow before.reverse dispatch := by
  obtain ⟨earlier, name, reply, later, htrace, rfl⟩ := exists_call_of_dispatched h
  rw [← accountOf_reverse_dispatches]
  exact (allowed_of_trace htrace).dispatch.2

/-- Without a verified token, nothing is dispatched. -/
theorem not_dispatched_of_unverified {σ : Type}
    (handler : Handler (mediaCalls Session Turn) MediaException σ) (streamId : String)
    {config : MediaConfig} (dtmfMap : Int → Option String) (requests : List VoiceVARequest)
    {state : σ} (hverify : config.verifyTokens = true) {e : MediaException}
    (hfails : (handler .verifyContext state).1 = .error e) :
    dispatched ((requestReader streamId config dtmfMap requests :
      MediaProgram Session Turn Unit).trace handler state) = [] := by
  refine List.filterMap_eq_nil_iff.mpr fun answered hmem => ?_
  have hrefusal := refused_of_unverified streamId dtmfMap requests hverify hfails answered hmem
  obtain ⟨request, reply⟩ := answered
  cases request with
  | dispatchEvent name event session turn => cases hrefusal
  | _ => rfl

def MediaEvent.isSessionStart : MediaEvent → Bool
  | .sessionStart _ _ => true
  | _ => false

/-- Audio or DTMF. -/
def MediaEvent.isInput : MediaEvent → Bool
  | .audioInput _ _ _ => true
  | .dtmfInput _ => true
  | _ => false

section MayFollow

variable {earlier : List (Dispatch Session Turn)} {dispatch : Dispatch Session Turn}

theorem MayFollow.isSessionStart_of_first
    (h : MayFollow ([] : List (Dispatch Session Turn)) dispatch) :
    dispatch.event.isSessionStart = true := by
  obtain ⟨event, session, turn⟩ := dispatch
  cases event with
  | sessionStart conversationId metadata => rfl
  | audioInput audio encoding sampleRate => cases h.2
  | dtmfInput digits => cases h.2.1
  | sessionEnd reason => cases h.2

theorem MayFollow.latestStart_of_isInput (h : MayFollow earlier dispatch)
    (hinput : dispatch.event.isInput = true) :
    latestStart earlier = some (dispatch.session, dispatch.turn) := by
  obtain ⟨event, session, turn⟩ := dispatch
  cases event with
  | audioInput audio encoding sampleRate => exact h.2
  | dtmfInput digits => exact h.2.1
  | sessionStart conversationId metadata => cases hinput
  | sessionEnd reason => cases hinput

theorem MayFollow.digits_ne_empty (h : MayFollow earlier dispatch) {digits : String}
    (hevent : dispatch.event = .dtmfInput digits) : digits ≠ "" := by
  obtain ⟨event, session, turn⟩ := dispatch
  subst hevent
  exact h.2.2

end MayFollow

/-- For every stream of requests and whatever the calls of the reader answer or raise,
the dispatched events are none or begin with a start, input goes to the session and
the turn of the latest start before it and DTMF has digits, an end is last, and
without a verified token there are none. -/
theorem media_events_wellFormed {σ : Type}
    (handler : Handler (mediaCalls Session Turn) MediaException σ) (streamId : String)
    (config : MediaConfig) (dtmfMap : Int → Option String) (requests : List VoiceVARequest)
    (state : σ) :
    let events := dispatched ((requestReader streamId config dtmfMap requests).trace handler state)
    (∀ first ∈ events.head?, first.event.isSessionStart = true) ∧
    (∀ before dispatch after, events = before ++ dispatch :: after →
      (dispatch.event.isInput = true →
        latestStart before.reverse = some (dispatch.session, dispatch.turn)) ∧
      (dispatch.event.isSessionEnd = true → after = [])) ∧
    (∀ dispatch ∈ events, dispatch.event ≠ .dtmfInput "") ∧
    (config.verifyTokens = true → (∃ e, (handler .verifyContext state).1 = .error e) →
      events = []) := by
  intro events
  have hfollows {before after : List (Dispatch Session Turn)} {dispatch : Dispatch Session Turn}
      (h : events = before ++ dispatch :: after) : MayFollow before.reverse dispatch :=
    mayFollow_of_dispatched handler streamId config dtmfMap requests state h
  refine ⟨fun first hfirst => ?_, fun before dispatch after h => ⟨fun hinput => ?_, fun hend => ?_⟩,
    fun dispatch hmem hdigits => ?_, fun hverify hfails => ?_⟩
  · have hsplit : ∃ rest, events = [] ++ first :: rest := by
      cases hevents : events with
      | nil =>
          rw [hevents] at hfirst
          cases hfirst
      | cons head rest =>
          rw [hevents] at hfirst
          cases hfirst
          exact ⟨rest, rfl⟩
    obtain ⟨rest, hsplit⟩ := hsplit
    exact (hfollows hsplit).isSessionStart_of_first
  · exact (hfollows h).latestStart_of_isInput hinput
  · cases after with
    | nil => rfl
    | cons next after =>
        have hnext : MayFollow (before ++ [dispatch]).reverse next :=
          hfollows (by rw [h, List.append_assoc, List.singleton_append])
        have hnone := hnext.1 dispatch (by simp)
        rw [hend] at hnone
        cases hnone
  · obtain ⟨before, after, hsplit⟩ := List.append_of_mem hmem
    exact (hfollows hsplit).digits_ne_empty hdigits rfl
  · obtain ⟨e, hfails⟩ := hfails
    exact not_dispatched_of_unverified handler streamId dtmfMap requests hverify hfails

end ByodsServer
