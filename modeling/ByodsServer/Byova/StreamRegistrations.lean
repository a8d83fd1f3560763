/-
# The registrations that a stream leaves behind

The reader registers its stream under whatever id is in force and, at the end,
unregisters it under the last one. Nothing is left behind exactly when no other id
came into force before.
-/

import ByodsServer.Byova.ObligingSdk

namespace ByodsServer

open Effects

variable {Session Turn : Type}

/-- What is relied on of the store, for the conversations that are registered to a
stream: only registering adds one, and unregistering removes it without fail. -/
structure StoreKeeps {σ : Type} (handler : Handler (mediaCalls Session Turn) MediaException σ)
    (streamId : String) (registered : σ → String → Prop) : Prop where
  register : ∀ conversationId state,
    (handler (.registerStream conversationId streamId) state).1 = .ok () →
      registered (handler (.registerStream conversationId streamId) state).2 conversationId
  register_only : ∀ conversationId state other,
    registered (handler (.registerStream conversationId streamId) state).2 other →
      registered state other ∨ other = conversationId
  unregister : ∀ conversationId state,
    (handler (.unregisterStream conversationId streamId) state).1 = .ok () ∧
      ∀ other, registered (handler (.unregisterStream conversationId streamId) state).2 other ↔
        registered state other ∧ other ≠ conversationId
  others : ∀ call state other, (∀ conversationId ofStream,
    call ≠ .registerStream conversationId ofStream) →
    registered (handler call state).2 other → registered state other

section Registrations

variable (Session Turn) (streamId : String) (config : MediaConfig)
  (dtmfMap : Int → Option String) (requests : List VoiceVARequest)

/-- Whatever the SDK answers, a stream that was not registered is not when it has ended. -/
def LeavesNoRegistration : Prop :=
  ∀ (σ : Type) (handler : Handler (mediaCalls Session Turn) MediaException σ)
    (registered : σ → String → Prop) (state : σ), StoreKeeps handler streamId registered →
    (∀ conversationId, ¬ registered state conversationId) →
    ∀ conversationId, ¬ registered
      ((requestReader streamId config dtmfMap requests).exec handler state).2 conversationId

/-- Every conversation id that comes into force before the end is the same. -/
def KeepsConversationId : Prop :=
  ∀ conversationId other, ComesIntoForce requests conversationId →
    ComesIntoForce requests other → conversationId = other

end Registrations

section Registrations

variable {streamId : String} {config : MediaConfig} {dtmfMap : Int → Option String}
  {requests : List VoiceVARequest}

/-- What the store has registered is in the account. -/
theorem StoreKeeps.registrations_step {σ : Type}
    {handler : Handler (mediaCalls Session Turn) MediaException σ} {registered : σ → String → Prop}
    (hstore : StoreKeeps handler streamId registered) (history : MediaHistory Session Turn)
    (call : MediaCall Session Turn) (state : σ)
    (hallowed : Allowed streamId dtmfMap requests (accountOf history) call)
    (h : ∀ other, registered state other → other ∈ (accountOf history).registrations) :
    ∀ other, registered (handler call state).2 other →
      other ∈ (accountOf (⟨call, (handler call state).1⟩ :: history)).registrations := by
  intro other hother
  have hkept (hcall : ∀ conversationId ofStream, call ≠ .registerStream conversationId ofStream) :
      other ∈ (accountOf history).registrations :=
    h other (hstore.others call state other hcall hother)
  rw [accountOf]
  generalize (handler call state).1 = reply
  cases call with
  | registerStream conversationId ofStream =>
      obtain ⟨-, rfl⟩ := hallowed
      rcases hstore.register_only conversationId state other hother with hbefore | rfl
      · exact List.mem_cons_of_mem _ (h other hbefore)
      · exact List.mem_cons_self
  | unregisterStream conversationId ofStream =>
      obtain ⟨-, rfl⟩ := hallowed
      obtain ⟨hbefore, hne⟩ := ((hstore.unregister conversationId state).2 other).mp hother
      exact List.mem_filter.mpr ⟨h other hbefore, by simpa using hne⟩
  | verifyContext => cases reply <;> exact hkept (by simp)
  | anext request => cases request <;> cases reply <;> exact hkept (by simp)
  | getOrCreate conversationId metadata => cases reply <;> exact hkept (by simp)
  | _ => exact hkept (by simp)

theorem leavesNoRegistration_of_keepsConversationId (h : KeepsConversationId requests) :
    LeavesNoRegistration Session Turn streamId config dtmfMap requests := by
  intro σ handler registered state hstore hnone conversationId hregistered
  have hprotocol : KeepsProtocol streamId dtmfMap requests
      (requestReader streamId config dtmfMap requests : MediaProgram Session Turn Unit) [] :=
    requestReader_keepsProtocol streamId config dtmfMap requests
  have haccount : ∀ other,
      registered ((requestReader streamId config dtmfMap requests).exec handler state).2 other →
        other ∈ (accountOf (((requestReader streamId config dtmfMap requests).trace handler
          state).reverse ++ [])).registrations :=
    hprotocol.related_of_trace hstore.registrations_step fun other hother =>
      (hnone other hother).elim
  have hreleased : Released requests (accountOf
      (((requestReader streamId config dtmfMap requests).trace handler state).reverse ++ [])) :=
    hprotocol.post_of_trace state
  obtain ⟨hne, hforce, hlast⟩ := hreleased conversationId (haccount conversationId hregistered)
  exact hne (h _ _ hforce hlast)

/-! ## What an obliging store keeps -/

/-- The requests after an end do not count. -/
theorem streamProgress_of_ended {done : List VoiceVARequest} (hdone : done <+: requests)
    (h : (streamProgress done).ended = true) : streamProgress requests = streamProgress done := by
  obtain ⟨rest, rfl⟩ := hdone
  rw [streamProgress, runEvents, List.foldl_append]
  refine runEvents_invariant (P := fun progress => progress = streamProgress done) ?_ rest rfl
  rintro progress request rfl
  exact StreamProgress.step_of_ended h

/-- The request that ends the session. -/
theorem exists_end_of_ended (requests : List VoiceVARequest)
    (h : (streamProgress requests).ended = true) :
    ∃ done request rest, requests = done ++ request :: rest ∧
      (streamProgress done).ended = false ∧ (streamProgress (done ++ [request])).ended = true := by
  induction requests using List.reverseRecOn with
  | nil => cases h
  | append_singleton requests request ih =>
      cases hended : (streamProgress requests).ended with
      | false => exact ⟨requests, request, [], rfl, hended, h⟩
      | true =>
          obtain ⟨done, last, rest, rfl, hdone, hlast⟩ := ih hended
          exact ⟨done, last, rest ++ [request], by simp, hdone, hlast⟩

/-- The reader comes to its `finally` clause with the last id in force, registered for
all of them. -/
structure AtFinally (requests : List VoiceVARequest) (locals : ReaderLocals Session Turn)
    (history : MediaHistory Session Turn) : Prop where
  conversationId : locals.conversationId = (streamProgress requests).conversationId
  registered : ∀ before, before <+: requests → (streamProgress before).conversationId ≠ "" →
    (streamProgress before).conversationId ∈ (accountOf history).registrations

variable {created : String → Session} {turn : Turn}

/-- A request that ends the session leads to the `finally` clause. -/
theorem ReadUpTo.atFinally {done rest : List VoiceVARequest} {request : VoiceVARequest}
    {locals : ReaderLocals Session Turn} {history : MediaHistory Session Turn}
    (h : ReadUpTo created turn done locals history)
    (hdone : (streamProgress done).ended = false)
    (hended : (streamProgress (done ++ [request])).ended = true) :
    ∃ locals' history', AtFinally (done ++ request :: rest) locals' history' ∧
      obliged created turn (readRequests streamId config dtmfMap (request :: rest) locals) history =
        obliged created turn (finallyClause streamId locals' (.ok ())) history' := by
  have hread : done ++ [request] <+: done ++ request :: rest := ⟨rest, by simp⟩
  have hid : request.conversationIdOr (streamProgress done).conversationId ≠ "" := by
    intro hempty
    rw [streamProgress_concat, StreamProgress.step_of_empty hempty, hdone] at hended
    cases hended
  have hends : request.endsSession = true := by
    by_contra hends
    rw [streamProgress_concat,
      StreamProgress.step_of_not_ends hdone hid (by simpa using hends)] at hended
    cases hended
  have hlast : (streamProgress (done ++ [request])).conversationId =
      request.conversationIdOr locals.conversationId := by
    rw [streamProgress_concat, StreamProgress.step_conversationId hdone, h.conversationId]
  have hfinal := streamProgress_of_ended hread hended
  have hregistered (before : List VoiceVARequest) (hbefore : before <+: done ++ request :: rest)
      (hne : (streamProgress before).conversationId ≠ "") :
      (streamProgress before).conversationId ∈
        request.conversationIdOr locals.conversationId :: (accountOf history).registrations := by
    rcases List.prefix_or_prefix_of_prefix hbefore hread with hbefore | hbefore
    · rcases List.prefix_concat_iff.mp hbefore with rfl | hbefore
      · rw [hlast]
        exact List.mem_cons_self
      · exact List.mem_cons_of_mem _ (h.registered before hbefore hne)
    · rw [streamProgress_of_ended hbefore hended, hlast]
      exact List.mem_cons_self
  obtain ⟨event, hevent, htype⟩ := (Option.any_eq_true _ _).mp hends
  have htype : event.eventType = .sessionEnd := of_decide_eq_true htype
  rw [← h.conversationId] at hid
  rw [obliged_readRequests_cons hid, onRequest, hevent]
  dsimp only
  rw [htype]
  dsimp only
  rw [onSessionEnd]
  split
  · refine ⟨_, _, ⟨?_, ?_⟩, rfl⟩
    · rw [hfinal, hlast]
    · exact hregistered
  · refine ⟨_, _, ⟨?_, ?_⟩, rfl⟩
    · rw [hfinal, hlast]
    · exact hregistered

theorem exists_atFinally (created : String → Session) (turn : Turn) (streamId : String)
    (config : MediaConfig) (dtmfMap : Int → Option String) (requests : List VoiceVARequest) :
    ∃ locals history, AtFinally requests locals history ∧
      obliged created turn (requestReader streamId config dtmfMap requests) [] =
        obliged created turn (finallyClause streamId locals (.ok ())) history := by
  cases hended : (streamProgress requests).ended with
  | false =>
      obtain ⟨locals, history, hread, hreader⟩ := exists_readUpTo created turn streamId config
        dtmfMap requests [] hended
      refine ⟨locals, ⟨.anext none, .ok ()⟩ :: history, ⟨hread.conversationId, hread.registered⟩,
        ?_⟩
      rw [← List.append_nil requests, hreader]
      rfl
  | true =>
      obtain ⟨done, request, rest, rfl, hdone, hlast⟩ := exists_end_of_ended requests hended
      obtain ⟨locals, history, hread, hreader⟩ := exists_readUpTo created turn streamId config
        dtmfMap done (request :: rest) hdone
      rw [hreader]
      exact hread.atFinally hdone hlast

theorem mem_registrations_of_finallyClause {locals : ReaderLocals Session Turn}
    {history : MediaHistory Session Turn} {conversationId : String}
    (hmem : conversationId ∈ (accountOf history).registrations)
    (hne : conversationId ≠ locals.conversationId) :
    conversationId ∈ (accountOf (obliged created turn
      (finallyClause streamId locals (.ok ())) history)).registrations := by
  rw [finallyClause]
  split
  · exact List.mem_filter.mpr ⟨hmem, by simpa using hne⟩
  · exact hmem

/-- An obliging store keeps the registrations of its history. -/
theorem oblige_storeKeeps (created : String → Session) (turn : Turn) (streamId : String) :
    StoreKeeps
      (recording (oblige created turn) : Handler (mediaCalls Session Turn) MediaException _)
      streamId
      fun history conversationId => conversationId ∈ (accountOf history).registrations where
  register conversationId history _ := List.mem_cons_self
  register_only conversationId history other hother := (List.mem_cons.mp hother).symm
  unregister conversationId history := by
    refine ⟨rfl, fun other => List.mem_filter.trans ?_⟩
    rw [decide_eq_true_iff]
  others call history other hcall hother := by
    cases call with
    | registerStream conversationId ofStream => exact (hcall conversationId ofStream rfl).elim
    | unregisterStream conversationId ofStream => exact (List.mem_filter.mp hother).1
    | anext request => cases request <;> exact hother
    | _ => exact hother

theorem keepsConversationId_of_leavesNoRegistration [Nonempty Session] [Nonempty Turn]
    (h : LeavesNoRegistration Session Turn streamId config dtmfMap requests) :
    KeepsConversationId requests := by
  obtain ⟨session⟩ := ‹Nonempty Session›
  obtain ⟨turn⟩ := ‹Nonempty Turn›
  obtain ⟨locals, history, hfinally, hreader⟩ := exists_atFinally (fun _ => session) turn streamId
    config dtmfMap requests
  have hnone : ∀ conversationId, conversationId ∉ (accountOf (obliged (fun _ => session) turn
      (requestReader streamId config dtmfMap requests) [])).registrations :=
    h _ _ _ [] (oblige_storeKeeps (fun _ => session) turn streamId) (by simp [accountOf])
  have hlast {conversationId : String} (hforce : ComesIntoForce requests conversationId) :
      conversationId = (streamProgress requests).conversationId := by
    obtain ⟨hne, before, hbefore, rfl⟩ := hforce
    by_contra hother
    rw [← hfinally.conversationId] at hother
    refine hnone (streamProgress before).conversationId ?_
    rw [hreader]
    exact mem_registrations_of_finallyClause (hfinally.registered before hbefore hne) hother
  intro conversationId other hid hother
  rw [hlast hid, hlast hother]

end Registrations

/-- A stream leaves no registration behind exactly when every conversation id that
comes into force before its end is the same. -/
theorem leavesNoRegistration_iff [Nonempty Session] [Nonempty Turn] (streamId : String)
    (config : MediaConfig) (dtmfMap : Int → Option String) (requests : List VoiceVARequest) :
    LeavesNoRegistration Session Turn streamId config dtmfMap requests ↔
      KeepsConversationId requests :=
  ⟨keepsConversationId_of_leavesNoRegistration, leavesNoRegistration_of_keepsConversationId⟩

/-- A stream whose one request is the start. -/
theorem leavesNoRegistration_iff_start :
    LeavesNoRegistration Unit Unit "stream" ⟨true, 8000⟩ (fun _ => none)
      [⟨"a", "", "", some ⟨.sessionStart, []⟩, none, none⟩] := by
  refine (leavesNoRegistration_iff _ _ _ _).mpr ?_
  have hforce {conversationId : String} (h : ComesIntoForce
      [⟨"a", "", "", some ⟨.sessionStart, []⟩, none, none⟩] conversationId) :
      conversationId = "a" := by
    obtain ⟨hne, before, hbefore, rfl⟩ := h
    rcases List.prefix_concat_iff.mp (show before <+: [] ++ [_] from hbefore) with rfl | hbefore
    · rfl
    · rw [List.prefix_nil.mp hbefore] at hne
      exact (hne rfl).elim
  intro conversationId other hid hother
  rw [hforce hid, hforce hother]

/-- The second request is registered for and unregistered, the first is not. -/
theorem first_conversation_stays_registered :
    ¬ LeavesNoRegistration Unit Unit "stream" ⟨true, 8000⟩ (fun _ => none) switchingStream := by
  intro h
  have hsame : "a" = "b" := keepsConversationId_of_leavesNoRegistration h "a" "b"
    ⟨by decide, [_], ⟨[_], rfl⟩, rfl⟩ ⟨by decide, switchingStream, List.prefix_rfl, rfl⟩
  exact absurd hsame (by decide)

end ByodsServer
