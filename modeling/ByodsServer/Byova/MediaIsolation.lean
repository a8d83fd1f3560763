/-
# Whose session the media of a caller reach

The store hands out sessions of the conversation that it is asked for. Input and an
end are dispatched with the session of the latest start, under whatever conversation
id is in force by then, so they reach the right conversation exactly when the stream
has not changed its id since that start.
-/

import ByodsServer.Byova.MediaTraces
import ByodsServer.Byova.ObligingSdk

namespace ByodsServer

open Effects

variable {Session Turn : Type}

/-- The sessions that the store hands out are of the conversation that it is asked for. -/
def HandsOutOwn {σ : Type} (conversationOf : Session → String)
    (handler : Handler (mediaCalls Session Turn) MediaException σ) : Prop :=
  ∀ conversationId metadata state session,
    (handler (.getOrCreate conversationId metadata) state).1 = .ok session →
      conversationOf session = conversationId

section Isolation

variable (conversationOf : Session → String) (streamId : String) (config : MediaConfig)
  (dtmfMap : Int → Option String) (requests : List VoiceVARequest)

/-- Whatever the SDK answers, what is dispatched after a start goes to a session of the
conversation id in force. -/
def MediaStaysInConversation (Turn : Type) : Prop :=
  ∀ (σ : Type) (handler : Handler (mediaCalls Session Turn) MediaException σ) (state : σ),
    HandsOutOwn conversationOf handler →
    ∀ before name event session turn reply after,
      (requestReader streamId config dtmfMap requests).trace handler state =
        before ++ ⟨.dispatchEvent name event session turn, reply⟩ :: after →
      event.isSessionStart = false →
      conversationOf session = (accountOf before.reverse).conversationId

/-- Before the end, a request with something for a session carries, or inherits, the id
of the latest start. -/
def AddressesLatestStart : Prop :=
  ∀ before request after, requests = before ++ request :: after →
    (streamProgress before).ended = false →
    request.addressesSession dtmfMap = true →
    request.conversationIdOr (streamProgress before).conversationId ≠ "" →
    ∀ started ∈ (streamProgress before).started,
      request.conversationIdOr (streamProgress before).conversationId = started

variable {conversationOf streamId config dtmfMap requests}

/-- The latest session was answered to a call. -/
theorem mem_of_latestSession {history : MediaHistory Session Turn} {conversationId : String}
    {session : Session}
    (h : (accountOf history).latestSession = some (conversationId, session)) :
    ∃ metadata, ⟨.getOrCreate conversationId metadata, .ok session⟩ ∈ history := by
  induction history with
  | nil => cases h
  | cons answered history ih =>
      have hearlier (h : (accountOf history).latestSession = some (conversationId, session)) :
          ∃ metadata, ⟨.getOrCreate conversationId metadata, .ok session⟩ ∈
            answered :: history := by
        obtain ⟨metadata, hmem⟩ := ih h
        exact ⟨metadata, List.mem_cons_of_mem _ hmem⟩
      obtain ⟨request, reply⟩ := answered
      rw [accountOf] at h
      cases request with
      | verifyContext => cases reply <;> exact hearlier h
      | anext request => cases request <;> cases reply <;> exact hearlier h
      | getOrCreate asked metadata =>
          cases reply with
          | ok created =>
              cases h
              exact ⟨metadata, List.mem_cons_self⟩
          | error e => exact hearlier h
      | _ => exact hearlier h

theorem Allowed.addressed {account : MediaAccount Session Turn} {name : String}
    {event : MediaEvent} {session : Session} {turn : Turn}
    (h : Allowed streamId dtmfMap requests account (.dispatchEvent name event session turn))
    (hevent : event.isSessionStart = false) : Addressed dtmfMap requests account session := by
  cases event with
  | sessionStart conversationId metadata => cases hevent
  | _ => exact h.2.2

theorem staysInConversation_of_addressesLatestStart
    (h : AddressesLatestStart dtmfMap requests) :
    MediaStaysInConversation conversationOf streamId config dtmfMap requests Turn := by
  intro σ handler state hown before name event session turn reply after htrace hevent
  obtain ⟨done, request, ⟨rest, hread⟩, hended, haddresses, hid, hne, started, hstarted,
    hlatest⟩ := (allowed_of_trace htrace).addressed hevent
  have hsame : request.conversationIdOr (streamProgress done).conversationId = started := by
    refine h done request rest ?_ hended haddresses ?_ started hstarted
    · rw [← hread, List.append_assoc, List.singleton_append]
    · rw [hid]
      exact hne
  obtain ⟨metadata, hmem⟩ := mem_of_latestSession hlatest
  have hanswer : ⟨.getOrCreate started metadata, .ok session⟩ ∈
      (requestReader streamId config dtmfMap requests).trace handler state := by
    rw [htrace]
    exact List.mem_append_left _ (List.mem_reverse.mp hmem)
  obtain ⟨reached, hreply⟩ := Program.answer_of_mem_trace hanswer
  rw [← hid, hsame]
  exact hown started metadata reached session hreply.symm

section Obliged

variable {created : String → Session} {turn : Turn}

/-- Something other than a start is dispatched with a session, under a conversation id. -/
def GivenTo (created : String → Session) (turn : Turn) (session : Session)
    (conversationId : String) (history : MediaHistory Session Turn)
    (p : MediaProgram Session Turn Unit) : Prop :=
  ∃ later name event ofSession earlier,
    obliged created turn p history =
      later ++ ⟨.dispatchEvent name event session ofSession, .ok ()⟩ :: earlier ∧
    event.isSessionStart = false ∧ (accountOf earlier).conversationId = conversationId

variable {request : VoiceVARequest} {locals : ReaderLocals Session Turn} {session : Session}
  {ofSession : Turn} {conversationId : String} {history : MediaHistory Session Turn}

theorem dispatch_givenTo (name : String) {event : MediaEvent}
    (hevent : event.isSessionStart = false)
    (hforce : (accountOf history).conversationId = conversationId)
    {next : Unit → MediaProgram Session Turn Unit} :
    GivenTo created turn session conversationId history
      (attempt streamId locals (.dispatchEvent name event session ofSession) next) :=
  ⟨_, name, event, ofSession, history, obliged_eq (next ()) _, hevent, hforce⟩

theorem GivenTo.attempt {call : MediaCall Session Turn} {reply : call.Reply}
    {next : call.Reply → MediaProgram Session Turn Unit}
    (hreply : oblige created turn call = .ok reply)
    (h : GivenTo created turn session conversationId (⟨call, .ok reply⟩ :: history)
      (next reply)) :
    GivenTo created turn session conversationId history
      (attempt streamId locals call next) := by
  rw [GivenTo, obliged_attempt hreply]
  exact h

/-- What a request has for a session is given to the local one. -/
theorem onRequest_givenTo {next : ReaderLocals Session Turn → MediaProgram Session Turn Unit}
    (haddresses : request.addressesSession dtmfMap = true)
    (hforce : (accountOf history).conversationId = conversationId)
    (hsession : locals.session = some session) (hturn : locals.turn = some ofSession) :
    GivenTo created turn session conversationId history
      (onRequest streamId config dtmfMap request locals next) := by
  rw [VoiceVARequest.addressesSession] at haddresses
  rw [onRequest]
  cases hevent : request.eventInput with
  | some event =>
      rw [hevent] at haddresses
      have hend : event.eventType = .sessionEnd := of_decide_eq_true haddresses
      dsimp only
      rw [hend]
      dsimp only
      rw [onSessionEnd, hsession, hturn]
      exact dispatch_givenTo "session_end" rfl hforce
  | none =>
      rw [hevent] at haddresses
      dsimp only
      rw [hsession, hturn]
      dsimp only
      cases haudio : request.audioInput with
      | some audio =>
          refine GivenTo.attempt rfl (GivenTo.attempt rfl (dispatch_givenTo "audio_input" ?_ ?_))
          · rfl
          · exact hforce
      | none =>
          rw [haudio] at haddresses
          cases hdtmf : request.dtmfInput with
          | some dtmf =>
              have hdigits : dtmf.digits dtmfMap ≠ "" := by simpa [hdtmf] using haddresses
              dsimp only
              rw [onDtmfInput, if_pos hdigits]
              exact dispatch_givenTo "dtmf_input" rfl hforce
          | none => simp [hdtmf] at haddresses

/-- What a request under an id in force has for the session of the latest start is given
to that session, whatever conversation it is of. -/
theorem ReadUpTo.givenTo {done rest : List VoiceVARequest} {started : String}
    (h : ReadUpTo created turn done locals history)
    (haddresses : request.addressesSession dtmfMap = true)
    (hne : request.conversationIdOr (streamProgress done).conversationId ≠ "")
    (hstarted : (streamProgress done).started = some started) :
    GivenTo created turn (created started)
      (request.conversationIdOr (streamProgress done).conversationId) history
      (readRequests streamId config dtmfMap (request :: rest) locals) := by
  have hsession := h.session
  have hturn := h.turn
  rw [hstarted] at hsession hturn
  rw [← h.conversationId] at hne ⊢
  have hgiven : GivenTo created turn (created started)
      (request.conversationIdOr locals.conversationId)
      (⟨.registerStream (request.conversationIdOr locals.conversationId) streamId, .ok ()⟩ ::
        ⟨.anext (some request), .ok ()⟩ :: history)
      (onRequest streamId config dtmfMap request
        { locals with conversationId := request.conversationIdOr locals.conversationId }
        (readRequests streamId config dtmfMap rest)) := by
    refine onRequest_givenTo haddresses ?_ hsession hturn
    rw [h.conversationId, ← h.inForce]
    rfl
  rw [GivenTo, obliged_readRequests_cons hne]
  exact hgiven

theorem addressesLatestStart_of_staysInConversation [Nonempty Turn]
    (hcreated : ∀ conversationId, conversationOf (created conversationId) = conversationId)
    (h : MediaStaysInConversation conversationOf streamId config dtmfMap requests Turn) :
    AddressesLatestStart dtmfMap requests := by
  obtain ⟨turn⟩ := ‹Nonempty Turn›
  intro before request after hrequests hended haddresses hne started hstarted
  obtain ⟨locals, history, hread, hreader⟩ := exists_readUpTo created turn streamId config
    dtmfMap before (request :: after) hended
  have hgiven : GivenTo created turn (created started) _ history
      (readRequests streamId config dtmfMap (request :: after) locals) :=
    hread.givenTo haddresses hne hstarted
  obtain ⟨later, name, event, ofSession, earlier, hdispatch, hevent, hforce⟩ := hgiven
  have htrace : (requestReader streamId config dtmfMap requests).trace
      (recording (oblige created turn)) [] = earlier.reverse ++
        ⟨.dispatchEvent name event (created started) ofSession, .ok ()⟩ :: later.reverse := by
    have hhistory : obliged created turn (requestReader streamId config dtmfMap requests) [] = _ :=
      obliged_eq _ _
    rw [hrequests, hreader, hdispatch, List.append_nil, ← hrequests] at hhistory
    rw [← List.reverse_reverse (Program.trace _ _ _), ← hhistory]
    simp
  have hown : HandsOutOwn conversationOf
      (recording (oblige created turn) : Handler (mediaCalls Session Turn) MediaException _) := by
    intro conversationId metadata state session hanswer
    cases hanswer
    exact hcreated conversationId
  have hreached := h _ _ [] hown _ _ _ _ _ _ _ htrace hevent
  rw [hcreated, List.reverse_reverse, hforce] at hreached
  exact hreached.symm

end Obliged

/-- What is dispatched after a start stays in its conversation exactly when, before the
end, every request with something for a session carries or inherits the id of the
latest start. -/
theorem media_staysInConversation_iff [Nonempty Turn] (conversationOf : Session → String)
    (hsessions : ∀ conversationId, ∃ session, conversationOf session = conversationId)
    (streamId : String) (config : MediaConfig) (dtmfMap : Int → Option String)
    (requests : List VoiceVARequest) :
    MediaStaysInConversation conversationOf streamId config dtmfMap requests Turn ↔
      AddressesLatestStart dtmfMap requests := by
  choose created hcreated using hsessions
  exact ⟨addressesLatestStart_of_staysInConversation hcreated,
    staysInConversation_of_addressesLatestStart⟩

/-- Audio without an id of its own after a start. -/
theorem media_staysInConversation_iff_inherited :
    MediaStaysInConversation (fun session : String => session) "stream" ⟨true, 8000⟩ (fun _ => none)
      [⟨"a", "", "", some ⟨.sessionStart, []⟩, none, none⟩,
        ⟨"", "", "", none, some ⟨[], 8000⟩, none⟩] Unit := by
  refine (media_staysInConversation_iff _ (fun conversationId => ⟨conversationId, rfl⟩) _ _ _
    _).mpr ?_
  rintro (_ | ⟨first, _ | ⟨second, rest⟩⟩) request after hrequests hended haddresses hne started
    hstarted
  · cases hstarted
  · cases hrequests
    cases hstarted
    rfl
  · simp at hrequests

/-- A session is started under one id, and audio comes under another: it reaches the
session of the first. -/
theorem audio_reaches_other_conversation :
    ¬ MediaStaysInConversation (fun session : String => session) "stream" ⟨true, 8000⟩
      (fun _ => none) switchingStream Unit := by
  intro h
  have haddresses := addressesLatestStart_of_staysInConversation (fun _ => rfl) h
  have hsame : "b" = "a" := haddresses [_] _ [] rfl rfl rfl (by decide) "a" rfl
  exact absurd hsame (by decide)

end Isolation

end ByodsServer
