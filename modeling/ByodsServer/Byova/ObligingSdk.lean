/-
# The reader on an SDK that never fails

When every call succeeds and the store hands out one session for each conversation,
the requests alone decide what the reader does. This is how the reader is shown to
do wrong on a stream: no failure and no odd answer is needed for it.
-/

import ByodsServer.Byova.MediaProtocol

namespace ByodsServer

open Effects

variable {Session Turn : Type}

/-- Every call succeeds; `created` are the sessions of the conversations. -/
def oblige (created : String → Session) (turn : Turn) :
    (request : MediaCall Session Turn) → Except MediaException request.Reply
  | .getOrCreate conversationId _ => .ok (created conversationId)
  | .turnCount _ => .ok (0 : Int)
  | .turnContext _ _ => .ok turn
  | .verifyContext | .anext _ | .registerStream _ _ | .bindTurn _ _ | .startTurn _ _
  | .dispatchEvent _ _ _ _ | .releaseSession _ | .cancelNoInputTimer _ | .onInboundAudio _ _ _
  | .resolveInput _ _ | .setCode _ | .setDetails _ | .handleHandlerError _ _ _
  | .unregisterStream _ _ | .putNone => .ok ()

section Obliged

variable (created : String → Session) (turn : Turn)

/-- The history in which a program ends. -/
def obliged (p : MediaProgram Session Turn Unit) (history : MediaHistory Session Turn) :
    MediaHistory Session Turn :=
  (p.exec (recording (oblige created turn)) history).2

theorem obliged_attempt {created : String → Session} {turn : Turn} {streamId : String}
    {locals : ReaderLocals Session Turn} {history : MediaHistory Session Turn}
    {call : MediaCall Session Turn} {reply : call.Reply}
    {next : call.Reply → MediaProgram Session Turn Unit}
    (hreply : oblige created turn call = .ok reply) :
    obliged created turn (attempt streamId locals call next) history =
      obliged created turn (next reply) (⟨call, .ok reply⟩ :: history) :=
  congrArg Prod.snd (Program.exec_recording_call (S := mediaCalls Session Turn) hreply _ history)

/-- What handling a request does to the local variables and the history: a start
gives them the session of its conversation, anything else leaves them. -/
structure Handled (request : VoiceVARequest)
    (locals locals' : ReaderLocals Session Turn) (history history' : MediaHistory Session Turn) :
    Prop where
  conversationId : locals'.conversationId = locals.conversationId
  session : locals'.session =
    if request.startsSession then some (created locals.conversationId) else locals.session
  turn : locals'.turn = if request.startsSession then some turn else locals.turn
  inForce : (accountOf history').conversationId = (accountOf history).conversationId
  registrations : (accountOf history').registrations = (accountOf history).registrations

variable {created turn} {streamId : String} {config : MediaConfig}
  {dtmfMap : Int → Option String} {request : VoiceVARequest}
  {locals : ReaderLocals Session Turn} {history : MediaHistory Session Turn}
  {next : ReaderLocals Session Turn → MediaProgram Session Turn Unit}

theorem Handled.refl (h : request.startsSession = false) :
    Handled created turn request locals locals history history :=
  ⟨rfl, by simp [h], by simp [h], rfl, rfl⟩

/-- The request is handled, and the reader goes on. -/
def GoesOn (created : String → Session) (turn : Turn) (request : VoiceVARequest)
    (locals : ReaderLocals Session Turn) (history : MediaHistory Session Turn)
    (next : ReaderLocals Session Turn → MediaProgram Session Turn Unit)
    (p : MediaProgram Session Turn Unit) : Prop :=
  ∃ locals' history', Handled created turn request locals locals' history history' ∧
    obliged created turn p history = obliged created turn (next locals') history'

theorem onSessionStart_goesOn {event : EventInput} (hstart : request.startsSession = true) :
    GoesOn created turn request locals history next
      (onSessionStart streamId request event locals next) := by
  refine ⟨_, _, ?_, rfl⟩
  exact ⟨rfl, by simp [hstart], by simp [hstart], rfl, rfl⟩

theorem onNoInput_goesOn (hstart : request.startsSession = false) :
    GoesOn created turn request locals history next (onNoInput streamId locals next) := by
  rw [onNoInput]
  split
  · refine ⟨_, _, ?_, rfl⟩
    exact ⟨rfl, by simp [hstart], by simp [hstart], rfl, rfl⟩
  · exact ⟨_, _, Handled.refl hstart, rfl⟩

theorem onAudioInput_goesOn {audio : AudioInput} {session : Session} {turn' : Turn}
    (hstart : request.startsSession = false) :
    GoesOn created turn request locals history next
      (onAudioInput streamId config audio session turn' locals next) := by
  refine ⟨_, _, ?_, rfl⟩
  exact ⟨rfl, by simp [hstart], by simp [hstart], rfl, rfl⟩

theorem onDtmfInput_goesOn {dtmf : DtmfInput} {session : Session} {turn' : Turn}
    (hstart : request.startsSession = false) :
    GoesOn created turn request locals history next
      (onDtmfInput streamId dtmfMap dtmf session turn' locals next) := by
  rw [onDtmfInput]
  split
  · refine ⟨_, _, ?_, rfl⟩
    exact ⟨rfl, by simp [hstart], by simp [hstart], rfl, rfl⟩
  · exact ⟨_, _, Handled.refl hstart, rfl⟩

/-- A request that does not end the session is handled, and the reader goes on. -/
theorem onRequest_goesOn (hend : request.endsSession = false) :
    GoesOn created turn request locals history next
      (onRequest streamId config dtmfMap request locals next) := by
  rw [onRequest]
  cases hevent : request.eventInput with
  | some event =>
      have hstarts : request.startsSession = decide (event.eventType = .sessionStart) := by
        rw [VoiceVARequest.startsSession, hevent]
        rfl
      dsimp only
      cases htype : event.eventType with
      | sessionStart =>
          exact onSessionStart_goesOn (by simp [hstarts, htype])
      | sessionEnd =>
          rw [VoiceVARequest.endsSession, hevent] at hend
          simp [htype] at hend
      | noInput =>
          exact onNoInput_goesOn (by simp [hstarts, htype])
      | other value =>
          exact ⟨_, _, Handled.refl (by simp [hstarts, htype]), rfl⟩
  | none =>
      have hstart : request.startsSession = false := by
        rw [VoiceVARequest.startsSession, hevent]
        rfl
      dsimp only
      split
      · split
        · exact onAudioInput_goesOn hstart
        · exact onDtmfInput_goesOn hstart
        · exact ⟨_, _, Handled.refl hstart, rfl⟩
      · exact ⟨_, _, Handled.refl hstart, rfl⟩

/-- With an SDK that never fails, the local variables and the registrations are what
the requests read so far say. -/
structure ReadUpTo (created : String → Session) (turn : Turn) (done : List VoiceVARequest)
    (locals : ReaderLocals Session Turn) (history : MediaHistory Session Turn) : Prop where
  conversationId : locals.conversationId = (streamProgress done).conversationId
  session : locals.session = (streamProgress done).started.map created
  turn : locals.turn = (streamProgress done).started.map fun _ => turn
  inForce : (accountOf history).conversationId = (streamProgress done).conversationId
  registered : ∀ before, before <+: done → (streamProgress before).conversationId ≠ "" →
    (streamProgress before).conversationId ∈ (accountOf history).registrations

/-- What a request under an id in force says, when it does not end the session. -/
theorem StreamProgress.step_of_not_ends {progress : StreamProgress}
    (hended : progress.ended = false)
    (hid : request.conversationIdOr progress.conversationId ≠ "")
    (hends : request.endsSession = false) :
    progress.step request = ⟨request.conversationIdOr progress.conversationId,
      if request.startsSession then some (request.conversationIdOr progress.conversationId)
      else progress.started, false⟩ := by
  rw [step_of_id hended hid, VoiceVARequest.startsSession]
  rw [VoiceVARequest.endsSession] at hends
  cases hevent : request.eventInput with
  | none => simp [hended]
  | some event =>
      rw [hevent] at hends
      cases htype : event.eventType with
      | sessionStart => simp [htype]
      | sessionEnd => simp [htype] at hends
      | noInput => simp [htype, hended]
      | other value => simp [htype, hended]

theorem StreamProgress.ended_of_ends {progress : StreamProgress}
    (hid : request.conversationIdOr progress.conversationId ≠ "")
    (hends : request.endsSession = true) : (progress.step request).ended = true := by
  by_cases hended : progress.ended = true
  · rw [step_of_ended hended, hended]
  · rw [step_of_id (by simpa using hended) hid]
    obtain ⟨event, hevent, htype⟩ := (Option.any_eq_true _ _).mp hends
    simp [hevent, of_decide_eq_true htype]

/-- A request under an id in force is registered for and handled. -/
theorem obliged_readRequests_cons {rest : List VoiceVARequest}
    (hne : request.conversationIdOr locals.conversationId ≠ "") :
    obliged created turn (readRequests streamId config dtmfMap (request :: rest) locals) history =
      obliged created turn
        (onRequest streamId config dtmfMap request
          { locals with conversationId := request.conversationIdOr locals.conversationId }
          (readRequests streamId config dtmfMap rest))
        (⟨.registerStream (request.conversationIdOr locals.conversationId) streamId, .ok ()⟩ ::
          ⟨.anext (some request), .ok ()⟩ :: history) := by
  rw [readRequests]
  show obliged created turn (if _ = "" then _ else _) _ = _
  rw [if_neg hne]
  rfl

theorem not_ended_of_concat {done : List VoiceVARequest}
    (h : (streamProgress (done ++ [request])).ended = false) :
    (streamProgress done).ended = false := by
  rw [streamProgress_concat] at h
  by_contra hdone
  rw [StreamProgress.step_of_ended (by simpa using hdone)] at h
  exact hdone h

/-- A request without an id in force is passed over. -/
theorem ReadUpTo.passesOver {done rest : List VoiceVARequest}
    (h : ReadUpTo created turn done locals history)
    (hempty : request.conversationIdOr locals.conversationId = "") :
    ∃ locals' history', ReadUpTo created turn (done ++ [request]) locals' history' ∧
      obliged created turn (readRequests streamId config dtmfMap (request :: rest) locals) history =
        obliged created turn (readRequests streamId config dtmfMap rest locals') history' := by
  have hlocal := VoiceVARequest.eq_empty_of_conversationIdOr hempty
  have hsame : streamProgress (done ++ [request]) = streamProgress done := by
    rw [streamProgress_concat]
    exact StreamProgress.step_of_empty (by rw [← h.conversationId]; exact hempty)
  refine ⟨{ locals with conversationId := request.conversationIdOr locals.conversationId },
    ⟨.anext (some request), .ok ()⟩ :: history, ⟨?_, ?_, ?_, ?_, ?_⟩, ?_⟩
  · rw [hsame, ← h.conversationId, hempty, hlocal]
  · rw [hsame]
    exact h.session
  · rw [hsame]
    exact h.turn
  · show request.conversationIdOr (accountOf history).conversationId = _
    rw [hsame, h.inForce, ← h.conversationId, hempty, hlocal]
  · intro before hbefore hne
    rcases List.prefix_concat_iff.mp hbefore with rfl | hbefore
    · rw [hsame, ← h.conversationId, hlocal] at hne
      exact (hne rfl).elim
    · exact h.registered before hbefore hne
  · rw [readRequests]
    show obliged created turn (if _ = "" then _ else _) _ = _
    rw [if_pos hempty]
    rfl

/-- A request under an id in force that does not end the session is handled. -/
theorem ReadUpTo.handles {done rest : List VoiceVARequest}
    (h : ReadUpTo created turn done locals history)
    (hdone : (streamProgress done).ended = false)
    (hne : request.conversationIdOr locals.conversationId ≠ "")
    (hends : request.endsSession = false) :
    ∃ locals' history', ReadUpTo created turn (done ++ [request]) locals' history' ∧
      obliged created turn (readRequests streamId config dtmfMap (request :: rest) locals) history =
        obliged created turn (readRequests streamId config dtmfMap rest locals') history' := by
  have hprogress := (streamProgress_concat done request).trans
    (StreamProgress.step_of_not_ends hdone (by rwa [← h.conversationId]) hends)
  have hgoes : GoesOn created turn request
      { locals with conversationId := request.conversationIdOr locals.conversationId }
      (⟨.registerStream (request.conversationIdOr locals.conversationId) streamId, .ok ()⟩ ::
        ⟨.anext (some request), .ok ()⟩ :: history)
      (readRequests streamId config dtmfMap rest)
      (onRequest streamId config dtmfMap request
        { locals with conversationId := request.conversationIdOr locals.conversationId }
        (readRequests streamId config dtmfMap rest)) := onRequest_goesOn hends
  obtain ⟨locals', history', hhandled, hgoes⟩ := hgoes
  have hregistrations := hhandled.registrations
  refine ⟨locals', history', ⟨?_, ?_, ?_, ?_, ?_⟩, ?_⟩
  · rw [hhandled.conversationId, hprogress, h.conversationId]
  · rw [hhandled.session, hprogress, h.session, h.conversationId]
    split <;> rfl
  · rw [hhandled.turn, hprogress, h.turn]
    split <;> rfl
  · rw [hhandled.inForce, hprogress, ← h.inForce]
    rfl
  · intro before hbefore hid
    rw [hregistrations]
    rcases List.prefix_concat_iff.mp hbefore with rfl | hbefore
    · rw [hprogress, ← h.conversationId]
      exact List.mem_cons_self
    · exact List.mem_cons_of_mem _ (h.registered before hbefore hid)
  · rw [obliged_readRequests_cons hne, hgoes]

/-- A request that is not the end is read, and the reader goes on to the next one. -/
theorem ReadUpTo.goesOn {done rest : List VoiceVARequest}
    (h : ReadUpTo created turn done locals history)
    (hended : (streamProgress (done ++ [request])).ended = false) :
    ∃ locals' history', ReadUpTo created turn (done ++ [request]) locals' history' ∧
      obliged created turn (readRequests streamId config dtmfMap (request :: rest) locals) history =
        obliged created turn (readRequests streamId config dtmfMap rest locals') history' := by
  by_cases hempty : request.conversationIdOr locals.conversationId = ""
  · exact h.passesOver hempty
  · refine h.handles (not_ended_of_concat hended) hempty ?_
    by_contra hends
    have hid : request.conversationIdOr (streamProgress done).conversationId ≠ "" := by
      rwa [← h.conversationId]
    rw [streamProgress_concat, StreamProgress.ended_of_ends hid (by simpa using hends)] at hended
    cases hended

/-- Until the end is read, the reader goes on. -/
theorem exists_readUpTo (created : String → Session) (turn : Turn) (streamId : String)
    (config : MediaConfig) (dtmfMap : Int → Option String) (done rest : List VoiceVARequest)
    (h : (streamProgress done).ended = false) :
    ∃ locals history, ReadUpTo created turn done locals history ∧
      obliged created turn (requestReader streamId config dtmfMap (done ++ rest)) [] =
        obliged created turn (readRequests streamId config dtmfMap rest locals) history := by
  induction done using List.reverseRecOn generalizing rest with
  | nil =>
      have hstart (history : MediaHistory Session Turn)
          (hid : (accountOf history).conversationId = "") :
          ReadUpTo created turn [] {} history :=
        ⟨rfl, rfl, rfl, hid, fun before hbefore hne => by
          rw [List.prefix_nil.mp hbefore] at hne
          exact (hne rfl).elim⟩
      rw [requestReader]
      split
      · exact ⟨{}, [⟨.verifyContext, .ok ()⟩], hstart _ rfl, rfl⟩
      · exact ⟨{}, [], hstart _ rfl, rfl⟩
  | append_singleton done request ih =>
      have hdone := not_ended_of_concat h
      obtain ⟨locals, history, hread, hsame⟩ := ih (request :: rest) hdone
      obtain ⟨locals', history', hread', hgoes⟩ := hread.goesOn h
      refine ⟨locals', history', hread', ?_⟩
      rw [List.append_assoc, List.singleton_append, hsame, hgoes]

/-- A program ends in a history that begins as its run began. -/
theorem obliged_eq (p : MediaProgram Session Turn Unit) (history : MediaHistory Session Turn) :
    obliged created turn p history =
      (p.trace (recording (oblige created turn)) history).reverse ++ history :=
  Program.exec_recording (S := mediaCalls Session Turn) (oblige created turn) p history

end Obliged

/-- Such an SDK with one session and one turn. -/
def obligingSdk : Handler (mediaCalls Unit Unit) MediaException Unit :=
  fun request state => (oblige (fun _ => ()) () request, state)

theorem obligingSdk_answers {p : MediaProgram Unit Unit Unit} {state : Unit}
    {answered : Answered (mediaCalls Unit Unit) MediaException}
    (h : answered ∈ p.trace obligingSdk state) : ∃ reply, answered.2 = .ok reply := by
  obtain ⟨reached, hanswer⟩ := Program.answer_of_mem_trace h
  rw [hanswer]
  obtain ⟨request, reply⟩ := answered
  cases request <;> exact ⟨_, rfl⟩

/-- A stream that starts a session under one conversation id and goes on under another. -/
def switchingStream : List VoiceVARequest := [
  ⟨"a", "", "", some ⟨.sessionStart, []⟩, none, none⟩,
  ⟨"b", "", "", none, some ⟨[], 8000⟩, none⟩]

end ByodsServer
