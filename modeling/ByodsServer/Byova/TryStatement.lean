/-
# The `try` statement of the reader

Every run of the reader is a row of calls inside its `try` statement and one way out
of it, through the `except` and `finally` clauses. `requestReader_inTry` goes through
the reader once; how a stream ends is read off from there.
-/

import ByodsServer.Byova.MediaProtocol

namespace ByodsServer

open Effects

variable {Session Turn : Type}

/-! ## The id in force -/

/-- The id in force after one more call. -/
def idAfter (conversationId : String) :
    Answered (mediaCalls Session Turn) MediaException → String
  | ⟨.anext (some request), .ok _⟩ => request.conversationIdOr conversationId
  | _ => conversationId

/-- The id in force after some calls. -/
def idInForce (calls : List (Answered (mediaCalls Session Turn) MediaException)) : String :=
  calls.foldl idAfter ""

/-! ## The two parts of a run -/

/-- The calls of the `except` and `finally` clauses. -/
def IsExitCall : MediaCall Session Turn → Prop
  | .setCode _ | .setDetails _ | .handleHandlerError _ _ _ | .unregisterStream _ _ | .putNone =>
      True
  | _ => False

/-- The calls of the `finally` clause. -/
def IsFinallyCall : MediaCall Session Turn → Prop
  | .unregisterStream _ _ | .putNone => True
  | _ => False

theorem IsFinallyCall.isExitCall {request : MediaCall Session Turn} (h : IsFinallyCall request) :
    IsExitCall request := by
  cases request with
  | unregisterStream conversationId ofStream => trivial
  | putNone => trivial
  | _ => cases h

/-- The calls with which a stream is refused: no session, no registration, no event. -/
def IsRefusalCall : MediaCall Session Turn → Prop
  | .verifyContext | .setCode _ | .setDetails _ | .putNone => True
  | _ => False

/-- A call inside the `try` statement, with how it goes on. After a `SESSION_END` under
an id, that is the registration for the id and then the end of the session. -/
def InsideTry (streamId : String) (locals : ReaderLocals Session Turn) :
    (request : MediaCall Session Turn) →
      (request.Reply → MediaProgram Session Turn Unit) → Prop
  | .unregisterStream _ _, _ | .putNone, _ => False
  | .anext (some request), next =>
      request.endsSession = true → request.conversationIdOr locals.conversationId ≠ "" →
        ∃ locals' : ReaderLocals Session Turn,
          locals'.conversationId = request.conversationIdOr locals.conversationId ∧
            next () = attempt streamId locals'
              (.registerStream locals'.conversationId streamId) fun _ =>
                onSessionEnd streamId locals'
  | _, _ => True

/-- A program that makes calls inside the `try` statement and leaves it through the
`finally` clause, in the end or after an exception. -/
inductive InTry (streamId : String) : String → MediaProgram Session Turn Unit → Prop
  | leave (locals : ReaderLocals Session Turn) (result : Except MediaException Unit) :
      InTry streamId locals.conversationId (finallyClause streamId locals result)
  | call (locals : ReaderLocals Session Turn) (request : MediaCall Session Turn)
      (next : request.Reply → MediaProgram Session Turn Unit)
      (hcall : InsideTry streamId locals request next)
      (hnext : ∀ reply, InTry streamId
        (idAfter locals.conversationId ⟨request, .ok reply⟩) (next reply)) :
      InTry streamId locals.conversationId (attempt streamId locals request next)

/-! ## The reader is such a program -/

section Reader

variable {streamId : String} {config : MediaConfig} {dtmfMap : Int → Option String}
  {locals : ReaderLocals Session Turn} {conversationId : String}
  {next : ReaderLocals Session Turn → MediaProgram Session Turn Unit}

theorem onSessionStart_inTry (request : VoiceVARequest) (event : EventInput)
    (hnext : ∀ later : ReaderLocals Session Turn, later.conversationId = locals.conversationId →
      InTry streamId later.conversationId (next later)) :
    InTry streamId locals.conversationId (onSessionStart streamId request event locals next) := by
  refine .call locals _ _ trivial fun session => ?_
  let inSession : ReaderLocals Session Turn := { locals with session := some session }
  refine .call inSession _ _ trivial fun turnCount => ?_
  refine .call inSession _ _ trivial fun turn => ?_
  let inTurn : ReaderLocals Session Turn := { inSession with turn := some turn }
  refine .call inTurn _ _ trivial fun _ => ?_
  refine .call inTurn _ _ trivial fun _ => ?_
  refine .call inTurn _ _ trivial fun _ => ?_
  exact hnext inTurn rfl

theorem onSessionEnd_inTry (streamId : String) (locals : ReaderLocals Session Turn) :
    InTry streamId locals.conversationId (onSessionEnd streamId locals) := by
  have hrelease : InTry streamId locals.conversationId
      (attempt streamId locals (.releaseSession locals.conversationId) fun _ =>
        finallyClause streamId locals (.ok ())) :=
    .call locals _ _ trivial fun _ => .leave locals (.ok ())
  rw [onSessionEnd]
  split
  · exact .call locals _ _ trivial fun _ => hrelease
  · exact hrelease

theorem onNoInput_inTry (hnext : InTry streamId locals.conversationId (next locals)) :
    InTry streamId locals.conversationId (onNoInput streamId locals next) := by
  rw [onNoInput]
  split
  · exact .call locals _ _ trivial fun _ => hnext
  · exact hnext

theorem onAudioInput_inTry (audio : AudioInput) (session : Session) (turn : Turn)
    (hnext : ∀ later : ReaderLocals Session Turn, later.conversationId = locals.conversationId →
      InTry streamId later.conversationId (next later)) :
    InTry streamId locals.conversationId
      (onAudioInput streamId config audio session turn locals next) := by
  refine .call locals _ _ trivial fun _ => ?_
  refine .call locals _ _ trivial fun _ => ?_
  let heard : ReaderLocals Session Turn := { locals with firstAudio := false }
  refine .call heard _ _ trivial fun _ => ?_
  refine .call heard _ _ trivial fun _ => ?_
  exact hnext heard rfl

theorem onDtmfInput_inTry (dtmf : DtmfInput) (session : Session) (turn : Turn)
    (hnext : InTry streamId locals.conversationId (next locals)) :
    InTry streamId locals.conversationId
      (onDtmfInput streamId dtmfMap dtmf session turn locals next) := by
  rw [onDtmfInput]
  dsimp only
  split_ifs
  · refine .call locals _ _ trivial fun _ => ?_
    exact .call locals _ _ trivial fun _ => hnext
  · exact hnext

theorem onRequest_inTry (request : VoiceVARequest)
    (hnext : ∀ later : ReaderLocals Session Turn, later.conversationId = locals.conversationId →
      InTry streamId later.conversationId (next later)) :
    InTry streamId locals.conversationId
      (onRequest streamId config dtmfMap request locals next) := by
  rw [onRequest]
  split
  · split
    · exact onSessionStart_inTry request _ hnext
    · exact onSessionEnd_inTry streamId locals
    · exact onNoInput_inTry (hnext locals rfl)
    · exact hnext locals rfl
  · split
    · split
      · exact onAudioInput_inTry _ _ _ hnext
      · exact onDtmfInput_inTry _ _ _ (hnext locals rfl)
      · exact hnext locals rfl
    · exact hnext locals rfl

/-- With an end of a session, the loop does nothing but end it. -/
theorem onRequest_of_endsSession {request : VoiceVARequest} (hend : request.endsSession = true) :
    onRequest streamId config dtmfMap request locals next = onSessionEnd streamId locals := by
  unfold VoiceVARequest.endsSession at hend
  cases hevent : request.eventInput with
  | none => simp [hevent] at hend
  | some event =>
      have htype : event.eventType = .sessionEnd := by simpa [hevent] using hend
      rw [onRequest, hevent]
      dsimp only
      rw [htype]

theorem readRequests_inTry (requests : List VoiceVARequest) (locals : ReaderLocals Session Turn) :
    InTry streamId locals.conversationId
      (readRequests streamId config dtmfMap requests locals) := by
  induction requests generalizing locals with
  | nil => exact .call locals _ _ trivial fun _ => .leave locals (.ok ())
  | cons request requests ih =>
      let reading : ReaderLocals Session Turn :=
        { locals with conversationId := request.conversationIdOr locals.conversationId }
      refine .call locals _ _ (fun hend hid => ⟨reading, rfl, ?_⟩) fun _ => ?_
      · dsimp only
        rw [if_neg hid]
        simp only [onRequest_of_endsSession hend]
        rfl
      · show InTry streamId reading.conversationId _
        dsimp only
        split_ifs
        · exact ih reading
        · refine .call reading _ _ trivial fun _ => ?_
          exact onRequest_inTry request fun later _ => ih later

/-- The whole reader. -/
theorem requestReader_inTry (streamId : String) (config : MediaConfig)
    (dtmfMap : Int → Option String) (requests : List VoiceVARequest) :
    InTry streamId ""
      (requestReader streamId config dtmfMap requests : MediaProgram Session Turn Unit) := by
  rw [requestReader]
  split_ifs
  · exact .call {} _ _ trivial fun _ => readRequests_inTry requests {}
  · exact readRequests_inTry requests {}

end Reader

/-! ## The ways out -/

section Exits

variable {σ : Type} {handler : Handler (mediaCalls Session Turn) MediaException σ}
  {streamId : String} {locals : ReaderLocals Session Turn}

theorem InsideTry.not_isFinallyCall {request : MediaCall Session Turn}
    {next : request.Reply → MediaProgram Session Turn Unit}
    (h : InsideTry streamId locals request next) : ¬ IsFinallyCall request := by
  cases request with
  | unregisterStream conversationId ofStream => cases h
  | putNone => cases h
  | _ => exact id

theorem finallyClause_usesFinally (result : Except MediaException Unit) :
    (finallyClause streamId locals result).Uses IsFinallyCall :=
  finallyClause_uses (fun _ => trivial) trivial result

theorem exceptClauses_usesExit (e : MediaException) :
    (exceptClauses locals e).Uses fun request => IsExitCall request ∧ ¬ IsFinallyCall request :=
  exceptClauses_uses (fun _ => ⟨trivial, id⟩) (fun _ => ⟨trivial, id⟩)
    (fun _ _ _ _ _ => ⟨trivial, id⟩) e

/-- After an exception, only the `except` and `finally` clauses make calls. -/
theorem exits_uses (e : MediaException) :
    ((exceptClauses locals e).resume (finallyClause streamId locals)).Uses IsExitCall := by
  refine ((exceptClauses_usesExit e).mono fun request h => h.1).resume fun result => ?_
  exact (finallyClause_usesFinally result).mono fun request h => h.isExitCall

theorem trace_attempt (request : MediaCall Session Turn)
    (next : request.Reply → MediaProgram Session Turn Unit) (state : σ) :
    (attempt streamId locals request next).trace handler state =
      ⟨request, (handler request state).1⟩ ::
        (match (handler request state).1 with
          | .ok reply => next reply
          | .error e => (exceptClauses locals e).resume (finallyClause streamId locals)).trace
            handler (handler request state).2 := by
  refine congrArg (fun p => ⟨request, (handler request state).1⟩ ::
    Program.trace handler p (handler request state).2) ?_
  cases (handler request state).1 with
  | ok reply => rfl
  | error e => rfl

/-- Before the first message there is nothing to clean up. -/
theorem exits_uses_refusal (streamId : String) (e : MediaException) :
    ((exceptClauses ({} : ReaderLocals Session Turn) e).resume
      (finallyClause streamId {})).Uses IsRefusalCall := by
  have hexcept : (exceptClauses ({} : ReaderLocals Session Turn) e).Uses IsRefusalCall := by
    refine exceptClauses_uses (fun _ => trivial) (fun _ => trivial) ?_ e
    intro exc session turn hsession
    cases hsession
  exact hexcept.resume fun result => finallyClause_uses (fun hid => (hid rfl).elim) trivial result

/-- A stream whose verification raises is refused. -/
theorem refused_of_unverified (streamId : String) {config : MediaConfig}
    (dtmfMap : Int → Option String) (requests : List VoiceVARequest) {state : σ}
    (hverify : config.verifyTokens = true) {e : MediaException}
    (hrejected : (handler .verifyContext state).1 = .error e) :
    ∀ answered ∈ (requestReader streamId config dtmfMap requests).trace handler state,
      IsRefusalCall answered.1 := by
  rw [requestReader, if_pos hverify, trace_attempt, hrejected]
  refine List.forall_mem_cons.mpr ⟨trivial, fun answered hmem => ?_⟩
  exact (exits_uses_refusal streamId e).of_mem_trace hmem

/-- A run ends with the calls of one `finally` clause, and makes no such calls before. -/
theorem InTry.exists_finally {conversationId : String} {p : MediaProgram Session Turn Unit}
    (h : InTry streamId conversationId p)
    (handler : Handler (mediaCalls Session Turn) MediaException σ) (state : σ) :
    ∃ inside locals result reached,
      p.trace handler state =
        inside ++ (finallyClause streamId locals result).trace handler reached ∧
      ∀ answered ∈ inside, ¬ IsFinallyCall answered.1 := by
  induction h generalizing state with
  | leave locals result => exact ⟨[], locals, result, state, rfl, by simp⟩
  | call locals request next hcall hnext ih =>
      rw [trace_attempt]
      cases hreply : (handler request state).1 with
      | ok reply =>
          obtain ⟨inside, later, result, reached, htrace, hinside⟩ :=
            ih reply (handler request state).2
          refine ⟨⟨request, .ok reply⟩ :: inside, later, result, reached, ?_, ?_⟩
          · exact congrArg (_ :: ·) htrace
          · exact List.forall_mem_cons.mpr ⟨hcall.not_isFinallyCall, hinside⟩
      | error e =>
          refine ⟨⟨request, .error e⟩ ::
            (exceptClauses locals e).trace handler (handler request state).2, locals,
            ((exceptClauses locals e).exec handler (handler request state).2).1,
            ((exceptClauses locals e).exec handler (handler request state).2).2, ?_, ?_⟩
          · dsimp only
            rw [Program.trace_resume]
            rfl
          · refine List.forall_mem_cons.mpr ⟨hcall.not_isFinallyCall, fun answered hmem => ?_⟩
            exact ((exceptClauses_usesExit e).of_mem_trace hmem).2

/-- What follows a `SESSION_END` under an id. -/
theorem InTry.after_sessionEnd {conversationId : String} {p : MediaProgram Session Turn Unit}
    (h : InTry streamId conversationId p) {state : σ}
    {before after : List (Answered (mediaCalls Session Turn) MediaException)}
    {request : VoiceVARequest} {reply : Unit}
    (htrace : p.trace handler state = before ++ ⟨.anext (some request), .ok reply⟩ :: after)
    (hend : request.endsSession = true)
    (hid : request.conversationIdOr (before.foldl idAfter conversationId) ≠ "") :
    ∃ (locals : ReaderLocals Session Turn) (reached : σ),
      locals.conversationId = request.conversationIdOr (before.foldl idAfter conversationId) ∧
        after = (attempt streamId locals
          (.registerStream locals.conversationId streamId) fun _ =>
            onSessionEnd streamId locals).trace handler reached := by
  induction h generalizing state before with
  | leave locals result =>
      have hmem : (⟨.anext (some request), .ok reply⟩ :
          Answered (mediaCalls Session Turn) MediaException) ∈
          (finallyClause streamId locals result).trace handler state := by
        rw [htrace]
        simp
      exact ((finallyClause_usesFinally result).of_mem_trace hmem).elim
  | call locals first next hcall hnext ih =>
      rw [trace_attempt] at htrace
      cases before with
      | nil =>
          obtain ⟨hfirst, hafter⟩ := List.cons.inj htrace
          obtain ⟨rfl, hreply⟩ := Sigma.mk.inj hfirst
          rw [eq_of_heq hreply] at hafter
          obtain ⟨later, hlater, hnext⟩ := hcall hend hid
          refine ⟨later, (handler (.anext (some request)) state).2, hlater, ?_⟩
          rw [← hafter, ← hnext]
      | cons answered before =>
          obtain ⟨rfl, hrest⟩ := List.cons.inj htrace
          cases hreply : (handler first state).1 with
          | ok value =>
              rw [hreply] at hrest hid
              exact ih value hrest hid
          | error e =>
              rw [hreply] at hrest
              have hmem : (⟨.anext (some request), .ok reply⟩ :
                  Answered (mediaCalls Session Turn) MediaException) ∈
                  ((exceptClauses locals e).resume (finallyClause streamId locals)).trace handler
                    (handler first state).2 := by
                show _ ∈ Program.trace handler _ _
                rw [hrest]
                simp
              exact ((exits_uses e).of_mem_trace hmem).elim

end Exits

end ByodsServer
