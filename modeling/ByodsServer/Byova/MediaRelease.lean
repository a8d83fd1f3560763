/-
# The release of a terminated call

A `SESSION_END` is meant to end with `release_session`, whatever the application does.
The release stands behind two calls that can raise: the registration of the stream
for the message, and the dispatch of the end to the application.
-/

import ByodsServer.Byova.ObligingSdk
import ByodsServer.Byova.TryStatement

namespace ByodsServer

open Effects

variable {Session Turn : Type}

/-- The store is asked to release the session of the conversation. -/
def Releases (conversationId : String)
    (calls : List (Answered (mediaCalls Session Turn) MediaException)) : Prop :=
  ∃ reply, ⟨.releaseSession conversationId, reply⟩ ∈ calls

/-- A registration of the stream or a dispatch to the application. -/
def ComesBeforeRelease : MediaCall Session Turn → Prop
  | .registerStream _ _ | .dispatchEvent _ _ _ _ => True
  | _ => False

/-- No registration and no dispatch among the calls raises. -/
def NothingRaisesBefore
    (calls : List (Answered (mediaCalls Session Turn) MediaException)) : Prop :=
  ∀ answered ∈ calls, ComesBeforeRelease answered.1 → ∃ reply, answered.2 = .ok reply

section Release

variable {σ : Type} {handler : Handler (mediaCalls Session Turn) MediaException σ}
  {streamId conversationId : String} {locals : ReaderLocals Session Turn}
  {calls : List (Answered (mediaCalls Session Turn) MediaException)}

theorem not_releases_of_exits (h : ∀ answered ∈ calls, IsExitCall answered.1) :
    ¬ Releases conversationId calls := by
  rintro ⟨reply, hmem⟩
  exact h _ hmem

theorem nothingRaisesBefore_of_exits (h : ∀ answered ∈ calls, IsExitCall answered.1) :
    NothingRaisesBefore calls := by
  intro answered hmem hbefore
  have hexit := h answered hmem
  obtain ⟨request, reply⟩ := answered
  cases request with
  | registerStream conversationId ofStream => cases hexit
  | dispatchEvent name event session turn => cases hexit
  | _ => cases hbefore

/-- A call before the release, answered with a value, changes nothing. -/
theorem releases_iff_cons {request : MediaCall Session Turn} {reply : request.Reply}
    (hrequest : ComesBeforeRelease request)
    (h : Releases conversationId calls ↔ NothingRaisesBefore calls) :
    Releases conversationId (⟨request, .ok reply⟩ :: calls) ↔
      NothingRaisesBefore
        ((⟨request, .ok reply⟩ : Answered (mediaCalls Session Turn) MediaException) :: calls) := by
  have hraises : NothingRaisesBefore
      ((⟨request, .ok reply⟩ : Answered (mediaCalls Session Turn) MediaException) :: calls) ↔
      NothingRaisesBefore calls := by
    unfold NothingRaisesBefore
    rw [List.forall_mem_cons]
    exact and_iff_right fun _ => ⟨reply, rfl⟩
  have hreleases : Releases conversationId
      ((⟨request, .ok reply⟩ : Answered (mediaCalls Session Turn) MediaException) :: calls) ↔
      Releases conversationId calls := by
    refine exists_congr fun released => List.mem_cons.trans (or_iff_right ?_)
    intro hsame
    obtain ⟨rfl, -⟩ := Sigma.mk.inj hsame
    exact hrequest
  rw [hraises, hreleases, h]

/-- When a call before the release raises, only the ways out are left. -/
theorem releases_iff_of_raised {request : MediaCall Session Turn} {e : MediaException}
    (hrequest : ComesBeforeRelease request) (h : ∀ answered ∈ calls, IsExitCall answered.1) :
    Releases conversationId (⟨request, .error e⟩ :: calls) ↔
      NothingRaisesBefore
        ((⟨request, .error e⟩ : Answered (mediaCalls Session Turn) MediaException) :: calls) := by
  refine iff_of_false ?_ fun hnothing => ?_
  · rintro ⟨reply, hmem⟩
    rcases List.mem_cons.mp hmem with hsame | hmem
    · obtain ⟨rfl, -⟩ := Sigma.mk.inj hsame
      exact hrequest
    · exact not_releases_of_exits h ⟨reply, hmem⟩
  · obtain ⟨reply, hreply⟩ := hnothing _ List.mem_cons_self hrequest
    cases hreply

/-- The end of a session, after its dispatch. -/
theorem release_releases_iff (state : σ) :
    let calls := (attempt streamId locals (.releaseSession locals.conversationId) fun _ =>
      finallyClause streamId locals (.ok ())).trace handler state
    Releases locals.conversationId calls ↔ NothingRaisesBefore calls := by
  dsimp only
  rw [trace_attempt]
  refine iff_of_true ⟨_, List.mem_cons_self⟩ ?_
  refine List.forall_mem_cons.mpr ⟨fun hbefore => hbefore.elim, ?_⟩
  apply nothingRaisesBefore_of_exits
  intro answered hmem
  cases hreply : (handler (.releaseSession locals.conversationId) state).1 with
  | ok reply =>
      rw [hreply] at hmem
      exact ((finallyClause_usesFinally (.ok ())).of_mem_trace hmem).isExitCall
  | error e =>
      rw [hreply] at hmem
      exact (exits_uses e).of_mem_trace hmem

theorem onSessionEnd_releases_iff (state : σ) :
    Releases locals.conversationId ((onSessionEnd streamId locals).trace handler state) ↔
      NothingRaisesBefore ((onSessionEnd streamId locals).trace handler state) := by
  rw [onSessionEnd]
  split
  · next session turn hsession hturn =>
      rw [trace_attempt]
      cases hreply : (handler (.dispatchEvent "session_end" (.sessionEnd "webex_terminate")
        session turn) state).1 with
      | ok reply => exact releases_iff_cons trivial (release_releases_iff _)
      | error e => exact releases_iff_of_raised trivial fun answered => (exits_uses e).of_mem_trace
  · exact release_releases_iff state

end Release

/-- After a `SESSION_END` for a conversation, its session is released exactly when
neither the registration for the message nor the dispatch of the end raises. -/
theorem sessionEnd_released_iff {σ : Type}
    (handler : Handler (mediaCalls Session Turn) MediaException σ) (streamId : String)
    (config : MediaConfig) (dtmfMap : Int → Option String) (requests : List VoiceVARequest)
    (state : σ) {before after : List (Answered (mediaCalls Session Turn) MediaException)}
    {request : VoiceVARequest} {reply : Unit}
    (htrace : (requestReader streamId config dtmfMap requests).trace handler state =
      before ++ ⟨.anext (some request), .ok reply⟩ :: after)
    (hend : request.endsSession = true)
    (hid : request.conversationIdOr (idInForce before) ≠ "") :
    Releases (request.conversationIdOr (idInForce before)) after ↔
      NothingRaisesBefore after := by
  obtain ⟨locals, reached, hlocals, rfl⟩ :=
    (requestReader_inTry streamId config dtmfMap requests).after_sessionEnd htrace hend hid
  rw [idInForce, ← hlocals, trace_attempt]
  cases hreply : (handler (.registerStream locals.conversationId streamId) reached).1 with
  | ok registered => exact releases_iff_cons trivial (onSessionEnd_releases_iff _)
  | error e => exact releases_iff_of_raised trivial fun answered => (exits_uses e).of_mem_trace

/-! ## One call -/

/-- A call that is started and terminated. -/
def terminatedCall : List VoiceVARequest :=
  [⟨"a", "", "", some ⟨.sessionStart, []⟩, none, none⟩,
    ⟨"a", "", "", some ⟨.sessionEnd, []⟩, none, none⟩]

/-- The application's handler of `session_end` raises. -/
def rudeApplication : Handler (mediaCalls Unit Unit) MediaException Unit
  | .dispatchEvent "session_end" _ _ _, state =>
      (.error (.exception (.runtimeError "no goodbye")), state)
  | request, state => obligingSdk request state

theorem sessionEnd_released_iff_terminated :
    Releases "a" (((requestReader "stream" ⟨false, 8000⟩ (fun _ => none)
      terminatedCall).trace obligingSdk ()).drop 9) := by
  have htrace : (requestReader "stream" ⟨false, 8000⟩ (fun _ => none)
      terminatedCall).trace obligingSdk () =
      ((requestReader "stream" ⟨false, 8000⟩ (fun _ => none)
        terminatedCall).trace obligingSdk ()).take 8 ++
        ⟨.anext (some ⟨"a", "", "", some ⟨.sessionEnd, []⟩, none, none⟩), .ok ()⟩ ::
          ((requestReader "stream" ⟨false, 8000⟩ (fun _ => none)
            terminatedCall).trace obligingSdk ()).drop 9 := rfl
  refine (sessionEnd_released_iff obligingSdk "stream" ⟨false, 8000⟩ (fun _ => none)
    terminatedCall () htrace rfl (by decide)).mpr ?_
  intro answered hmem _
  exact obligingSdk_answers (List.mem_of_mem_drop hmem)

/-- The application raises at the end, and the store keeps the session. -/
theorem rude_application_keeps_session :
    ((requestReader "stream" ⟨false, 8000⟩ (fun _ => none) terminatedCall).trace
        rudeApplication ())[8]? =
      some ⟨.anext (some ⟨"a", "", "", some ⟨.sessionEnd, []⟩, none, none⟩), .ok ()⟩ ∧
      ¬ Releases "a" ((requestReader "stream" ⟨false, 8000⟩ (fun _ => none) terminatedCall).trace
        rudeApplication ()) := by
  refine ⟨rfl, ?_⟩
  rintro ⟨reply, hmem⟩
  have hcalls : ((requestReader "stream" ⟨false, 8000⟩ (fun _ => none) terminatedCall).trace
      rudeApplication ()).all (fun answered =>
        match answered.1 with
        | .releaseSession _ => false
        | _ => true) = true := rfl
  cases List.all_eq_true.mp hcalls _ hmem

end ByodsServer
