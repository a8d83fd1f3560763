/-
# Callers without a valid token

What a caller gets who has no authorization, an empty one, or one that is not
verified: from the discovery the same answer whatever the catalog is, and from a
stream a status at most. Neither reads nor changes anything of the server.
-/

import ByodsServer.Byova.Discovery
import ByodsServer.Byova.ResponseStream

namespace ByodsServer

open Effects Python

/-! ## Discovery -/

section Discovery

variable {κ σ : Type} (world : DiscoveryWorld κ σ)

/-- A call of the discovery that is turned away: in both states it comes out the same,
with an empty answer or an error, verifies the token at most, and leaves the catalogs
as they are. -/
structure TurnedAway (rpc : DiscoveryProgram ListVAResponse) (first second : DiscoveryState κ σ) :
    Prop where
  sameOutcome : (rpc.exec world.perform first).1 = (rpc.exec world.perform second).1
  outcome : (rpc.exec world.perform first).1 = .ok {} ∨
    ∃ e, (rpc.exec world.perform first).1 = .error e
  calls : ∀ answered ∈ rpc.trace world.perform first,
    ∃ metadata, answered.1 = .verifyContext metadata
  stored : (rpc.exec world.perform first).2.stored = first.stored
  cached : (rpc.exec world.perform first).2.cached = first.cached

variable {world} {hasRefresh : Bool} {metadata : InvocationMetadata} {request : ListVARequest}
  {now : DateTime} {config : MediaConfig} {first second : DiscoveryState κ σ}

theorem turnedAway_of_no_authorization (hverify : config.verifyTokens = true)
    (hmissing : metadata.hasAuthorization = false) :
    TurnedAway world (listVirtualAgents hasRefresh metadata request now config) first second := by
  have hrpc : listVirtualAgents hasRefresh metadata request now config =
      Program.finish (.ok {}) := by
    rw [listVirtualAgents, if_pos hverify, hmissing, if_neg Bool.false_ne_true]
    rfl
  rw [hrpc]
  exact ⟨rfl, Or.inl rfl, by simp [Program.trace], rfl, rfl⟩

theorem turnedAway_of_rejected (hverify : config.verifyTokens = true)
    (hgiven : metadata.hasAuthorization = true) (hrest : first.rest = second.rest)
    {e : PyException} (hrejected : (world.verify metadata first.rest).1 = .error e) :
    TurnedAway world (listVirtualAgents hasRefresh metadata request now config) first second := by
  have hrpc : listVirtualAgents hasRefresh metadata request now config =
      (callDiscovery (.verifyContext metadata) >>= fun _ =>
        answerWithCatalog hasRefresh metadata request now) := by
    rw [listVirtualAgents, if_pos hverify, if_pos hgiven]
  have hexec {state : DiscoveryState κ σ}
      (herror : (world.verify metadata state.rest).1 = .error e) :
      (listVirtualAgents hasRefresh metadata request now config).exec world.perform state =
        (.error e, { state with rest := (world.verify metadata state.rest).2 }) := by
    have hcall : (callDiscovery (.verifyContext metadata)).exec world.perform state =
        (.error e, { state with rest := (world.verify metadata state.rest).2 }) := by
      rw [← herror]
      rfl
    rw [hrpc]
    exact Program.exec_bind_of_error hcall _
  have hcalls : (listVirtualAgents hasRefresh metadata request now config).trace world.perform
      first = [⟨.verifyContext metadata, .error e⟩] := by
    rw [hrpc]
    show ⟨.verifyContext metadata, (world.verify metadata first.rest).1⟩ ::
      Program.trace world.perform (Program.andThen
        (fun _ => answerWithCatalog hasRefresh metadata request now)
          (world.verify metadata first.rest).1) _ = _
    rw [hrejected]
    rfl
  have hsecond : (world.verify metadata second.rest).1 = .error e := by rw [← hrest, hrejected]
  refine ⟨?_, Or.inr ⟨e, ?_⟩, fun answered hmem => ⟨metadata, ?_⟩, ?_, ?_⟩
  · rw [hexec hrejected, hexec hsecond]
  · rw [hexec hrejected]
  · rw [hcalls] at hmem
    rw [List.mem_singleton.mp hmem]
  · rw [hexec hrejected]
  · rw [hexec hrejected]

end Discovery

/-! ## Streams -/

section Streams

variable {Session Turn Response : Type}

/-- Who has no turn sends nothing. -/
theorem yielded_eq_nil_of_refused {events : List (StreamEvent Session Turn Response)}
    (hcalls : ∀ answered ∈ readerCalls events, IsRefusalCall answered.1)
    (hturns : SentByTurns events) : yielded events = [] := by
  rw [List.eq_nil_iff_forall_not_mem]
  intro response hmem
  obtain ⟨before, after, hevents⟩ :=
    List.append_of_mem (sendResponse_mem_of_mem_yielded hmem)
  obtain ⟨session, turnNumber, turn, hturn⟩ := hturns before _ after hevents rfl
  refine hcalls ⟨.turnContext session turnNumber, .ok turn⟩ ?_
  rw [hevents, readerCalls, List.filterMap_append]
  exact List.mem_append_left _ hturn

end Streams

/-! ## Both ways in -/

/-- Callers without a valid token learn nothing and change nothing. The discovery comes
out the same in any two states that differ in the catalogs only; a stream whose
verification raises makes none but the calls of a refusal and yields nothing. -/
theorem unverified_callers_learn_nothing {κ σ τ Session Turn Response : Type}
    (world : DiscoveryWorld κ σ) (config : MediaConfig) (hverify : config.verifyTokens = true) :
    (∀ hasRefresh metadata request now (first second : DiscoveryState κ σ),
      first.rest = second.rest →
      metadata.hasAuthorization = false ∨ (∃ e, (world.verify metadata first.rest).1 = .error e) →
        TurnedAway world (listVirtualAgents hasRefresh metadata request now config)
          first second) ∧
      ∀ (handler : Handler (mediaCalls Session Turn) MediaException τ) streamId dtmfMap requests
        state, (∃ e, (handler .verifyContext state).1 = .error e) →
        (∀ answered ∈ (requestReader streamId config dtmfMap requests).trace handler state,
          IsRefusalCall answered.1) ∧
        ∀ events : List (StreamEvent Session Turn Response),
          readerCalls events <+: (requestReader streamId config dtmfMap requests).trace
            handler state →
          SentByTurns events → yielded events = [] := by
  constructor
  · intro hasRefresh metadata request now first second hrest hcaller
    cases hgiven : metadata.hasAuthorization with
    | false => exact turnedAway_of_no_authorization hverify hgiven
    | true =>
        rcases hcaller with hmissing | ⟨e, hrejected⟩
        · cases hgiven.symm.trans hmissing
        · exact turnedAway_of_rejected hverify hgiven hrest hrejected
  · rintro handler streamId dtmfMap requests state ⟨e, hrejected⟩
    have hrefused := refused_of_unverified streamId dtmfMap requests hverify hrejected
    refine ⟨hrefused, fun events hpart hturns => ?_⟩
    exact yielded_eq_nil_of_refused (fun answered hmem => hrefused answered (hpart.subset hmem))
      hturns

/-! ## A forged token -/

/-- One token is valid. The repository lists what is stored. -/
def tokenWorld : DiscoveryWorld (List VirtualAgentCatalogEntry) Unit where
  verify metadata rest :=
    if metadata.get? "authorization" = some "Bearer signed" then (.ok (), rest)
    else (.error (.authenticationError "Invalid token"), rest)
  listAgents stored := (.ok stored, stored)
  handlers _ _ := [⟨"on_list_virtual_agents", ["event"], true⟩]
  invoke _ _ state := (.ok (), state)

/-- The SDK finds the token of the stream forged. -/
def forgedToken : Handler (mediaCalls Unit Unit) MediaException Unit
  | .verifyContext, state => (.error (.exception (.authenticationError "Invalid token")), state)
  | request, state => obligingSdk request state

theorem unverified_callers_learn_nothing_forged :
    TurnedAway tokenWorld
        (listVirtualAgents true [("authorization", "Bearer forged")] ⟨"org-1", false⟩
          ⟨2026, 6, 13, 12, 0, 0, 0, some 0⟩ ⟨true, 8000⟩)
        ⟨[⟨"greeter", "Greeter", true⟩], [], ()⟩ ⟨[], [⟨"helper", "Helper", false⟩], ()⟩ ∧
      yielded (readerAlone ((requestReader "stream" ⟨true, 8000⟩ (fun _ => none)
        oneMessage).trace forgedToken ()) : List (StreamEvent Unit Unit String)) = [] := by
  have hturned := @unverified_callers_learn_nothing _ _ Unit Unit Unit String tokenWorld
    ⟨true, 8000⟩ rfl
  refine ⟨hturned.1 true _ _ _ _ _ rfl (Or.inr ⟨_, rfl⟩), ?_⟩
  refine (hturned.2 forgedToken "stream" (fun _ => none) oneMessage () ⟨_, rfl⟩).2 _ ?_ ?_
  · exact ⟨[], by rw [readerCalls_readerAlone, List.append_nil]⟩
  · intro before event after hevents hturn
    have hmem : event ∈ readerAlone _ := hevents ▸ List.mem_append_right before List.mem_cons_self
    obtain ⟨answered, -, rfl⟩ := List.mem_map.mp hmem
    cases hturn

end ByodsServer
