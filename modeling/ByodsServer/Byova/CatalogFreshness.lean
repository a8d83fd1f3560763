/-
# The catalog that sessions are checked against

One server answers any number of `ListVirtualAgents` calls at once while the stored
catalog changes. Each call reads the stored catalog and then writes what it read to
the attribute that `on_session_start` looks at. The model counts the contents that
the store has had, and notes which of them each call read and which is cached. A
call that is overtaken between its read and its write takes the cache back.
-/

import ByodsServer.Byova.Discovery
import ByodsServer.Effects.LoggedPool
import ByodsServer.Persistence.CatalogAtomicity

namespace ByodsServer

open Effects Python

/-! ## The check of a session -/

/-- `catalog_id_set`, as a list. -/
def catalogIdSet (entries : List VirtualAgentCatalogEntry) : List String :=
  entries.map VirtualAgentCatalogEntry.virtualAgentId

/-- The warning of `on_session_start`, if it logs one: from the cached catalog and
the `virtual_agent_id` in the session's metadata. -/
def sessionStartWarning (catalog : List VirtualAgentCatalogEntry)
    (virtualAgentId : Option String) : Option String :=
  match virtualAgentId with
  | none => none
  | some agentId =>
      if agentId ≠ "" ∧ agentId ∉ catalogIdSet catalog then
        some ("virtual_agent_id=" ++ agentId ++
          " not found in catalog — session continues with catalog_match=false")
      else none

/-! ## The server -/

/-- What the calls of a discovery lead to. The store is only read, and the handlers
of the application know nothing of the catalog. -/
structure ServerWorld (κ σ : Type) where
  verify : InvocationMetadata → σ → Except PyException Unit × σ
  listAgents : κ → Except PyException (List VirtualAgentCatalogEntry)
  handlers : String → σ → List EventHandler
  invoke : EventHandler → HandlerArgs → σ → Except PyException Unit × σ

/-- Such a world is one that the discovery can run in. -/
def ServerWorld.discovery {κ σ : Type} (world : ServerWorld κ σ) : DiscoveryWorld κ σ where
  verify := world.verify
  listAgents stored := (world.listAgents stored, stored)
  handlers := world.handlers
  invoke handler args state :=
    ((world.invoke handler args state.rest).1,
      { state with rest := (world.invoke handler args state.rest).2 })

/-- The server's state, with the contents that the store had before, the number of
the content that the cached catalog was read from, and that each call read. -/
structure CatalogServer (ι κ σ : Type) extends DiscoveryState κ σ where
  past : List κ
  cachedAt : ℕ
  readAt : ι → Option ℕ

namespace CatalogServer

variable {ι κ σ : Type} (server : CatalogServer ι κ σ)

/-- The number of the present content of the store. -/
def version : ℕ := server.past.length

/-- All contents that the store has had, the present one last. -/
def contents : List κ := server.past ++ [server.stored]

/-- The stored catalog changes. -/
def mutate (change : κ → κ) : CatalogServer ι κ σ :=
  { server with past := server.contents, stored := change server.stored }

/-- A call leads to a state; its read or write of the catalog is noted. -/
def noted [DecidableEq ι] (who : ι) (discovery : DiscoveryState κ σ) :
    DiscoveryCall → CatalogServer ι κ σ
  | .listAgents =>
      { server with
        toDiscoveryState := discovery
        readAt := Function.update server.readAt who (some server.version) }
  | .setVirtualAgentCatalog _ =>
      { server with
        toDiscoveryState := discovery
        cachedAt := (server.readAt who).getD server.cachedAt }
  | _ => { server with toDiscoveryState := discovery }

end CatalogServer

section Server

variable {ι κ σ : Type} (world : ServerWorld κ σ)

/-- A server with its discoveries in flight. -/
abbrev DiscoveryPool (ι κ σ : Type) :=
  LoggedPool discoveryCalls PyException ListVAResponse ι (CatalogServer ι κ σ)

/-- A discovery as it arrives. -/
structure IncomingDiscovery where
  metadata : InvocationMetadata
  request : ListVARequest
  now : DateTime

/-- A server as `create_media_server` leaves it, and the discoveries it will get. -/
def startedServer (config : MediaConfig) (incoming : ι → IncomingDiscovery) (stored : κ)
    (cached : List VirtualAgentCatalogEntry) (rest : σ) : DiscoveryPool ι κ σ where
  state :=
    { stored := stored, cached := cached, rest := rest, past := [], cachedAt := 0
      readAt := fun _ => none }
  programs who :=
    listVirtualAgents true (incoming who).metadata (incoming who).request (incoming who).now config
  histories _ := []

/-- What happens to a server: a discovery makes its next call, the stored catalog
changes, or a session starts. -/
inductive ServerEvent (ι κ : Type)
  | turn (who : ι)
  | mutate (change : κ → κ)
  | sessionStart (virtualAgentId : Option String)

/-- A list is the catalog that the store held in one of its versions. -/
def ServerWorld.CatalogAt (server : CatalogServer ι κ σ) (version : ℕ)
    (entries : List VirtualAgentCatalogEntry) : Prop :=
  ∃ content, server.contents[version]? = some content ∧ world.listAgents content = .ok entries

/-- An agent id is in every catalog that the store has held since a version. -/
def ServerWorld.InStoreSince (server : CatalogServer ι κ σ) (version : ℕ) (agentId : String) :
    Prop :=
  ∀ later entries, version ≤ later → world.CatalogAt server later entries →
    agentId ∈ catalogIdSet entries

/-- What a response lists. -/
def listedAgents (catalog : List VirtualAgentCatalogEntry) : ListVAResponse :=
  ⟨catalog.map fun entry => ⟨entry.virtualAgentId, entry.virtualAgentName, entry.isDefault⟩⟩

/-- A discovery has returned, and it read the catalog in this version. -/
def Returned (pool : DiscoveryPool ι κ σ) (who : ι) (version : ℕ) (response : ListVAResponse) :
    Prop :=
  pool.programs who = .finish (.ok response) ∧ pool.state.readAt who = some version

/-- If the participant's next call is to write the catalog it read, then the cached
catalog is not a later one. -/
def WritesInOrder (pool : DiscoveryPool ι κ σ) (who : ι) : Prop :=
  ∀ entries, (pool.programs who).nextCall? = some (.setVirtualAgentCatalog entries) →
    ∀ version, pool.state.readAt who = some version → pool.state.cachedAt ≤ version

/-- The event takes the cached catalog no version back. -/
def InOrder (pool : DiscoveryPool ι κ σ) : ServerEvent ι κ → Prop
  | .turn who => WritesInOrder pool who
  | _ => True

/-- At the start of a session, a discovery that has returned listed the catalog of the
version that it read, the cached catalog is of that version or a later one, and no
agent that it listed is missing when it was never removed since. -/
def ChecksNoOlderCatalog (pool : DiscoveryPool ι κ σ) (virtualAgentId : Option String) : Prop :=
  ∀ who version response, Returned pool who version response →
    (∃ catalog, world.CatalogAt pool.state version catalog ∧ response = listedAgents catalog) ∧
    (∃ checked, version ≤ checked ∧ world.CatalogAt pool.state checked pool.state.cached) ∧
    ∀ agent ∈ response.virtualAgents, virtualAgentId = some agent.virtualAgentId →
      world.InStoreSince pool.state version agent.virtualAgentId →
        sessionStartWarning pool.state.cached virtualAgentId = none

variable [DecidableEq ι]

/-- The answers to one participant's calls. -/
def ServerWorld.answer (who : ι) : Handler discoveryCalls PyException (CatalogServer ι κ σ) :=
  fun request server =>
    ((world.discovery.perform request server.toDiscoveryState).1,
      server.noted who (world.discovery.perform request server.toDiscoveryState).2 request)

/-- One event. A session only looks at the cached catalog. -/
def ServerWorld.step (pool : DiscoveryPool ι κ σ) : ServerEvent ι κ → DiscoveryPool ι κ σ
  | .turn who => pool.turn (world.answer who) who
  | .mutate change => { pool with state := pool.state.mutate change }
  | .sessionStart _ => pool

/-- A sequence of events. -/
def ServerWorld.run (pool : DiscoveryPool ι κ σ) (events : List (ServerEvent ι κ)) :
    DiscoveryPool ι κ σ :=
  runEvents world.step pool events

end Server

/-! ## One discovery -/

/-- A call that reads the stored catalog or writes the cached one. -/
def DiscoveryCall.Refreshes : DiscoveryCall → Prop
  | .listAgents | .setVirtualAgentCatalog _ => True
  | _ => False

/-- A history of a discovery. -/
abbrev DiscoveryHistory := History discoveryCalls PyException

/-- The catalog was written to the server. -/
def WroteCatalog (entries : List VirtualAgentCatalogEntry) (history : DiscoveryHistory) : Prop :=
  ⟨.setVirtualAgentCatalog entries, .ok ()⟩ ∈ history

/-- A discovery reads once, and writes what it read right after that. -/
def DiscoveryAllowed (history : DiscoveryHistory) : DiscoveryCall → Prop
  | .listAgents => ∀ answered ∈ history, ¬ DiscoveryCall.Refreshes answered.1
  | .setVirtualAgentCatalog entries =>
      ∃ earlier, history = ⟨.listAgents, .ok entries⟩ :: earlier
  | _ => True

/-- A discovery that returns lists what it wrote, or it read nothing. -/
def DiscoveryPost (history : DiscoveryHistory) (result : Except PyException ListVAResponse) :
    Prop :=
  ∀ response, result = .ok response →
    (∃ entries, WroteCatalog entries history ∧ response = listedAgents entries) ∨
      ∀ answered ∈ history, ¬ DiscoveryCall.Refreshes answered.1

/-- The catalog is refreshed once, and the refresh returns what it wrote. -/
theorem refreshCatalog_follows {history : DiscoveryHistory}
    (hnone : ∀ answered ∈ history, ¬ DiscoveryCall.Refreshes answered.1) :
    refreshCatalog.Follows DiscoveryAllowed
      (fun history result => ∀ entries, result = .ok entries → WroteCatalog entries history)
      history := by
  refine ⟨hnone, fun reply => ?_⟩
  cases reply with
  | error e => intro entries h; cases h
  | ok entries =>
      refine ⟨⟨history, rfl⟩, fun written => ?_⟩
      cases written with
      | error e => intro entries h; cases h
      | ok value =>
          intro returned h
          rw [← Except.ok.inj h]
          exact List.mem_cons_self

/-- Dispatching the event keeps the catalog as it is. -/
theorem dispatchListVirtualAgents_follows (event : ListVirtualAgentsEvent)
    {history : DiscoveryHistory} {entries : List VirtualAgentCatalogEntry}
    (hwrote : WroteCatalog entries history) :
    (dispatchListVirtualAgents event).Follows DiscoveryAllowed
      (fun history _ => WroteCatalog entries history) history := by
  have huses : (dispatchListVirtualAgents event).Uses fun request =>
      ¬ DiscoveryCall.Refreshes request := by
    apply Program.Uses.bind (Program.uses_await (by simp [DiscoveryCall.Refreshes]))
    intro handlers
    apply Program.uses_forEach
    intro handler _
    split
    · exact Program.uses_await (by simp [DiscoveryCall.Refreshes])
    · exact Program.uses_await (by simp [DiscoveryCall.Refreshes])
  apply huses.follows _ _ hwrote
  · intro history request hother _
    cases request <;> first | trivial | exact absurd trivial hother
  · intro history request reply _ hwrote
    exact List.mem_cons_of_mem _ hwrote

/-- The catalog is refreshed, then it is dispatched and listed. -/
theorem answerWithCatalog_follows (metadata : InvocationMetadata) (request : ListVARequest)
    (now : DateTime) {history : DiscoveryHistory}
    (hnone : ∀ answered ∈ history, ¬ DiscoveryCall.Refreshes answered.1) :
    (answerWithCatalog true metadata request now).Follows DiscoveryAllowed DiscoveryPost
      history := by
  apply (refreshCatalog_follows hnone).resume
  intro history result hresult
  cases result with
  | error e => intro response h; cases h
  | ok entries =>
      apply (dispatchListVirtualAgents_follows _ (hresult entries rfl)).resume
      intro history dispatched hwrote
      cases dispatched with
      | error e => intro response h; cases h
      | ok value =>
          intro response h
          exact Or.inl ⟨entries, hwrote, (Except.ok.inj h).symm⟩

theorem listVirtualAgents_follows (metadata : InvocationMetadata) (request : ListVARequest)
    (now : DateTime) (config : MediaConfig) :
    (listVirtualAgents true metadata request now config).Follows DiscoveryAllowed DiscoveryPost
      [] := by
  have hnone : ∀ answered ∈ ([] : DiscoveryHistory), ¬ DiscoveryCall.Refreshes answered.1 := by
    simp
  rw [listVirtualAgents]
  split_ifs with hverify hauthorization
  · refine ⟨trivial, fun verified => ?_⟩
    cases verified with
    | error e => intro response h; cases h
    | ok value =>
        apply answerWithCatalog_follows
        simp [DiscoveryCall.Refreshes]
  · intro response h
    exact Or.inr hnone
  · exact answerWithCatalog_follows metadata request now hnone

/-! ## The whole server -/

section Consistent

variable {ι κ σ : Type} {world : ServerWorld κ σ} {server newer : CatalogServer ι κ σ}
  {readVersion : Option ℕ} {history : DiscoveryHistory}

/-- A discovery that read a version, if any: what it read or wrote is the catalog of
that version, and what it wrote is no newer than what is cached. -/
structure InStep (world : ServerWorld κ σ) (server : CatalogServer ι κ σ) (readVersion : Option ℕ)
    (history : DiscoveryHistory) : Prop where
  read : ∀ entries earlier, history = ⟨.listAgents, .ok entries⟩ :: earlier →
    ∃ version, readVersion = some version ∧ world.CatalogAt server version entries
  wrote : ∀ entries, WroteCatalog entries history →
    ∃ version, readVersion = some version ∧ version ≤ server.cachedAt ∧
      world.CatalogAt server version entries
  unread : (∀ answered ∈ history, ¬ DiscoveryCall.Refreshes answered.1) → readVersion = none

/-- A discovery stays in step while the store gets new versions and the cache is
refreshed. -/
theorem InStep.later (h : InStep world server readVersion history)
    (hcatalog : ∀ version entries, world.CatalogAt server version entries →
      world.CatalogAt newer version entries)
    (hcached : server.cachedAt ≤ newer.cachedAt) : InStep world newer readVersion history where
  read entries earlier hhead := by
    obtain ⟨version, hread, hentries⟩ := h.read entries earlier hhead
    exact ⟨version, hread, hcatalog version entries hentries⟩
  wrote entries hwrote := by
    obtain ⟨version, hread, hle, hentries⟩ := h.wrote entries hwrote
    exact ⟨version, hread, hle.trans hcached, hcatalog version entries hentries⟩
  unread := h.unread

/-- It stays in step with a call that is neither its read nor its write. -/
theorem InStep.other (h : InStep world server readVersion history) {request : DiscoveryCall}
    (hother : ¬ request.Refreshes) (reply : Except PyException request.Reply) :
    InStep world server readVersion (⟨request, reply⟩ :: history) where
  read entries earlier hhead := by
    have hrequest : request = .listAgents :=
      congrArg Sigma.fst (List.cons.inj hhead).1
    exact absurd (hrequest ▸ trivial) hother
  wrote entries hwrote := by
    rcases List.mem_cons.mp hwrote with hhead | htail
    · have hrequest : .setVirtualAgentCatalog entries = request := congrArg Sigma.fst hhead
      exact absurd (hrequest ▸ trivial) hother
    · exact h.wrote entries htail
  unread hnone := h.unread fun answered hmem => hnone answered (List.mem_cons_of_mem _ hmem)

/-- It is in step after its read. -/
theorem InStep.listAgents {reply : Except PyException (List VirtualAgentCatalogEntry)}
    (hnone : ∀ answered ∈ history, ¬ DiscoveryCall.Refreshes answered.1)
    (hreply : ∀ entries, reply = .ok entries →
      world.CatalogAt server server.version entries) :
    InStep world server (some server.version) (⟨.listAgents, reply⟩ :: history) where
  read entries earlier hhead := by
    obtain ⟨-, hentries⟩ := Sigma.mk.inj (List.cons.inj hhead).1
    exact ⟨server.version, rfl, hreply entries (eq_of_heq hentries)⟩
  wrote entries hwrote := by
    rcases List.mem_cons.mp hwrote with hhead | htail
    · cases congrArg Sigma.fst hhead
    · exact absurd trivial (hnone _ htail)
  unread hread := absurd trivial (hread _ List.mem_cons_self)

/-- It is in step after its write, which caches what it read. -/
theorem InStep.setVirtualAgentCatalog (h : InStep world server readVersion history)
    {entries : List VirtualAgentCatalogEntry} {version : ℕ} (hread : readVersion = some version)
    (hcatalog : world.CatalogAt server version entries) (hle : version ≤ server.cachedAt)
    (reply : Except PyException Unit) :
    InStep world server readVersion (⟨.setVirtualAgentCatalog entries, reply⟩ :: history) where
  read entries earlier hhead := by
    cases congrArg Sigma.fst (List.cons.inj hhead).1
  wrote written hwrote := by
    rcases List.mem_cons.mp hwrote with hhead | htail
    · obtain ⟨hrequest, -⟩ := Sigma.mk.inj hhead
      obtain rfl := DiscoveryCall.setVirtualAgentCatalog.inj hrequest
      exact ⟨version, hread, hle, hcatalog⟩
    · exact h.wrote written htail
  unread hnone := absurd trivial (hnone _ List.mem_cons_self)

/-- What holds of a server whose discoveries write in order. -/
structure Consistent (world : ServerWorld κ σ) (pool : DiscoveryPool ι κ σ) : Prop where
  follow : pool.AllFollow DiscoveryAllowed DiscoveryPost
  cached : world.CatalogAt pool.state pool.state.cachedAt pool.state.cached
  inStep : ∀ who, InStep world pool.state (pool.state.readAt who) (pool.histories who)

theorem consistent_started (config : MediaConfig) (incoming : ι → IncomingDiscovery) {stored : κ}
    {cached : List VirtualAgentCatalogEntry} (rest : σ)
    (hcached : world.listAgents stored = .ok cached) :
    Consistent world (startedServer config incoming stored cached rest) where
  follow _ := listVirtualAgents_follows _ _ _ config
  cached := ⟨stored, rfl, hcached⟩
  inStep _ := by
    constructor
    · intro entries earlier hhead
      cases hhead
    · intro entries hwrote
      cases hwrote
    · intro hnone
      rfl

/-- Versions stay when the store changes. -/
theorem catalogAt_mutate (change : κ → κ) {version : ℕ} {entries : List VirtualAgentCatalogEntry}
    (h : world.CatalogAt server version entries) :
    world.CatalogAt (server.mutate change) version entries := by
  obtain ⟨content, hcontent, hlist⟩ := h
  refine ⟨content, ?_, hlist⟩
  have hlt := (List.getElem?_eq_some_iff.mp hcontent).1
  show (server.contents ++ [change server.stored])[version]? = some content
  rw [List.getElem?_append_left hlt, hcontent]

theorem Consistent.mutate {pool : DiscoveryPool ι κ σ} (h : Consistent world pool)
    (change : κ → κ) :
    Consistent world { pool with state := pool.state.mutate change } where
  follow := h.follow
  cached := catalogAt_mutate change h.cached
  inStep who := (h.inStep who).later (fun _ _ => catalogAt_mutate change) le_rfl

end Consistent

section Turn

variable {ι κ σ : Type} [DecidableEq ι] {world : ServerWorld κ σ} {server : CatalogServer ι κ σ}
  {pool : DiscoveryPool ι κ σ} {who : ι}

/-- A call that is neither the read nor the write leaves all about the catalog. -/
theorem answer_of_other {request : DiscoveryCall} (hother : ¬ request.Refreshes) :
    ∃ rest, (world.answer who request server).2 = { server with rest := rest } := by
  cases request with
  | verifyContext metadata => exact ⟨_, rfl⟩
  | listAgents => exact absurd trivial hother
  | setVirtualAgentCatalog entries => exact absurd trivial hother
  | virtualAgentCatalog => exact ⟨server.rest, rfl⟩
  | handlers eventName => exact ⟨server.rest, rfl⟩
  | awaitHandler handler args => exact ⟨_, rfl⟩
  | runInThread handler args => exact ⟨_, rfl⟩

theorem answer_setVirtualAgentCatalog {entries : List VirtualAgentCatalogEntry} {version : ℕ}
    (hread : server.readAt who = some version) :
    (world.answer who (.setVirtualAgentCatalog entries) server).2 =
      { server with cached := entries, cachedAt := version } := by
  have hnoted : (world.answer who (.setVirtualAgentCatalog entries) server).2 =
      { server with
        cached := entries, cachedAt := (server.readAt who).getD server.cachedAt } := rfl
  rw [hnoted, hread]
  rfl

/-- A turn keeps the server consistent when it keeps the caller in step, touches
nobody else's read, loses no version and takes the cache no step back. -/
theorem Consistent.of_turn (h : Consistent world pool) {request : DiscoveryCall}
    {next : Except PyException request.Reply → DiscoveryProgram ListVAResponse}
    (hcall : pool.programs who = .call request next) {after : CatalogServer ι κ σ}
    (hafter : (world.answer who request pool.state).2 = after)
    (hcached : world.CatalogAt after after.cachedAt after.cached)
    (hown : InStep world after (after.readAt who)
      (⟨request, (world.answer who request pool.state).1⟩ :: pool.histories who))
    (hothers : ∀ other, other ≠ who → after.readAt other = pool.state.readAt other)
    (hversions : ∀ version entries, world.CatalogAt pool.state version entries →
      world.CatalogAt after version entries)
    (hle : pool.state.cachedAt ≤ after.cachedAt) :
    Consistent world (pool.turn (world.answer who) who) := by
  have hfollow : (pool.turn (world.answer who) who).AllFollow DiscoveryAllowed DiscoveryPost :=
    h.follow.turn who
  rw [LoggedPool.turn_call _ hcall, hafter] at hfollow ⊢
  refine ⟨hfollow, hcached, fun other => ?_⟩
  by_cases hother : other = who
  · subst hother
    simpa using hown
  · simp only [Function.update_of_ne hother, hothers other hother]
    exact (h.inStep other).later hversions hle

/-- A turn that neither reads nor writes the catalog. -/
theorem Consistent.turn_other (h : Consistent world pool) {request : DiscoveryCall}
    {next : Except PyException request.Reply → DiscoveryProgram ListVAResponse}
    (hcall : pool.programs who = .call request next) (hother : ¬ request.Refreshes) :
    Consistent world (pool.turn (world.answer who) who) := by
  have hstate : ∃ rest, (world.answer who request pool.state).2 =
      { pool.state with rest := rest } := answer_of_other hother
  obtain ⟨rest, hrest⟩ := hstate
  have hsame : InStep world { pool.state with rest := rest } (pool.state.readAt who)
      (pool.histories who) :=
    (h.inStep who).later (fun _ _ hcatalog => hcatalog) le_rfl
  apply h.of_turn hcall hrest h.cached
  · exact hsame.other hother _
  · intro other _
    rfl
  · intro version entries hcatalog
    exact hcatalog
  · exact le_rfl

/-- A turn that reads the catalog. -/
theorem Consistent.turn_listAgents (h : Consistent world pool)
    {next : Except PyException (List VirtualAgentCatalogEntry) → DiscoveryProgram ListVAResponse}
    (hcall : pool.programs who = .call DiscoveryCall.listAgents next) :
    Consistent world (pool.turn (world.answer who) who) := by
  apply h.of_turn hcall rfl h.cached
  · have hread : (world.answer who .listAgents pool.state).2.readAt who =
        some pool.state.version := Function.update_self ..
    rw [hread]
    apply InStep.listAgents (h.follow.allowed_of_call hcall)
    intro entries hentries
    exact ⟨pool.state.stored, List.getElem?_concat_length, hentries⟩
  · intro other hother
    exact Function.update_of_ne hother ..
  · intro version entries hcatalog
    exact hcatalog
  · exact le_rfl

/-- A turn that writes the catalog in order. -/
theorem Consistent.turn_setVirtualAgentCatalog (h : Consistent world pool)
    (horder : WritesInOrder pool who) {entries : List VirtualAgentCatalogEntry}
    {next : Except PyException Unit → DiscoveryProgram ListVAResponse}
    (hcall : pool.programs who = .call (DiscoveryCall.setVirtualAgentCatalog entries) next) :
    Consistent world (pool.turn (world.answer who) who) := by
  obtain ⟨earlier, hearlier⟩ := h.follow.allowed_of_call hcall
  obtain ⟨version, hread, hcatalog⟩ := (h.inStep who).read entries earlier hearlier
  have hnext : (pool.programs who).nextCall? = some (.setVirtualAgentCatalog entries) := by
    rw [hcall]
    rfl
  have hle : pool.state.cachedAt ≤ version := horder entries hnext version hread
  have hsame : InStep world { pool.state with cached := entries, cachedAt := version }
      (pool.state.readAt who) (pool.histories who) :=
    (h.inStep who).later (fun _ _ hcatalog => hcatalog) hle
  apply h.of_turn hcall (answer_setVirtualAgentCatalog hread) hcatalog
  · exact hsame.setVirtualAgentCatalog hread hcatalog le_rfl _
  · intro other _
    rfl
  · intro version entries hcatalog
    exact hcatalog
  · exact hle

/-- Every turn that writes in order keeps the server consistent. -/
theorem Consistent.turn (h : Consistent world pool) (horder : WritesInOrder pool who) :
    Consistent world (pool.turn (world.answer who) who) := by
  cases hprogram : pool.programs who with
  | finish result =>
      rw [LoggedPool.turn_finish _ hprogram]
      exact h
  | call request next =>
      cases request with
      | listAgents => exact h.turn_listAgents hprogram
      | setVirtualAgentCatalog entries => exact h.turn_setVirtualAgentCatalog horder hprogram
      | verifyContext metadata => exact h.turn_other hprogram id
      | virtualAgentCatalog => exact h.turn_other hprogram id
      | handlers eventName => exact h.turn_other hprogram id
      | awaitHandler handler args => exact h.turn_other hprogram id
      | runInThread handler args => exact h.turn_other hprogram id

theorem Consistent.step (h : Consistent world pool) (event : ServerEvent ι κ)
    (horder : InOrder pool event) : Consistent world (world.step pool event) := by
  cases event with
  | turn who => exact h.turn horder
  | mutate change => exact h.mutate change
  | sessionStart virtualAgentId => exact h

omit [DecidableEq ι] in
theorem sessionStartWarning_of_mem {catalog : List VirtualAgentCatalogEntry} {agentId : String}
    (h : agentId ∈ catalogIdSet catalog) : sessionStartWarning catalog (some agentId) = none :=
  if_neg fun hmissing => hmissing.2 h

omit [DecidableEq ι] in
/-- A consistent server checks its sessions against no older catalog than one that a
discovery has returned. -/
theorem Consistent.checksNoOlderCatalog (h : Consistent world pool)
    (virtualAgentId : Option String) : ChecksNoOlderCatalog world pool virtualAgentId := by
  rintro who version response ⟨hfinish, hread⟩
  rcases h.follow.post_of_finish hfinish response rfl with ⟨catalog, hwrote, rfl⟩ | hnone
  · obtain ⟨written, hwritten, hle, hcatalog⟩ := (h.inStep who).wrote catalog hwrote
    obtain rfl : version = written := Option.some.inj (hread.symm.trans hwritten)
    refine ⟨⟨catalog, hcatalog, rfl⟩, ⟨pool.state.cachedAt, hle, h.cached⟩, ?_⟩
    rintro agent - rfl hsince
    exact sessionStartWarning_of_mem (hsince _ _ hle h.cached)
  · rw [(h.inStep who).unread hnone] at hread
    cases hread

end Turn

/-- While no discovery writes a catalog that is older than the cached one, every
session is checked against a catalog no older than any that a discovery has returned
before. -/
theorem catalog_never_goes_back {ι κ σ : Type} [DecidableEq ι] (world : ServerWorld κ σ)
    (config : MediaConfig) (incoming : ι → IncomingDiscovery) (stored : κ)
    (cached : List VirtualAgentCatalogEntry) (rest : σ) (events : List (ServerEvent ι κ))
    (hcached : world.listAgents stored = .ok cached)
    (horder : ∀ before event after, events = before ++ event :: after →
      InOrder (world.run (startedServer config incoming stored cached rest) before) event) :
    ∀ before virtualAgentId after, events = before ++ .sessionStart virtualAgentId :: after →
      ChecksNoOlderCatalog world
        (world.run (startedServer config incoming stored cached rest) before) virtualAgentId := by
  intro before virtualAgentId after hevents
  have hconsistent := holds_of_safe (fun pool event h => h.step event)
    (consistent_started config incoming rest hcached) horder before _ hevents
  exact hconsistent.checksNoOlderCatalog virtualAgentId

/-! ## The repository in DynamoDB -/

/-- The server with its catalog in the table, and an application without handlers. -/
def tableWorld (paging : Paging) : ServerWorld Table Unit where
  verify _ rest := (.ok (), rest)
  listAgents table := (listAgents.exec (perform paging) table).1
  handlers _ _ := []
  invoke _ _ rest := (.ok (), rest)

/-- The discovery reads what `list_agents` of the repository returns, and like it
leaves the table as it is. -/
theorem tableWorld_listAgents (paging : Paging) (table : Table) :
    (tableWorld paging).discovery.listAgents table =
      listAgents.exec (perform paging) table := by
  have hreads : listAgents.Maintains (perform paging) fun later => later = table :=
    maintains_of_reads listFromTable_reads
  exact Prod.ext rfl (hreads.exec rfl).symm

/-! ## Two discoveries and a new agent -/

/-- An agent that is there from the start. -/
def helpDesk : VirtualAgentCatalogEntry := ⟨"help-desk", "Help desk", true⟩

/-- An agent that is added later. -/
def nightShift : VirtualAgentCatalogEntry := ⟨"night-shift", "Night shift", false⟩

/-- A table that holds the first agent. -/
def helpDeskTable : Table := ((writeEntries noon [helpDesk] true).exec dynamo ∅).2

/-- `save_agent` of the later agent, from start to end. -/
def addNightShift (table : Table) : Table :=
  (((Mutation.saveAgent nightShift).program noon).exec dynamo table).2

/-- Two discoveries on a server that verifies no tokens. -/
def twoDiscoveries : DiscoveryPool Bool Table Unit :=
  startedServer ⟨false, 8000⟩ (fun _ => ⟨[], ⟨"", false⟩, noon⟩) helpDeskTable [helpDesk] ()

/-- The first discovery has returned before the second one reads. -/
def inTurn : List (ServerEvent Bool Table) :=
  [.turn true, .turn true, .turn true, .mutate addNightShift,
    .turn false, .turn false, .turn false]

theorem catalog_never_goes_back_in_turn :
    ChecksNoOlderCatalog (tableWorld Paging.single)
      ((tableWorld Paging.single).run twoDiscoveries inTurn) (some "night-shift") := by
  apply catalog_never_goes_back (tableWorld Paging.single) _ _ _ _ _
    (inTurn ++ [.sessionStart (some "night-shift")]) (by decide) _ inTurn _ [] rfl
  simp only [inTurn, List.cons_append, List.nil_append, forall_prefix_cons]
  -- Only the second turn of each discovery writes.
  refine ⟨?_, ?_, ?_, trivial, ?_, ?_, ?_, trivial, ?_⟩
  · intro entries hnext
    cases hnext
  · intro entries hnext version hread
    exact Nat.zero_le _
  · intro entries hnext
    cases hnext
  · intro entries hnext
    cases hnext
  · intro entries hnext version hread
    exact Nat.zero_le _
  · intro entries hnext
    cases hnext
  · intro before event after hevents
    simp at hevents

/-- The first discovery reads, and writes only after the second one has returned. -/
def overtaken : List (ServerEvent Bool Table) :=
  [.turn true, .mutate addNightShift, .turn false, .turn false, .turn false, .turn true]

/-- An agent that a discovery has returned and nobody has removed is reported as
missing. -/
theorem overtaken_discovery_forgets_agent :
    let pool := (tableWorld Paging.single).run twoDiscoveries overtaken
    Returned pool false 1 (listedAgents [helpDesk, nightShift]) ∧
      (tableWorld Paging.single).InStoreSince pool.state 1 "night-shift" ∧
      sessionStartWarning pool.state.cached (some "night-shift") =
        some ("virtual_agent_id=night-shift not found in catalog — " ++
          "session continues with catalog_match=false") ∧
      ¬ ChecksNoOlderCatalog (tableWorld Paging.single) pool (some "night-shift") := by
  intro pool
  have hreturned : Returned pool false 1 (listedAgents [helpDesk, nightShift]) := ⟨rfl, rfl⟩
  have hsince : (tableWorld Paging.single).InStoreSince pool.state 1 "night-shift" := by
    rintro later entries hle ⟨content, hcontent, hlist⟩
    have hcontents : pool.state.contents = [helpDeskTable, addNightShift helpDeskTable] := rfl
    rw [hcontents] at hcontent
    obtain ⟨hlt, hcontent⟩ := List.getElem?_eq_some_iff.mp hcontent
    obtain rfl : later = 1 := by
      simp at hlt
      omega
    have hnow : (tableWorld Paging.single).listAgents (addNightShift helpDeskTable) =
        .ok [helpDesk, nightShift] := by decide
    obtain rfl : [helpDesk, nightShift] = entries :=
      Except.ok.inj (hnow.symm.trans ((congrArg _ hcontent).trans hlist))
    decide
  refine ⟨hreturned, hsince, by decide, fun hchecks => ?_⟩
  have hnone := (hchecks false 1 _ hreturned).2.2 ⟨"night-shift", "Night shift", false⟩
    (by decide) rfl hsince
  revert hnone
  decide

end ByodsServer
