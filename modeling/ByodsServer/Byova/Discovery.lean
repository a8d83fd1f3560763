/-
# Agent discovery

`ListVirtualAgents` with `refresh_catalog` and the dispatch of its event. The catalog
repository, the attributes of the media server, the verification of tokens and the
application's handlers are called; the server state keeps the stored catalog, the
cached one and everything else apart.
-/

import ByodsServer.Byova.Catalog
import ByodsServer.Byova.SdkPatch
import ByodsServer.Python.DateTime

namespace ByodsServer

open Effects Python

/-! ## The call and its answer -/

/-- `context.invocation_metadata()`. -/
abbrev InvocationMetadata := List (String × String)

/-- `dict(metadata).get(name)`: the last pair of a name counts. -/
def InvocationMetadata.get? (metadata : InvocationMetadata) (name : String) : Option String :=
  metadata.reverse.lookup name

/-- There is an authorization, and it is not empty. -/
def InvocationMetadata.hasAuthorization (metadata : InvocationMetadata) : Bool :=
  (metadata.get? "authorization").any fun value => value ≠ ""

/-- `ListVARequest`. -/
structure ListVARequest where
  customerOrgId : String
  isDefaultVirtualAgentEnabled : Bool

/-- `VirtualAgentInfo`. -/
structure VirtualAgentInfo where
  virtualAgentId : String
  virtualAgentName : String
  isDefault : Bool
  deriving DecidableEq, Repr

/-- `ListVAResponse`. -/
structure ListVAResponse where
  virtualAgents : List VirtualAgentInfo := []
  deriving DecidableEq, Repr

/-- `ListVirtualAgentsEvent`. -/
structure ListVirtualAgentsEvent where
  customerOrgId : Option String
  isDefaultVirtualAgentEnabled : Bool
  agentCount : ℕ
  agentNames : List String
  trackingId : Option String
  timestamp : DateTime

/-- A handler that the application has registered, with the names of its parameters. -/
structure EventHandler where
  name : String
  parameters : List String
  isCoroutineFunction : Bool

/-- The keyword arguments of a handler. -/
abbrev HandlerArgs := List (String × ListVirtualAgentsEvent)

/-- The calls of the discovery. -/
inductive DiscoveryCall
  | verifyContext (metadata : InvocationMetadata)
  | listAgents
  | setVirtualAgentCatalog (entries : List VirtualAgentCatalogEntry)
  | virtualAgentCatalog
  | handlers (eventName : String)
  | awaitHandler (handler : EventHandler) (args : HandlerArgs)
  | runInThread (handler : EventHandler) (args : HandlerArgs)

/-- What each call answers. -/
@[reducible]
def DiscoveryCall.Reply : DiscoveryCall → Type
  | listAgents | virtualAgentCatalog => List VirtualAgentCatalogEntry
  | handlers _ => List EventHandler
  | _ => Unit

/-- The calls of the discovery as something a program can call. -/
def discoveryCalls : Signature where
  Call := DiscoveryCall
  Reply := DiscoveryCall.Reply

/-- A coroutine of the discovery. -/
abbrev DiscoveryProgram := Program discoveryCalls PyException

/-- One call. -/
def callDiscovery (request : DiscoveryCall) : DiscoveryProgram request.Reply :=
  Program.await (S := discoveryCalls) request

/-! ## The discovery -/

/-- `refresh_catalog`. -/
def refreshCatalog : DiscoveryProgram (List VirtualAgentCatalogEntry) := do
  let entries ← callDiscovery .listAgents
  callDiscovery (.setVirtualAgentCatalog entries)
  return entries

/-- A handler gets the event under the parameters that ask for it. -/
def handlerArgs (handler : EventHandler) (event : ListVirtualAgentsEvent) : HandlerArgs :=
  (handler.parameters.filter fun name => name = "event" ∨ name = "evt").map fun name =>
    (name, event)

/-- `_dispatch_list_virtual_agents`. -/
def dispatchListVirtualAgents (event : ListVirtualAgentsEvent) : DiscoveryProgram Unit := do
  let handlers ← callDiscovery (.handlers "list_virtual_agents")
  Program.forEach handlers fun handler =>
    if handler.isCoroutineFunction then
      callDiscovery (.awaitHandler handler (handlerArgs handler event))
    else callDiscovery (.runInThread handler (handlerArgs handler event))

section ListVirtualAgents

variable (hasRefresh : Bool) (metadata : InvocationMetadata) (request : ListVARequest)
  (now : DateTime)

/-- `ListVirtualAgents` once the caller is let in; the server has a refresh function or
not. -/
def answerWithCatalog : DiscoveryProgram ListVAResponse := do
  let catalog ← if hasRefresh then refreshCatalog else callDiscovery .virtualAgentCatalog
  dispatchListVirtualAgents {
    customerOrgId := if request.customerOrgId = "" then none else some request.customerOrgId
    isDefaultVirtualAgentEnabled := request.isDefaultVirtualAgentEnabled
    agentCount := catalog.length
    agentNames := catalog.map VirtualAgentCatalogEntry.virtualAgentName
    trackingId := metadata.get? "trackingid"
    timestamp := now }
  return ⟨catalog.map fun entry =>
    ⟨entry.virtualAgentId, entry.virtualAgentName, entry.isDefault⟩⟩

/-- `ListVirtualAgents`. Health checks come without an authorization and get an empty
answer. -/
def listVirtualAgents (config : MediaConfig) : DiscoveryProgram ListVAResponse :=
  if config.verifyTokens then
    if metadata.hasAuthorization then do
      callDiscovery (.verifyContext metadata)
      answerWithCatalog hasRefresh metadata request now
    else return {}
  else answerWithCatalog hasRefresh metadata request now

end ListVirtualAgents

/-! ## The server's state -/

/-- The stored catalog, the cached one, and everything else. -/
structure DiscoveryState (κ σ : Type) where
  stored : κ
  cached : List VirtualAgentCatalogEntry
  rest : σ

/-- What the calls lead to: the verification of tokens knows nothing of the catalog,
and handlers may do anything. -/
structure DiscoveryWorld (κ σ : Type) where
  verify : InvocationMetadata → σ → Except PyException Unit × σ
  listAgents : κ → Except PyException (List VirtualAgentCatalogEntry) × κ
  handlers : String → σ → List EventHandler
  invoke : EventHandler → HandlerArgs → DiscoveryState κ σ →
    Except PyException Unit × DiscoveryState κ σ

/-- The answers of a world. -/
def DiscoveryWorld.perform {κ σ : Type} (world : DiscoveryWorld κ σ) :
    Handler discoveryCalls PyException (DiscoveryState κ σ)
  | .verifyContext metadata, state =>
      ((world.verify metadata state.rest).1,
        { state with rest := (world.verify metadata state.rest).2 })
  | .listAgents, state =>
      ((world.listAgents state.stored).1,
        { state with stored := (world.listAgents state.stored).2 })
  | .setVirtualAgentCatalog entries, state => (.ok (), { state with cached := entries })
  | .virtualAgentCatalog, state => (.ok state.cached, state)
  | .handlers eventName, state => (.ok (world.handlers eventName state.rest), state)
  | .awaitHandler handler args, state => world.invoke handler args state
  | .runInThread handler args, state => world.invoke handler args state

end ByodsServer
