/-
# The lifetime of the app

The lifespan from end to end: the start, the time in which the app serves, and the shutdown
after the `yield`. Nothing around them closes what is open when a call raises, so what is left
open is what was open at the last call.
-/

import ByodsServer.Effects.Attribution
import ByodsServer.Effects.Resources
import ByodsServer.Effects.Sessions
import ByodsServer.Main

namespace ByodsServer

open Effects Python

/-- The calls of a lifetime: those of the start, the serving, and those of the shutdown. -/
inductive LifetimeCall
  | startup (request : StartupCall)
  | serve
  | stopMediaServer
  | acloseSdk

/-- What each call answers. -/
@[reducible]
def LifetimeCall.Reply : LifetimeCall → Type
  | startup request => request.Reply
  | _ => Unit

/-- The calls as something a program can call. -/
def lifetimeCalls : Signature where
  Call := LifetimeCall
  Reply := LifetimeCall.Reply

/-- The coroutine of a lifetime. -/
abbrev LifetimeProgram := Program lifetimeCalls PyException

/-- One call of a lifetime. -/
def callLifetime (request : LifetimeCall) : LifetimeProgram request.Reply :=
  Program.await (S := lifetimeCalls) request

/-- The start, as part of a lifetime. -/
def liftStartup {α : Type} (p : StartupProgram α) : LifetimeProgram α :=
  p.translate fun request => callLifetime (.startup request)

section Lifetime

variable (settings : Settings)

/-- `PersistenceResources.aclose`. -/
def persistenceAclose : LifetimeProgram Unit := return ()

/-- The media server is stopped if there is one. -/
def stopMedia : LifetimeProgram Unit :=
  if settings.mediaEnabled then callLifetime .stopMediaServer else return ()

/-- `lifespan` after its `yield`. -/
def shutdown : LifetimeProgram Unit := do
  stopMedia settings
  callLifetime .acloseSdk
  persistenceAclose

/-- `lifespan`, where the app serves at the `yield`. -/
def lifetime : LifetimeProgram Unit := do
  let _ ← liftStartup (lifespan settings)
  callLifetime .serve
  shutdown settings

end Lifetime

/-! ## What is open -/

/-- What a lifetime opens. -/
inductive AppResource
  | sdk
  | mediaServer
  deriving DecidableEq, Repr

/-- What a call of the start opens when it is answered. -/
def startupChange : ResourceChange startupCalls PyException AppResource
  | ⟨.createSdk, .ok _⟩, .sdk => some true
  | ⟨.startMediaServer, .ok _⟩, .mediaServer => some true
  | _, _ => none

/-- What a call opens or closes. The SDK is closed once it was asked to; a media server that
could not be stopped still runs. -/
def lifetimeChange : ResourceChange lifetimeCalls PyException AppResource
  | ⟨.startup request, reply⟩, resource => startupChange ⟨request, reply⟩ resource
  | ⟨.stopMediaServer, .ok _⟩, .mediaServer => some false
  | ⟨.acloseSdk, _⟩, .sdk => some false
  | _, _ => none

/-- What is open when a call of the start is made. -/
def openAtStart : StartupCall → AppResource → Bool
  | .createPersistenceResources, _ => false
  | .createSdk, _ => false
  | _, resource => resource = .sdk

/-- What is open when a call is made. -/
def openAt (settings : Settings) : LifetimeCall → AppResource → Bool
  | .startup request, resource => openAtStart request resource
  | .serve, .sdk => true
  | .serve, .mediaServer => settings.mediaEnabled
  | .stopMediaServer, _ => true
  | .acloseSdk, resource => resource = .sdk

/-- What is left open by a call that raises. -/
def leftOpen (settings : Settings) : LifetimeCall → AppResource → Bool
  | .acloseSdk, _ => false
  | request, resource => openAt settings request resource

/-! ## The start -/

section Start

variable (settings : Settings)

/-- A call of the start that opens nothing, made when the SDK is there. -/
def Plain (request : StartupCall) : Prop :=
  ∀ resource, openAtStart request resource = decide (resource = .sdk) ∧
    ∀ reply, startupChange ⟨request, reply⟩ resource = none

theorem plain_integration (request : IntegrationCall) : Plain (.integration request) :=
  fun _ => ⟨rfl, fun _ => rfl⟩

theorem plain_table (request : TableCall) : Plain (.table request) := fun _ => ⟨rfl, fun _ => rfl⟩

theorem plain_ensureSeeded : Plain .ensureSeeded := fun _ => ⟨rfl, fun _ => rfl⟩

theorem plain_createMediaServer : Plain .createMediaServer := fun _ => ⟨rfl, fun _ => rfl⟩

/-- Only the SDK is open. -/
def OnlySdk (history : History startupCalls PyException) : Prop :=
  ∀ resource, isOpen startupChange history resource = decide (resource = .sdk)

/-- The call finds open what it should. -/
def OpensInOrder (history : History startupCalls PyException) (request : StartupCall) : Prop :=
  ∀ resource, isOpen startupChange history resource = openAtStart request resource

theorem OnlySdk.inOrder {history : History startupCalls PyException} (h : OnlySdk history)
    {request : StartupCall} (hplain : Plain request) : OpensInOrder history request :=
  fun resource => (h resource).trans (hplain resource).1.symm

theorem OnlySdk.after {history : History startupCalls PyException} (h : OnlySdk history)
    {request : StartupCall} (hplain : Plain request)
    (reply : Except PyException (startupCalls.Reply request)) :
    OnlySdk (⟨request, reply⟩ :: history) :=
  OnlyOpen.later h fun resource => (hplain resource).2 reply

/-- Plain calls keep the SDK open and nothing else. -/
theorem follows_of_plain {α : Type} {p : StartupProgram α} (huses : p.Uses Plain)
    {history : History startupCalls PyException} (h : OnlySdk history) :
    p.Follows OpensInOrder (fun history _ => OnlySdk history) history :=
  huses.follows (fun _ _ hplain honly => honly.inOrder hplain)
    (fun _ _ reply hplain honly => honly.after hplain reply) h

theorem ensureAtStartup_plain (integrationReady : Bool) :
    (ensureAtStartup settings integrationReady).Uses Plain := by
  rw [ensureAtStartup]
  generalize ensureServiceAppWebhooksIfConfigured settings = ensure
  apply Program.Uses.ite
  · intro _
    exact Program.uses_translate (S := integrationCalls) (T := startupCalls)
      (fun request => Program.uses_await (S := startupCalls) (plain_integration request)) ensure
  · exact fun _ => trivial

theorem checkPersistence_plain : (checkPersistence settings).Uses Plain := by
  rw [checkPersistence]
  apply Program.Uses.ite
  · intro _
    exact Program.uses_translate (S := tableCalls) (T := startupCalls)
      (fun request => Program.uses_await (S := startupCalls) (plain_table request))
      checkTableReachable
  · exact fun _ => trivial

/-- What a start that succeeds leaves open. -/
def StartedOpen (history : History startupCalls PyException) : Prop :=
  ∀ resource, isOpen startupChange history resource = openAt settings .serve resource

theorem startMedia_opens {history : History startupCalls PyException} (h : OnlySdk history) :
    (startMedia settings).Follows OpensInOrder
      (fun history result => ∀ done, result = .ok done → StartedOpen settings history) history := by
  rw [startMedia]
  cases hmedia : settings.mediaEnabled with
  | false =>
      intro _ _ resource
      rw [h resource]
      cases resource with
      | sdk => rfl
      | mediaServer => exact hmedia.symm
  | true =>
      refine ⟨h.inOrder plain_ensureSeeded, fun seeded => ?_⟩
      have hseeded := h.after plain_ensureSeeded seeded
      cases seeded with
      | error e => rintro _ ⟨⟩
      | ok done =>
          refine ⟨hseeded.inOrder plain_createMediaServer, fun created => ?_⟩
          have hcreated := hseeded.after plain_createMediaServer created
          cases created with
          | error e => rintro _ ⟨⟩
          | ok done =>
              refine ⟨fun resource => hcreated resource, fun started => ?_⟩
              cases started with
              | error e => rintro _ ⟨⟩
              | ok done =>
                  intro _ _ resource
                  cases resource with
                  | sdk => exact (isOpen_cons_of_none rfl).trans (hcreated .sdk)
                  | mediaServer => exact (isOpen_cons_of_some rfl).trans hmedia.symm

theorem lifespan_opens :
    (lifespan settings).Follows OpensInOrder
      (fun history result => ∀ app, result = .ok app → StartedOpen settings history) [] := by
  refine ⟨fun resource => rfl, fun created => ?_⟩
  cases created with
  | error e => rintro _ ⟨⟩
  | ok resources =>
      refine ⟨fun resource => rfl, fun created => ?_⟩
      cases created with
      | error e => rintro _ ⟨⟩
      | ok sdk =>
          have honly : OnlySdk
              [⟨.createSdk, .ok sdk⟩, ⟨.createPersistenceResources, .ok resources⟩] := by
            intro resource
            cases resource <;> rfl
          have hbootstrap : (liftIntegration (bootstrapIntegration settings)).Uses Plain :=
            Program.uses_translate (S := integrationCalls) (T := startupCalls)
              (fun request => Program.uses_await (S := startupCalls) (plain_integration request)) _
          refine (follows_of_plain hbootstrap honly).resume fun history ready honly => ?_
          cases ready with
          | error e => rintro _ ⟨⟩
          | ok integrationReady =>
              refine (follows_of_plain (ensureAtStartup_plain settings integrationReady)
                honly).resume fun history ensured honly => ?_
              cases ensured with
              | error e => rintro _ ⟨⟩
              | ok done =>
                  refine (follows_of_plain (checkPersistence_plain settings)
                    honly).resume fun history checked honly => ?_
                  cases checked with
                  | error e => rintro _ ⟨⟩
                  | ok persistenceReady =>
                      refine (startMedia_opens settings honly).resume
                        fun history started hopen => ?_
                      cases started with
                      | error e => rintro _ ⟨⟩
                      | ok done => exact fun _ _ => hopen _ rfl

end Start

/-! ## What a start raises -/

section Raises

variable (settings : Settings) (last : Option PyException)

theorem loadIntegrationTokens_raisesLast : (loadIntegrationTokens settings).RaisesLast last := by
  apply Program.RaisesLast.bind (Program.raisesLast_await (S := integrationCalls) _ last)
  intro stored last
  apply Program.RaisesLast.ite
  · apply Program.RaisesLast.bind (Program.raisesLast_await (S := integrationCalls) _ last)
    exact fun _ last => Program.raisesLast_pure true last
  · apply Program.RaisesLast.ite
    · apply Program.RaisesLast.bind (Program.raisesLast_await (S := integrationCalls) _ last)
      exact fun _ last => Program.raisesLast_pure true last
    · exact Program.raisesLast_pure false last

theorem bootstrapIntegration_raisesLast : (bootstrapIntegration settings).RaisesLast last := by
  apply Program.RaisesLast.tryCatch (loadIntegrationTokens_raisesLast settings last)
  intro e
  cases e with
  | authenticationError message => exact Program.raisesLast_pure false _
  | _ =>
      rintro _ ⟨⟩
      rfl

theorem ensureServiceAppWebhooksIfConfigured_raisesLast :
    (ensureServiceAppWebhooksIfConfigured settings).RaisesLast last := by
  rw [ensureServiceAppWebhooksIfConfigured]
  apply Program.RaisesLast.ite
  · exact Program.raisesLast_pure () last
  · apply Program.RaisesLast.bind (Program.raisesLast_await (S := integrationCalls) _ last)
    exact fun _ last => Program.raisesLast_pure () last

theorem checkTableReachable_raisesLast : checkTableReachable.RaisesLast last := by
  apply Program.RaisesLast.tryCatch
  · refine Program.RaisesLast.bind ?_ fun _ last => Program.raisesLast_pure true last
    exact Program.raisesLast_await (S := tableCalls) _ last
  · intro e
    cases e with
    | clientError message => exact Program.raisesLast_pure false _
    | botoCoreError message => exact Program.raisesLast_pure false _
    | osError message => exact Program.raisesLast_pure false _
    | _ =>
        rintro _ ⟨⟩
        rfl

theorem liftIntegration_raisesLast {α : Type} {p : IntegrationProgram α}
    (h : p.RaisesLast last) : (liftIntegration p).RaisesLast last :=
  h.translate (T := startupCalls) fun _ last =>
    Program.raisesLast_await (S := startupCalls) _ last

theorem lifespan_raisesLast : (lifespan settings).RaisesLast last := by
  have hcall (request : StartupCall) (last : Option PyException) :
      (callStartup request).RaisesLast last :=
    Program.raisesLast_await (S := startupCalls) request last
  apply Program.RaisesLast.bind (hcall _ last)
  intro _ last
  apply Program.RaisesLast.bind (hcall _ last)
  intro _ last
  apply Program.RaisesLast.bind
    (liftIntegration_raisesLast last (bootstrapIntegration_raisesLast settings last))
  intro integrationReady last
  apply Program.RaisesLast.bind
  · rw [ensureAtStartup]
    have hensure := ensureServiceAppWebhooksIfConfigured_raisesLast settings last
    generalize ensureServiceAppWebhooksIfConfigured settings = ensure at hensure ⊢
    apply Program.RaisesLast.ite
    · exact liftIntegration_raisesLast last hensure
    · exact Program.raisesLast_pure () last
  intro _ last
  apply Program.RaisesLast.bind
  · rw [checkPersistence]
    apply Program.RaisesLast.ite
    · exact (checkTableReachable_raisesLast last).translate (T := startupCalls)
        fun request last => hcall _ last
    · exact Program.raisesLast_pure true last
  intro persistenceReady last
  apply Program.RaisesLast.bind
  · rw [startMedia]
    apply Program.RaisesLast.ite
    · apply Program.RaisesLast.bind (hcall _ last)
      intro _ last
      apply Program.RaisesLast.bind (hcall _ last)
      exact fun _ last => hcall _ last
    · exact Program.raisesLast_pure () last
  exact fun _ last => Program.raisesLast_pure _ last

theorem lifetime_raisesLast : (lifetime settings).RaisesLast last := by
  have hcall (request : LifetimeCall) (last : Option PyException) :
      (callLifetime request).RaisesLast last :=
    Program.raisesLast_await (S := lifetimeCalls) request last
  apply Program.RaisesLast.bind
  · exact (lifespan_raisesLast settings last).translate (T := lifetimeCalls)
      fun request last => hcall _ last
  intro _ last
  apply Program.RaisesLast.bind (hcall _ last)
  intro _ last
  apply Program.RaisesLast.bind (p := stopMedia settings)
  · apply Program.RaisesLast.ite
    · exact hcall _ last
    · exact Program.raisesLast_pure () last
  intro _ last
  apply Program.RaisesLast.bind (hcall _ last)
  exact fun _ last => Program.raisesLast_pure () last

end Raises

/-! ## Every run -/

section Runs

variable (settings : Settings)

/-- The call finds open what it should. -/
def FindsOpen (history : History lifetimeCalls PyException) (request : LifetimeCall) : Prop :=
  ∀ resource, isOpen lifetimeChange history resource = openAt settings request resource

/-- A call of the start, as one of the lifetime. -/
def answeredAtStart (answered : Answered startupCalls PyException) :
    Answered lifetimeCalls PyException :=
  ⟨.startup answered.1, answered.2⟩

theorem isOpen_atStart (history : History startupCalls PyException) (resource : AppResource) :
    isOpen lifetimeChange (history.map answeredAtStart) resource =
      isOpen startupChange history resource :=
  isOpen_map (fun _ _ => rfl) history resource

theorem liftStartup_opens :
    (liftStartup (lifespan settings)).Follows (FindsOpen settings)
      (fun history result => ∀ app, result = .ok app → FindsOpen settings history .serve) [] := by
  refine ((lifespan_opens settings).translate (T := lifetimeCalls)
    (R := fun history other => other = history.map answeredAtStart)
    (f := fun request => callLifetime (.startup request)) ?_ rfl).mono ?_
  · rintro request history _ hinOrder rfl
    exact ⟨fun resource => (isOpen_atStart history resource).trans (hinOrder resource),
      fun reply => rfl⟩
  · rintro _ result ⟨history, rfl, hstarted⟩ app hresult resource
    exact (isOpen_atStart history resource).trans (hstarted app hresult resource)

theorem lifetime_opens :
    (lifetime settings).Follows (FindsOpen settings)
      (fun history result => result = .ok () →
        ∀ resource, isOpen lifetimeChange history resource = false) [] := by
  have hclose {history : History lifetimeCalls PyException}
      (h : FindsOpen settings history .acloseSdk) :
      (callLifetime .acloseSdk >>= fun _ => persistenceAclose).Follows (FindsOpen settings)
        (fun history result => result = .ok () →
          ∀ resource, isOpen lifetimeChange history resource = false) history := by
    refine ⟨h, fun closed => ?_⟩
    cases closed with
    | error e => rintro ⟨⟩
    | ok done =>
        intro _ resource
        cases resource with
        | sdk => exact isOpen_cons_of_some rfl
        | mediaServer => exact (isOpen_cons_of_none rfl).trans (h .mediaServer)
  refine (liftStartup_opens settings).resume fun history result hopen => ?_
  cases result with
  | error e => rintro ⟨⟩
  | ok app =>
      have hserve := hopen app rfl
      refine ⟨hserve, fun served => ?_⟩
      cases served with
      | error e => rintro ⟨⟩
      | ok done =>
          have hserved (resource : AppResource) :
              isOpen lifetimeChange (⟨.serve, .ok done⟩ :: history) resource =
                openAt settings .serve resource :=
            (isOpen_cons_of_none rfl).trans (hserve resource)
          show (stopMedia settings >>= fun _ => callLifetime .acloseSdk >>= fun _ =>
            persistenceAclose).Follows _ _ _
          rw [stopMedia]
          cases hmedia : settings.mediaEnabled with
          | false =>
              refine hclose fun resource => (hserved resource).trans ?_
              cases resource with
              | sdk => rfl
              | mediaServer => exact hmedia
          | true =>
              refine ⟨fun resource => (hserved resource).trans ?_, fun stopped => ?_⟩
              · cases resource with
                | sdk => rfl
                | mediaServer => exact hmedia
              · cases stopped with
                | error e => rintro ⟨⟩
                | ok done =>
                    refine hclose fun resource => ?_
                    cases resource with
                    | sdk => exact (isOpen_cons_of_none rfl).trans (hserved .sdk)
                    | mediaServer => exact isOpen_cons_of_some rfl

variable {settings} in
/-- A call that raises opens nothing. -/
theorem FindsOpen.leftOpen {history : History lifetimeCalls PyException} {request : LifetimeCall}
    (h : FindsOpen settings history request) (e : PyException) (resource : AppResource) :
    isOpen lifetimeChange (⟨request, .error e⟩ :: history) resource =
      ByodsServer.leftOpen settings request resource := by
  cases request with
  | startup request =>
      have hnone : lifetimeChange ⟨.startup request, .error e⟩ resource = none := by
        cases request <;> rfl
      exact (isOpen_cons_of_none hnone).trans (h resource)
  | serve => exact (isOpen_cons_of_none rfl).trans (h resource)
  | stopMediaServer => exact (isOpen_cons_of_none rfl).trans (h resource)
  | acloseSdk =>
      cases resource with
      | sdk => exact isOpen_cons_of_some rfl
      | mediaServer => exact (isOpen_cons_of_none rfl).trans (h .mediaServer)

/-- In every lifetime, what is open at a call is told by the call alone: the app serves with the
SDK and, if it is enabled, the media server open, and the SDK is closed after the media server
was stopped. A lifetime that ends well leaves nothing open; one that raises was raised by its
last call, and leaves open what that call found open, unless it was the closing of the SDK. -/
theorem lifetime_leaves_open {σ : Type} (handler : Handler lifetimeCalls PyException σ)
    (state : σ) :
    let run := (lifetime settings).trace handler state
    let result := ((lifetime settings).exec handler state).1
    (∀ before answered after, run = before ++ answered :: after →
      FindsOpen settings before.reverse answered.1) ∧
    (result = .ok () → ∀ resource, isOpen lifetimeChange run.reverse resource = false) ∧
    ∀ e, result = .error e → ∃ before request, run = before ++ [⟨request, .error e⟩] ∧
      ∀ resource, isOpen lifetimeChange run.reverse resource =
        leftOpen settings request resource := by
  intro run result
  have hfollows := lifetime_opens settings
  have hfinds (before : List (Answered lifetimeCalls PyException))
      (answered : Answered lifetimeCalls PyException)
      (after : List (Answered lifetimeCalls PyException))
      (hsplit : run = before ++ answered :: after) :
      FindsOpen settings before.reverse answered.1 := by
    have hallowed := hfollows.allowed_of_trace state hsplit
    rwa [List.append_nil] at hallowed
  refine ⟨hfinds, fun hok => ?_, fun e he => ?_⟩
  · have hclosed : result = .ok () → ∀ resource,
        isOpen lifetimeChange (run.reverse ++ []) resource = false :=
      hfollows.post_of_trace state
    rw [List.append_nil] at hclosed
    exact hclosed hok
  · rcases (lifetime_raisesLast settings none).of_trace he with ⟨-, hnone⟩ | ⟨before, request, hrun⟩
    · cases hnone
    · refine ⟨before, request, hrun, fun resource => ?_⟩
      have hlast : run.reverse = ⟨request, .error e⟩ :: before.reverse := by
        rw [show run = before ++ [⟨request, .error e⟩] from hrun, List.reverse_append]
        rfl
      rw [hlast]
      exact (hfinds before _ [] hrun).leftOpen e resource

end Runs

end ByodsServer
