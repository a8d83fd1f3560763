/-
# Consent outlives the process

The processes of a deployment fail at any call, and new ones are started at any time. Once a
callback has told the administrator that the tokens are saved, no later start falls back on
the refresh token of its environment.
-/

import ByodsServer.Persistence.PayloadText
import ByodsServer.Processes

namespace ByodsServer

open Effects Python

/-! ## What is asked first -/

/-- The refresh token of the environment is used once the storage has none. -/
def AsksFirst (history : History integrationCalls PyException) (request : IntegrationCall) : Prop :=
  ∀ refreshToken, request = .arefresh (some refreshToken) →
    (⟨.getIntegrationTokens, .ok none⟩ : Answered integrationCalls PyException) ∈ history

/-- The same of the calls of a start. -/
def StartAsksFirst (history : History startupCalls PyException) (request : StartupCall) : Prop :=
  ∀ refreshToken, request = .integration (.arefresh (some refreshToken)) →
    (⟨.integration .getIntegrationTokens, .ok none⟩ : Answered startupCalls PyException) ∈ history

/-- Each call is one of the start. -/
def Reflects (history : History integrationCalls PyException)
    (other : History startupCalls PyException) : Prop :=
  ∀ request reply, (⟨request, reply⟩ : Answered integrationCalls PyException) ∈ history →
    (⟨.integration request, reply⟩ : Answered startupCalls PyException) ∈ other

theorem reflects_nil (other : History startupCalls PyException) : Reflects [] other :=
  fun _ _ hmem => absurd hmem List.not_mem_nil

theorem liftIntegration_follows {α : Type} {post : History integrationCalls PyException →
      Except PyException α → Prop} {p : IntegrationProgram α}
    {history : History integrationCalls PyException} {other : History startupCalls PyException}
    (h : p.Follows AsksFirst post history) (hreflects : Reflects history other) :
    (liftIntegration p).Follows StartAsksFirst
      (fun other result => ∃ history, Reflects history other ∧ post history result) other := by
  refine h.translate (T := startupCalls) (R := Reflects)
    (f := fun request => callStartup (.integration request))
    (fun request history other hallowed hreflects => ⟨?_, fun reply => ?_⟩) hreflects
  · intro refreshToken hrequest
    exact hreflects _ _ (hallowed refreshToken (StartupCall.integration.inj hrequest))
  · rintro call answer hmem
    rcases List.mem_cons.mp hmem with heq | hbefore
    · cases heq
      exact List.mem_cons_self
    · exact List.mem_cons_of_mem _ (hreflects call answer hbefore)

theorem bootstrapIntegration_follows (settings : Settings) :
    (bootstrapIntegration settings).Follows AsksFirst (fun _ _ => True) [] := by
  have hload : (loadIntegrationTokens settings).Follows AsksFirst (fun _ _ => True) [] := by
    rw [loadIntegrationTokens]
    refine ⟨by rintro _ ⟨⟩, fun stored => ?_⟩
    cases stored with
    | error e => trivial
    | ok stored =>
        cases stored with
        | some tokens =>
            refine ⟨by rintro _ ⟨⟩, fun refreshed => ?_⟩
            cases refreshed <;> trivial
        | none =>
            show Program.Follows AsksFirst (fun _ _ => True) (if _ then _ else _) _
            split_ifs
            · refine ⟨fun _ _ => List.mem_cons_self, fun refreshed => ?_⟩
              cases refreshed <;> trivial
            · trivial
  apply hload.resume
  intro history result _
  cases result with
  | ok ready => trivial
  | error e => cases e <;> trivial

theorem lifespan_follows (settings : Settings) :
    (lifespan settings).Follows StartAsksFirst (fun _ _ => True) [] := by
  refine ⟨by rintro _ ⟨⟩, fun created => ?_⟩
  cases created with
  | error e => trivial
  | ok resources =>
      refine ⟨by rintro _ ⟨⟩, fun created => ?_⟩
      cases created with
      | error e => trivial
      | ok sdk =>
          refine (liftIntegration_follows (bootstrapIntegration_follows settings)
            (reflects_nil _)).resume fun history result _ => ?_
          cases result with
          | error e => trivial
          | ok integrationReady =>
              refine (afterBootstrap_uses settings integrationReady).follows
                (fun _ _ h _ => ?_) (fun _ _ _ _ _ => trivial) trivial
              exact fun refreshToken hrequest => (h.2 refreshToken hrequest).elim

/-! ## What a page says -/

/-- The page tells that the tokens are saved. -/
def SaysSaved (page : HtmlResponse) : Prop := page = htmlSuccess ∨ page = webhooksNotEnsured

theorem not_saysSaved_of_400 {page : HtmlResponse} (h : page.statusCode = 400) :
    ¬ SaysSaved page := by
  rintro (rfl | rfl)
  · exact absurd h (by decide)
  · exact absurd h (by decide)

/-- Two pages of failure with one status differ in their messages only. -/
theorem escapeAngles_eq_of_htmlFailure {first second : String} {status : ℕ}
    (h : htmlFailure first status = htmlFailure second status) :
    escapeAngles first = escapeAngles second := by
  have hcontent := congrArg HtmlResponse.content h
  unfold htmlFailure at hcontent
  dsimp only at hcontent
  -- the template around the message is the same, so it cancels piece by piece
  have hclosed := (String.append_left_inj _).mp hcontent
  have hfront := (String.append_left_inj _).mp ((String.append_left_inj _).mp hclosed)
  exact (String.append_right_inj _).mp hfront

theorem not_saysSaved_tokensNotSaved : ¬ SaysSaved tokensNotSaved := by
  rintro (h | h)
  · exact absurd (congrArg HtmlResponse.statusCode h) (by decide)
  · have hfirst := congrArg (fun text => text.toList.head?) (escapeAngles_eq_of_htmlFailure h)
    simp only [escapeAngles, String.toList_ofList, String.toList_append] at hfirst
    simp at hfirst

/-- A handler says so once the storage has taken the tokens. -/
theorem handleOauthCallback_follows (settings : Settings) (query : QueryParams) :
    (handleOauthCallback (setOauthDependencies settings) (.ok settings) query).Follows
      (fun _ _ => True) (fun history result => ∀ page, result = .ok page → SaysSaved page →
        ∃ tokens, (⟨.setIntegrationTokens tokens, .ok ()⟩ : Answered oauthSteps PyException) ∈
          history) [] := by
  rcases handleOauthCallback_cases settings (.ok settings) query with
    ⟨code, -, hexchange⟩ | ⟨-, page, hpage, hrefused⟩
  · rw [hexchange, exchangeCode]
    refine ⟨trivial, fun exchanged => ?_⟩
    cases exchanged with
    | error e =>
        show Program.Follows _ _ (exceptAuthenticationError codeNotExchanged e) _
        rw [exceptAuthenticationError]
        split_ifs
        · rintro _ ⟨⟩ hsaved
          exact (not_saysSaved_of_400 rfl hsaved).elim
        · rintro _ ⟨⟩
    | ok tokens =>
        refine ⟨trivial, fun persisted => ?_⟩
        cases persisted with
        | error e =>
            rintro _ ⟨⟩ hsaved
            exact (not_saysSaved_tokensNotSaved hsaved).elim
        | ok done =>
            refine ⟨trivial, fun ensured => ?_⟩
            have hmem (history : History oauthSteps PyException) :
                (⟨.setIntegrationTokens tokens, .ok ()⟩ : Answered oauthSteps PyException) ∈
                  (⟨.ensureServiceAppWebhooksIfConfigured settings, ensured⟩ ::
                    ⟨.setIntegrationTokens tokens, .ok done⟩ :: history :
                      History oauthSteps PyException) :=
              List.mem_cons_of_mem _ List.mem_cons_self
            cases ensured with
            | ok done => exact fun _ _ _ => ⟨tokens, hmem _⟩
            | error e =>
                show Program.Follows _ _ (exceptAuthenticationError webhooksNotEnsured e) _
                rw [exceptAuthenticationError]
                split_ifs
                · exact fun _ _ _ => ⟨tokens, hmem _⟩
                · rintro _ ⟨⟩
  · rw [hrefused]
    rintro _ ⟨⟩ hsaved
    exact (not_saysSaved_of_400 hpage hsaved).elim

theorem callbackProgram_follows (settings : Settings) (query : QueryParams) :
    (callbackProgram settings query).Follows AsksFirst (fun history result =>
      ∀ page, result = .ok page → SaysSaved page → ∃ tokens,
        (⟨.setIntegrationTokens tokens, .ok ()⟩ : Answered integrationCalls PyException) ∈
          history) [] := by
  refine ((handleOauthCallback_follows settings query).translate (T := integrationCalls)
    (R := fun history other => ∀ tokens,
      (⟨.setIntegrationTokens tokens, .ok ()⟩ : Answered oauthSteps PyException) ∈ history →
        (⟨.setIntegrationTokens tokens, .ok ()⟩ : Answered integrationCalls PyException) ∈ other)
    (f := OauthStep.program) ?_
    fun _ hmem => absurd hmem List.not_mem_nil).mono ?_
  · intro step history other _ hrelated
    cases step with
    | aexchangeCode code =>
        refine ⟨by rintro _ ⟨⟩, fun reply tokens hmem => ?_⟩
        rcases List.mem_cons.mp hmem with heq | hbefore
        · cases heq
        · exact List.mem_cons_of_mem _ (hrelated tokens hbefore)
    | setIntegrationTokens stored =>
        refine ⟨by rintro _ ⟨⟩, fun reply tokens hmem => ?_⟩
        rcases List.mem_cons.mp hmem with heq | hbefore
        · cases heq
          exact List.mem_cons_self
        · exact List.mem_cons_of_mem _ (hrelated tokens hbefore)
    | ensureServiceAppWebhooksIfConfigured settings =>
        have hkeep {reply : Except PyException Unit} {tokens : OAuthTokens}
            (hmem : (⟨.setIntegrationTokens tokens, .ok ()⟩ : Answered oauthSteps PyException) ∈
              (⟨.ensureServiceAppWebhooksIfConfigured settings, reply⟩ :: history :
                History oauthSteps PyException)) :
            (⟨.setIntegrationTokens tokens, .ok ()⟩ : Answered integrationCalls PyException) ∈
              other := by
          rcases List.mem_cons.mp hmem with heq | hbefore
          · cases heq
          · exact hrelated tokens hbefore
        rw [OauthStep.program, ensureServiceAppWebhooksIfConfigured]
        split_ifs
        · exact fun tokens hmem => hkeep hmem
        · refine ⟨by rintro _ ⟨⟩, fun created => ?_⟩
          cases created with
          | ok count => exact fun tokens hmem => List.mem_cons_of_mem _ (hkeep hmem)
          | error e => exact fun tokens hmem => List.mem_cons_of_mem _ (hkeep hmem)
  · rintro other result ⟨history, hrelated, hpost⟩ page hpage hsaved
    obtain ⟨tokens, hmem⟩ := hpost page hpage hsaved
    exact ⟨tokens, hrelated tokens hmem⟩

/-! ## The calls of a process -/

section Calls

variable {deployment : Deployment}

/-- The table has no credentials of the integration that can be decrypted. -/
def Deployment.Missing (deployment : Deployment) (stored : Option Item) : Prop :=
  ∀ item ∈ stored, ∀ payload, decryptItem deployment.lib deployment.key item ≠ .ok payload

/-- The table was asked for the integration's credentials, and had none. -/
def Deployment.FoundNone (deployment : Deployment) (history : History startupCalls PyException) :
    Prop :=
  ∃ stored : Option Item, deployment.Missing stored ∧
    (⟨.table (.getItem integrationKey), .ok stored⟩ : Answered startupCalls PyException) ∈ history

/-- Credentials of the integration were put. -/
def Deployment.PutCredentials (deployment : Deployment)
    (history : History startupCalls PyException) : Prop :=
  ∃ tokens attrs, deployment.EncryptedAs tokens attrs ∧
    (⟨.table (.putItem ⟨integrationKey, attrs⟩), .ok ()⟩ : Answered startupCalls PyException) ∈
      history

/-- Lasting credentials were put. -/
def Deployment.IsPut (deployment : Deployment) (answered : Answered startupCalls PyException) :
    Prop :=
  ∃ attrs, deployment.Lasting attrs ∧ answered = ⟨.table (.putItem ⟨integrationKey, attrs⟩), .ok ()⟩

/-- This is not the table's word that there are no credentials. -/
def Deployment.NotDenied (deployment : Deployment) (answered : Answered startupCalls PyException) :
    Prop :=
  ∀ stored : Option Item, answered = ⟨.table (.getItem integrationKey), .ok stored⟩ →
    ¬ deployment.Missing stored

/-- A refresh token is given once the table had no credentials. -/
def Deployment.MayFallBack (deployment : Deployment) (history : History startupCalls PyException)
    (request : StartupCall) : Prop :=
  ¬ GivesNoToken request → deployment.FoundNone history

/-- What the storage said goes with what the table said. -/
structure Mirrors (deployment : Deployment) (history other : History startupCalls PyException) :
    Prop where
  found : (⟨.integration .getIntegrationTokens, .ok none⟩ : Answered startupCalls PyException) ∈
    history → deployment.FoundNone other
  put : ∀ tokens, (⟨.integration (.setIntegrationTokens tokens), .ok ()⟩ :
    Answered startupCalls PyException) ∈ history → deployment.PutCredentials other

theorem mirrors_nil : Mirrors deployment [] [] where
  found hmem := absurd hmem List.not_mem_nil
  put _ hmem := absurd hmem List.not_mem_nil

theorem Mirrors.later {history other : History startupCalls PyException}
    (h : Mirrors deployment history other) (answered : Answered startupCalls PyException) :
    Mirrors deployment history (answered :: other) where
  found hmem := by
    obtain ⟨stored, hmissing, hasked⟩ := h.found hmem
    exact ⟨stored, hmissing, List.mem_cons_of_mem _ hasked⟩
  put tokens hmem := by
    obtain ⟨stored, attrs, hencrypted, hput⟩ := h.put tokens hmem
    exact ⟨stored, attrs, hencrypted, List.mem_cons_of_mem _ hput⟩

/-- An answer that is neither says nothing. -/
theorem Mirrors.other {history other : History startupCalls PyException}
    (h : Mirrors deployment history other) {answered : Answered startupCalls PyException}
    (hfound : answered ≠ ⟨.integration .getIntegrationTokens, .ok none⟩)
    (hput : ∀ tokens, answered ≠ ⟨.integration (.setIntegrationTokens tokens), .ok ()⟩) :
    Mirrors deployment (answered :: history) other where
  found hmem := h.found ((List.mem_cons.mp hmem).resolve_left (Ne.symm hfound))
  put tokens hmem := h.put tokens ((List.mem_cons.mp hmem).resolve_left (Ne.symm (hput tokens)))

/-- Programs on the table give no refresh token, and what was said stays said. -/
theorem liftTable_follows {α : Type} (p : TableProgram α)
    {history other : History startupCalls PyException} (h : Mirrors deployment history other) :
    (liftTable p).Follows deployment.MayFallBack
      (fun other _ => Mirrors deployment history other) other := by
  have huses : (liftTable p).Uses GivesNoToken :=
    Program.uses_translate (S := tableCalls) (T := startupCalls) (fun request =>
      show (callStartup (.table request)).Uses GivesNoToken from
        uses_callStartup (by rintro _ ⟨⟩)) p
  exact huses.follows (fun _ _ hnone _ hgives => (hgives hnone).elim)
    (fun _ request reply _ h => h.later ⟨request, reply⟩) h

/-- A program that begins with reading an item. -/
theorem getItem_follows {α : Type} {itemKey : Key} {f : Option Item → TableProgram α}
    {post : History startupCalls PyException → Except PyException α → Prop}
    {other : History startupCalls PyException}
    (herror : ∀ e, post (⟨.table (.getItem itemKey), .error e⟩ :: other) (.error e))
    (hok : ∀ stored, (liftTable (f stored)).Follows deployment.MayFallBack post
      (⟨.table (.getItem itemKey), .ok stored⟩ :: other)) :
    (liftTable (getItem itemKey >>= f)).Follows deployment.MayFallBack post other := by
  refine ⟨fun hgives => (hgives (by rintro _ ⟨⟩)).elim, fun reply => ?_⟩
  cases reply with
  | error e => exact herror e
  | ok stored => exact hok stored

theorem getIntegrationTokens_follows (now : DateTime)
    {history other : History startupCalls PyException} (h : Mirrors deployment history other) :
    (liftTable (getIntegrationTokens deployment.lib deployment.key now)).Follows
      deployment.MayFallBack (fun other reply =>
        Mirrors deployment (⟨.integration .getIntegrationTokens, reply⟩ :: history) other)
      other := by
  have hother {reply : Except PyException (Option Item)}
      {found : Except PyException (Option OAuthTokens)} (hfound : found ≠ .ok none) :
      Mirrors deployment (⟨.integration .getIntegrationTokens, found⟩ :: history)
        (⟨.table (.getItem integrationKey), reply⟩ :: other) :=
    (h.later _).other (fun heq => hfound (eq_of_heq (Sigma.mk.inj heq).2)) (by rintro _ ⟨⟩)
  have hnone {stored : Option Item} (hmissing : deployment.Missing stored) :
      Mirrors deployment (⟨.integration .getIntegrationTokens, .ok none⟩ :: history)
        (⟨.table (.getItem integrationKey), .ok stored⟩ :: other) :=
    ⟨fun _ => ⟨stored, hmissing, List.mem_cons_self⟩,
      fun tokens hmem =>
        (h.later _).put tokens ((List.mem_cons.mp hmem).resolve_left (by rintro ⟨⟩))⟩
  refine getItem_follows (fun e => hother (by rintro ⟨⟩)) fun stored => ?_
  cases stored with
  | none => exact hnone (by rintro _ ⟨⟩)
  | some item =>
      dsimp only
      cases hdecrypt : decryptItem deployment.lib deployment.key item with
      | error e =>
          refine hnone ?_
          rintro _ ⟨⟩ payload hpayload
          cases hdecrypt.symm.trans hpayload
      | ok payload =>
          dsimp only
          cases payloadToOauthTokens deployment.lib now payload with
          | error e => exact hother (by rintro ⟨⟩)
          | ok tokens => exact hother (by rintro ⟨⟩)

theorem storeTokens_follows (circumstances : Circumstances) (tokens : OAuthTokens)
    {history other : History startupCalls PyException} (h : Mirrors deployment history other) :
    (deployment.storeTokens circumstances tokens).Follows deployment.MayFallBack
      (fun other reply =>
        Mirrors deployment (⟨.integration (.setIntegrationTokens tokens), reply⟩ :: history) other)
      other := by
  have herror {other : History startupCalls PyException} (h : Mirrors deployment history other)
      (e : PyException) :
      Mirrors deployment (⟨.integration (.setIntegrationTokens tokens), .error e⟩ :: history)
        other := h.other (by rintro ⟨⟩) (by rintro _ ⟨⟩)
  rw [Deployment.storeTokens, setIntegrationTokens]
  cases hencrypt : encryptTokenPayload deployment.lib.toCryptoLib deployment.key
      circumstances.entropy (oauthTokensToPayload tokens) with
  | error e => exact herror h e
  | ok encrypted =>
      refine ⟨fun hgives => (hgives (by rintro _ ⟨⟩)).elim, fun reply => ?_⟩
      cases reply with
      | error e => exact herror (h.later _) e
      | ok done =>
          refine ⟨fun hmem =>
              (h.later _).found ((List.mem_cons.mp hmem).resolve_left (by rintro ⟨⟩)),
            fun _ _ => ⟨tokens, _,
              ⟨circumstances.entropy, _, _, circumstances.writtenAt, hencrypt, rfl⟩, ?_⟩⟩
          exact List.mem_cons_self

/-- Every call of a process follows its protocol. -/
theorem onTable_follows (circumstances : Circumstances) (request : StartupCall)
    {history other : History startupCalls PyException} (hasks : StartAsksFirst history request)
    (h : Mirrors deployment history other) :
    (deployment.onTable circumstances request).Follows deployment.MayFallBack
      (fun other reply => Mirrors deployment (⟨request, reply⟩ :: history) other) other := by
  have hsdk {call : IntegrationCall} (hasks : StartAsksFirst history (.integration call))
      (hother : ∀ reply other, Mirrors deployment history other →
        Mirrors deployment (⟨.integration call, reply⟩ :: history) other) :
      (callStartup (.integration call) >>= fun reply =>
        (deployment.stores call reply).elim (return ())
          (deployment.storeTokens circumstances) >>= fun _ => return reply).Follows
        deployment.MayFallBack
        (fun other reply => Mirrors deployment (⟨.integration call, reply⟩ :: history) other)
        other := by
    refine ⟨fun hgives => ?_, fun reply => ?_⟩
    · obtain ⟨refreshToken, hrequest⟩ := not_forall_not.mp hgives
      exact h.found (hasks refreshToken hrequest)
    · cases reply with
      | error e => exact hother _ _ (h.later _)
      | ok reply =>
          have hstored : ((deployment.stores call reply).elim (return ())
              (deployment.storeTokens circumstances) : StartupProgram Unit).Follows
              deployment.MayFallBack (fun other _ => Mirrors deployment history other)
              (⟨.integration call, .ok reply⟩ :: other) := by
            cases deployment.stores call reply with
            | none => exact h.later _
            | some tokens => exact liftTable_follows _ (h.later _)
          apply hstored.resume
          intro other result hmirrors
          cases result with
          | ok done => exact hother _ _ hmirrors
          | error e => exact hother _ _ hmirrors
  cases request with
  | integration call =>
      cases call with
      | getIntegrationTokens => exact getIntegrationTokens_follows _ h
      | setIntegrationTokens tokens => exact storeTokens_follows circumstances tokens h
      | arefresh refreshToken =>
          exact hsdk hasks fun _ _ h => h.other (by rintro ⟨⟩) (by rintro _ ⟨⟩)
      | aexchangeCode code =>
          exact hsdk hasks fun _ _ h => h.other (by rintro ⟨⟩) (by rintro _ ⟨⟩)
      | aensureServiceAppWebhooks target =>
          exact hsdk hasks fun _ _ h => h.other (by rintro ⟨⟩) (by rintro _ ⟨⟩)
  | ensureSeeded =>
      exact (liftTable_follows _ h).mono fun _ _ h => h.other (by rintro ⟨⟩) (by rintro _ ⟨⟩)
  | createMediaServer =>
      apply (liftTable_follows listAgents h).resume
      intro other result hmirrors
      cases result with
      | error e => exact hmirrors.other (by rintro ⟨⟩) (by rintro _ ⟨⟩)
      | ok listed =>
          exact ⟨fun hgives => (hgives (by rintro _ ⟨⟩)).elim,
            fun reply => (hmirrors.later _).other (by rintro ⟨⟩) (by rintro _ ⟨⟩)⟩
  | _ =>
      exact ⟨fun hgives => (hgives (by rintro _ ⟨⟩)).elim,
        fun reply => (h.later _).other (by rintro ⟨⟩) (by rintro _ ⟨⟩)⟩

/-- A process gives a refresh token once the table had no credentials, and its page says that
the tokens are saved once they were put. -/
theorem Process.follows (process : Process) :
    (process.program deployment).Follows deployment.MayFallBack (fun other result =>
      ∀ page, result = .ok (.page page) → SaysSaved page → deployment.PutCredentials other)
      [] := by
  cases process with
  | start settings circumstances =>
      refine ((lifespan_follows settings).translate (T := startupCalls)
        (R := Mirrors deployment) (f := deployment.onTable circumstances)
        (fun request history other => onTable_follows circumstances request)
        mirrors_nil).resume fun other result _ => ?_
      cases result with
      | ok app => rintro _ ⟨⟩
      | error e => rintro _ ⟨⟩
  | callback settings circumstances query =>
      refine ((liftIntegration_follows (callbackProgram_follows settings query)
        (reflects_nil _)).translate (T := startupCalls) (R := Mirrors deployment)
        (f := deployment.onTable circumstances)
        (fun request history other => onTable_follows circumstances request)
        mirrors_nil).resume ?_
      rintro other result ⟨history, hmirrors, calls, hreflects, hpost⟩
      cases result with
      | error e => rintro _ ⟨⟩
      | ok answered =>
          rintro _ ⟨⟩ hsaved
          obtain ⟨tokens, hmem⟩ := hpost answered rfl hsaved
          exact hmirrors.put tokens (hreflects _ _ hmem)
  | other operation =>
      refine (liftTable_follows _ mirrors_nil).resume fun other result _ => ?_
      cases result with
      | ok answer => rintro _ ⟨⟩
      | error e => rintro _ ⟨⟩

end Calls

/-! ## Every run -/

section Evidence

variable {τ : Type} {deployment : Deployment} {world : Handler startupCalls PyException τ}

/-- Lasting credentials that were put are there. -/
theorem consented_of_put (fate : Fate PyException) (request : StartupCall) (state : Table × τ)
    (h : deployment.IsPut
      ⟨request, (fate.handle (processHandler deployment.paging world) request state).1⟩) :
    deployment.Consented
      (fate.handle (processHandler deployment.paging world) request state).2.1 := by
  obtain ⟨attrs, hlasting, heq⟩ := h
  obtain ⟨rfl, hreply⟩ := Sigma.mk.inj heq
  cases fate with
  | works => exact consented_insert hlasting state.1
  | refused e => cases eq_of_heq hreply
  | lost e => cases eq_of_heq hreply

/-- Who asks for credentials that are there is not told that they are missing. -/
theorem notDenied_of_consented (fate : Fate PyException) (request : StartupCall)
    (state : Table × τ) (h : deployment.Consented state.1) :
    deployment.NotDenied
      ⟨request, (fate.handle (processHandler deployment.paging world) request state).1⟩ := by
  intro stored heq
  obtain ⟨rfl, hreply⟩ := Sigma.mk.inj heq
  obtain ⟨attrs, hitem, -, payload, hpayload⟩ := h
  cases fate with
  | works =>
      have hstored : state.1.item? integrationKey = stored :=
        Except.ok.inj (eq_of_heq hreply)
      rw [Table.item?, hitem] at hstored
      subst hstored
      exact fun hmissing => hmissing _ rfl payload hpayload
  | refused e => cases eq_of_heq hreply
  | lost e => cases eq_of_heq hreply

/-- Who is not told so does not give a refresh token. -/
theorem not_gives_of_notDenied (history : History startupCalls PyException) (request : StartupCall)
    (hagrees : ∀ answered ∈ history, deployment.NotDenied answered)
    (hallowed : deployment.MayFallBack history request) : ¬ ¬ GivesNoToken request := by
  intro hgives
  obtain ⟨stored, hmissing, hasked⟩ := hallowed hgives
  exact hagrees _ hasked stored rfl hmissing

end Evidence

/-- Once a callback's page says that the tokens are saved, the table holds the integration's
credentials for good, and no process that begins later gives the SDK the refresh token of its
environment: whatever else the processes do, whichever of their calls fail, and whatever
expires. Of the tokens that were stored, and of no others, it is asked that they can be read
back. -/
theorem consent_outlives_processes {ι τ : Type} [DecidableEq ι] (deployment : Deployment)
    (world : Handler startupCalls PyException τ) (processes : ι → Process) (table : Table)
    (state : τ) (before after : List (PoolEvent PyException ι Expiry)) :
    let run := (startProcesses deployment processes table state).occurAll
      (processHandler deployment.paging world) expireTable
    (∀ tokens, deployment.Stored (run (before ++ after)) tokens →
      deployment.ReadsWhatItWrites tokens) →
    ∀ who page, (run before).programs who = .finish (.ok (.page page)) → SaysSaved page →
      deployment.Consented (run (before ++ after)).state.1 ∧
        ∀ later, (run before).histories later = [] →
          ∀ answered ∈ (run (before ++ after)).histories later, GivesNoToken answered.1 := by
  intro run hreads who page hpage hsaved
  have hrun : run (before ++ after) = (run before).occurAll
      (processHandler deployment.paging world) expireTable after :=
    LoggedPool.occurAll_append _ _ _ before after
  have hfollows : (run before).EachFollows (fun _ => deployment.MayFallBack)
      fun _ other result => ∀ page, result = .ok (.page page) → SaysSaved page →
        deployment.PutCredentials other := by
    apply LoggedPool.EachFollows.occurAll
    exact fun who => (processes who).follows
  have hconfined : (run (before ++ after)).Confined (processHandler deployment.paging world)
      deployment.SparesOrPuts := by
    refine LoggedPool.Confined.occurAll ⟨fun who => (processes who).spares, ?_⟩ _
    rintro who answered ⟨⟩
  -- what was stored can be read back, so no call that was made takes the consent away
  have hspared : ((run before).occurAll (processHandler deployment.paging world) expireTable
      after).OnlyMade deployment.SparesConsent := by
    rw [← hrun]
    intro who answered hmem
    exact (hconfined.made who answered hmem).spares fun tokens hputs =>
      hreads tokens ⟨who, answered, hmem, hputs⟩
  have hconsented : deployment.Consented (run before).state.1 := by
    have hput := hfollows who
    rw [hpage] at hput
    obtain ⟨tokens, attrs, hencrypted, hmem⟩ := hput page rfl hsaved
    have hstored : deployment.Stored (run (before ++ after)) tokens := by
      rw [hrun]
      exact ⟨who, _, (LoggedPool.histories_occurAll _ after who).subset hmem,
        attrs, hencrypted, rfl⟩
    exact LoggedPool.holds_of_evidence durable_consented consented_of_put (fun _ => rfl) before
      hspared.of_occurAll hmem ⟨attrs, (hreads tokens hstored).lasting hencrypted, rfl⟩
  refine ⟨?_, fun later hnew answered hmem => ?_⟩
  · rw [hrun]
    exact LoggedPool.holds_occurAll durable_consented hconsented after hspared
  · rw [hrun] at hmem
    exact not_not.mp (LoggedPool.avoids_of_durable durable_consented notDenied_of_consented
      not_gives_of_notDenied hconsented (hfollows later) hnew after hspared answered hmem)

/-! ## A consent, and a start after it -/

section Exec

variable {σ : Type} (deployment : Deployment) (circumstances : Circumstances)
  (handler : Handler startupCalls PyException σ)

/-- The steps of a callback on the table. -/
def Deployment.callbackStep : Handler oauthSteps PyException σ := fun step state =>
  ((liftIntegration (OauthStep.program step)).translate (deployment.onTable circumstances)).exec
    handler state

theorem exec_callbackProgram (p : OauthProgram HtmlResponse) (state : σ) :
    ((liftIntegration (p.translate OauthStep.program)).translate
        (deployment.onTable circumstances)).exec handler state =
      p.exec (deployment.callbackStep circumstances handler) state := by
  have honTable {α : Type} (p : IntegrationProgram α) (state : σ) :
      ((liftIntegration p).translate (deployment.onTable circumstances)).exec handler state =
        p.exec (fun request state =>
          ((callStartup (.integration request)).exec (fun request state =>
            (deployment.onTable circumstances request).exec handler state) state)) state :=
    (Program.exec_translate (S := startupCalls) (T := startupCalls) _ _ _ state).trans
      (Program.exec_translate (S := integrationCalls) (T := startupCalls) _ _ p state)
  rw [honTable]
  refine (Program.exec_translate (S := oauthSteps) (T := integrationCalls) _ _ p state).trans ?_
  refine congrArg (fun handler => p.exec handler state) ?_
  funext step state
  exact (honTable _ state).symm

theorem exec_callback (settings : Settings) (query : QueryParams) (state : σ) :
    (((Process.callback settings circumstances query).program deployment).exec handler state).1 =
      ((handleOauthCallback (setOauthDependencies settings) (.ok settings) query).exec
        (deployment.callbackStep circumstances handler) state).1.map ProcessResult.page := by
  have hpage := exec_callbackProgram deployment circumstances handler
    (handleOauthCallback (setOauthDependencies settings) (.ok settings) query) state
  rw [← hpage]
  show ((Program.resume _ _).exec _ _).1 = _
  rw [Program.exec_resume, callbackProgram]
  cases (Program.exec handler _ state).1 <;> rfl

theorem callbackStep_setIntegrationTokens (tokens : OAuthTokens) (state : σ) :
    deployment.callbackStep circumstances handler (.setIntegrationTokens tokens) state =
      (deployment.storeTokens circumstances tokens).exec handler state := by
  show Program.exec handler ((deployment.storeTokens circumstances tokens).resume
    Program.finish) state = _
  rw [Program.resume_finish_right]

end Exec

/-- A callback whose steps all go through. -/
theorem exec_exchangeCode {σ : Type} {handler : Handler oauthSteps PyException σ}
    {settings : Settings} {code : String} {tokens : OAuthTokens}
    (hexchange : ∀ state, (handler (.aexchangeCode code) state).1 = .ok tokens)
    (hstored : ∀ state, (handler (.setIntegrationTokens tokens) state).1 = .ok ())
    (hensured : ∀ state,
      (handler (.ensureServiceAppWebhooksIfConfigured settings) state).1 = .ok ()) (state : σ) :
    ((exchangeCode settings code).exec handler state).1 = .ok htmlSuccess := by
  rw [exchangeCode, Program.exec_resume, exec_takeStep, hexchange]
  show ((persistTokens settings tokens).exec handler _).1 = _
  rw [persistTokens, Program.exec_resume, exec_takeStep, hstored]
  show ((ensureWebhooks settings).exec handler _).1 = _
  rw [ensureWebhooks, Program.exec_resume, exec_takeStep, hensured]
  rfl

/-- The library of the runtime, with an encryption of the sample tokens only. -/
def consentLib : TokenLib :=
  { runtimeLib with
    encrypt := fun _ _ bytes =>
      if bytes.data = sampleText.toUTF8.data then sampleBlob.toUTF8 else ⟨#[255]⟩ }

/-- A deployment whose SDK writes no tokens itself. -/
def consentDeployment : Deployment := ⟨noJson, consentLib, sampleKey, 90, .single, fun _ _ => none⟩

/-- Webex issues tokens, and nothing else fails. -/
def consentWorld : Handler startupCalls PyException Unit
  | .integration (.aexchangeCode _), state => (.ok sampleTokens, state)
  | .integration request, state => (consent request, state)
  | request, state => (emptyStart request, state)

/-- At noon, without a seed file. -/
def atNoon : Circumstances := ⟨noon, noon, noon, "nonce", ⟨"", false, .ok ""⟩⟩

/-- A callback, and a start with a refresh token in its environment. -/
def callbackAndStart : Bool → Process
  | true => .callback dynamoSettings atNoon [("code", "code")]
  | false => .start { dynamoSettings with integrationRefreshToken := some "refresh" } atNoon

theorem encrypt_consentLib (key entropy text : String) :
    consentLib.encrypt key entropy text.toUTF8 =
      if text = sampleText then sampleBlob.toUTF8 else ⟨#[255]⟩ := by
  have htext : text.toUTF8.data = sampleText.toUTF8.data ↔ text = sampleText :=
    ⟨fun hdata => String.toByteArray_inj.mp (ByteArray.ext hdata), fun heq => by rw [heq]⟩
  simp only [consentLib, htext]

theorem loads_consentLib : consentLib.loads = runtimeLib.loads := rfl

theorem decrypt_consentLib :
    consentLib.decrypt sampleKey sampleBlob.toUTF8 = .ok sampleText.toUTF8 := by
  simp only [consentLib, runtimeLib, sampleLib]
  exact if_pos ⟨trivial, trivial⟩

/-- The text of the sample tokens is encrypted, and no other. -/
theorem encryptTokenPayload_consentLib (entropy : String) (payload : List (String × Json))
    (encrypted : String × ℤ) :
    encryptTokenPayload consentLib.toCryptoLib sampleKey entropy payload = .ok encrypted ↔
      consentLib.dumps payload = sampleText ∧ encrypted = (sampleBlob, ciphertextVersion) := by
  have hkey : fernet consentLib.toCryptoLib sampleKey = .ok () :=
    (fernet_eq_ok_iff _ _).mpr ⟨by decide, by decide⟩
  have hblob : decodeAscii sampleBlob.toUTF8 = .ok sampleBlob :=
    (decodeAscii_eq_ok_iff _ _).mpr (decodeAscii?_toUTF8 (by decide +kernel))
  have hother : ∃ e, decodeAscii ⟨#[255]⟩ = .error e := ⟨_, rfl⟩
  rw [encryptTokenPayload, hkey, encrypt_consentLib]
  by_cases htext : consentLib.dumps payload = sampleText
  · rw [if_pos htext, hblob]
    exact ⟨fun h => ⟨htext, (Except.ok.inj h).symm⟩, fun h => congrArg Except.ok h.2.symm⟩
  · obtain ⟨e, herror⟩ := hother
    rw [if_neg htext, herror]
    refine ⟨?_, fun h => (htext h.1).elim⟩
    rintro ⟨⟩

/-- So what is encrypted there can be read back. -/
theorem consentDeployment_reads {tokens : OAuthTokens} {attrs : Attrs}
    (h : consentDeployment.EncryptedAs tokens attrs) :
    consentDeployment.ReadsWhatItWrites tokens := by
  obtain ⟨entropy, blob, version, now, hencrypt, -⟩ := h
  obtain ⟨htext, -⟩ := (encryptTokenPayload_consentLib _ _ _).mp hencrypt
  have hlib : consentDeployment.lib = consentLib := rfl
  have hkey : consentDeployment.key = sampleKey := rfl
  have hloads : runtimeLib.loads sampleText = .ok (.obj (payloadOfTokens sampleTokens)) := by
    rw [← dumps_sampleTokens]
    exact (runtimeLib_usesRuntimeJson 1).loads.load_dumps none
      sampleTokens_printable.payload_loadable sampleTokens_nestsWithin
  constructor
  · intro entropy
    rw [hlib, hkey, htext, encrypt_consentLib, if_pos rfl, decrypt_consentLib]
  · refine ⟨payloadOfTokens sampleTokens, ?_⟩
    rw [hlib, htext, loads_consentLib, hloads]

/-- The tokens that Webex issued are put on the table. -/
theorem storeTokens_consentDeployment :
    ∃ blob, consentDeployment.storeTokens atNoon sampleTokens =
      callStartup (.table (.putItem ⟨integrationKey, credsAttrs blob ciphertextVersion noon⟩)) := by
  have hencrypt : encryptTokenPayload consentLib.toCryptoLib sampleKey "nonce"
      (oauthTokensToPayload sampleTokens) = .ok (sampleBlob, ciphertextVersion) :=
    (encryptTokenPayload_consentLib _ _ _).mpr ⟨dumps_sampleTokens, rfl⟩
  have hput : setIntegrationTokens consentLib sampleKey "nonce" noon sampleTokens =
      putItem ⟨integrationKey, credsAttrs sampleBlob ciphertextVersion noon⟩ := by
    rw [setIntegrationTokens, hencrypt]
    rfl
  exact ⟨sampleBlob, congrArg liftTable hput⟩

/-- The callback ends with its page of success. -/
theorem exec_callbackAndStart :
    (((callbackAndStart true).program consentDeployment).exec
      (processHandler Paging.single consentWorld) (∅, ())).1 = .ok (.page htmlSuccess) := by
  have hexchange (state : Table × Unit) : (consentDeployment.callbackStep atNoon
      (processHandler Paging.single consentWorld) (.aexchangeCode "code") state).1 =
        .ok sampleTokens := rfl
  have hstored (state : Table × Unit) : (consentDeployment.callbackStep atNoon
      (processHandler Paging.single consentWorld) (.setIntegrationTokens sampleTokens) state).1 =
        .ok () := by
    obtain ⟨blob, hstore⟩ := storeTokens_consentDeployment
    rw [callbackStep_setIntegrationTokens, hstore]
    rfl
  have hensured (state : Table × Unit) : (consentDeployment.callbackStep atNoon
      (processHandler Paging.single consentWorld)
        (.ensureServiceAppWebhooksIfConfigured dynamoSettings) state).1 = .ok () := by
    have hnone : ensureServiceAppWebhooksIfConfigured dynamoSettings = .finish (.ok ()) := by
      rw [ensureServiceAppWebhooksIfConfigured]
      exact if_pos (by decide)
    show (((liftIntegration (ensureServiceAppWebhooksIfConfigured dynamoSettings)).translate
      (consentDeployment.onTable atNoon)).exec _ state).1 = _
    rw [hnone]
    rfl
  rw [callbackAndStart, exec_callback]
  exact congrArg (Except.map ProcessResult.page)
    (exec_exchangeCode hexchange hstored hensured (∅, ()))

theorem consent_outlives_processes_start :
    let run := (startProcesses consentDeployment callbackAndStart ∅ ()).occurAll
      (processHandler Paging.single consentWorld) expireTable
    ∃ before : List (PoolEvent PyException Bool Expiry),
      (run before).programs true = .finish (.ok (.page htmlSuccess)) ∧
        ∀ after, consentDeployment.Consented (run (before ++ after)).state.1 ∧
          ∀ answered ∈ (run (before ++ after)).histories false, GivesNoToken answered.1 := by
  intro run
  obtain ⟨turns, hfinish, hothers⟩ := LoggedPool.exists_alone
    (processHandler Paging.single consentWorld) (expireTable (τ := Unit))
    (startProcesses consentDeployment callbackAndStart ∅ ()) true
  refine ⟨_, hfinish.trans (congrArg Program.finish exec_callbackAndStart), fun after => ?_⟩
  obtain ⟨hconsented, hlater⟩ := consent_outlives_processes consentDeployment
    consentWorld callbackAndStart ∅ () _ after
    (fun _ ⟨_, _, _, _, hencrypted, _⟩ => consentDeployment_reads hencrypted) true htmlSuccess
    (hfinish.trans (congrArg Program.finish exec_callbackAndStart)) (.inl rfl)
  exact ⟨hconsented, hlater false (hothers false Bool.false_ne_true)⟩

end ByodsServer
