/-
# The registration script

`register_webhooks.py` authorizes the integration and registers the webhooks. It
decides by itself whether the redirect comes to a listener of its own or to the
server, and reads the redirect URI in another way than the server does. What the
script prints is left out.
-/

import ByodsServer.CreateApp
import ByodsServer.Effects.Histories
import ByodsServer.Persistence.TokenStorage

namespace ByodsServer

open Effects Python

/-- The calls of the script; `aauthorize` opens a browser and waits for the
redirect with a listener of its own. -/
inductive ScriptCall
  | fromEnv
  | aauthorize (openBrowser : Bool)
  | getAuthorizationUrl
  | aensureServiceAppWebhooks (target : String)
  | aclose

/-- What each call answers: tokens, a URL with its state, or how many webhooks
were created. -/
@[reducible]
def ScriptCall.Reply : ScriptCall → Type
  | aauthorize _ => OAuthTokens
  | getAuthorizationUrl => String × String
  | aensureServiceAppWebhooks _ => ℕ
  | _ => Unit

/-- The SDK as something the script can call. -/
def scriptCalls : Signature where
  Call := ScriptCall
  Reply := ScriptCall.Reply

/-- The script's coroutine. -/
abbrev ScriptProgram := Program scriptCalls PyException

/-- One call of the script. -/
def callScript (request : ScriptCall) : ScriptProgram request.Reply :=
  Program.await (S := scriptCalls) request

/-- The redirect URI without a setting. -/
def defaultRedirectUri : String := "http://127.0.0.1:8765/callback"

section Script

variable (hostname : String → Option String) (environ : Environ)

/-- `_is_local_redirect`. -/
def isLocalRedirect (redirectUri : String) : Bool :=
  isLocalHost (hostname redirectUri)

/-- `main`, from `redirect_uri` to the end of the `if`. -/
def authorize : ScriptProgram Unit :=
  if isLocalRedirect hostname ((environ "WEBEX_INTEGRATION_REDIRECT_URI").getD defaultRedirectUri)
  then do
    let _ ← callScript (.aauthorize true)
    return ()
  else do
    let _ ← callScript .getAuthorizationUrl
    return ()

/-- `main`, from `target` on. -/
def ensureTargetWebhooks : ScriptProgram Unit := do
  let target := textOrEmpty (environ "WEBEX_WEBHOOK_TARGET_URL")
  if target ≠ "" then do
    let _ ← callScript (.aensureServiceAppWebhooks target)
    callScript .aclose
  else callScript .aclose

/-- `main`. -/
def registerWebhooks : ScriptProgram Unit := do
  callScript .fromEnv
  authorize hostname environ
  ensureTargetWebhooks environ

/-- A run of the script waits for the redirect with its own listener. -/
def RunsListener {σ : Type} (handler : Handler scriptCalls PyException σ) (state : σ) : Prop :=
  ∃ answered ∈ (registerWebhooks hostname environ).trace handler state,
    answered.1 = .aauthorize true

/-- The redirect URI is unset, or it holds more than white space and the spaces
around it do not change whether its host is local. -/
def RedirectUnambiguous : Prop :=
  match environ "WEBEX_INTEGRATION_REDIRECT_URI" with
  | none => True
  | some uri =>
      strip uri ≠ "" ∧ isLocalHost (hostname uri) = isLocalHost (hostname (strip uri))

end Script

section Receivers

variable {hostname : String → Option String} {environ : Environ} {σ : Type}
  {handler : Handler scriptCalls PyException σ} {state : σ}

/-- The call runs no listener. -/
def ScriptCall.NoListener (request : ScriptCall) : Prop :=
  request ≠ .aauthorize true

theorem ensureTargetWebhooks_uses : (ensureTargetWebhooks environ).Uses ScriptCall.NoListener := by
  rw [ensureTargetWebhooks]
  split_ifs with htarget
  · apply Program.Uses.bind (Program.uses_await (by simp [ScriptCall.NoListener]))
    intro _
    exact Program.uses_await (by simp [ScriptCall.NoListener])
  · exact Program.uses_await (by simp [ScriptCall.NoListener])

/-- Once its credentials are read, the script listens when it judges the redirect
to be local. -/
theorem runsListener_iff (hcredentials : (handler .fromEnv state).1 = .ok ()) :
    RunsListener hostname environ handler state ↔
      isLocalRedirect hostname
        ((environ "WEBEX_INTEGRATION_REDIRECT_URI").getD defaultRedirectUri) = true := by
  constructor
  · rintro ⟨answered, hmem, hlistener⟩
    by_contra hlocal
    have hauthorize : (authorize hostname environ).Uses ScriptCall.NoListener := by
      rw [authorize, if_neg hlocal]
      apply Program.Uses.bind (Program.uses_await (by simp [ScriptCall.NoListener]))
      intro _
      trivial
    have huses : (registerWebhooks hostname environ).Uses ScriptCall.NoListener := by
      apply Program.Uses.bind (Program.uses_await (by simp [ScriptCall.NoListener]))
      intro _
      exact hauthorize.bind fun _ => ensureTargetWebhooks_uses
    exact huses.of_mem_trace hmem hlistener
  · intro hlocal
    refine ⟨⟨.aauthorize true, (handler (.aauthorize true) (handler .fromEnv state).2).1⟩, ?_, rfl⟩
    rw [registerWebhooks, Program.bind_eq, Program.trace_resume]
    apply List.mem_append_right
    have hexec : ((callScript .fromEnv).exec handler state).1 = .ok () := hcredentials
    rw [hexec, Program.andThen_ok, Program.bind_eq, Program.trace_resume, authorize, if_pos hlocal]
    exact List.mem_append_left _ List.mem_cons_self

/-- Script and server agree on who receives the redirect exactly when the redirect
URI is unset, or means the same host with and without the spaces around it. -/
theorem redirect_has_one_receiver_iff {σ : Type} (hostname : String → Option String)
    (path : String → String) (int : String → Except PyException ℤ) (environ : Environ)
    (settings : AppSettings) (handler : Handler scriptCalls PyException σ) (state : σ)
    (hdefault : hostname defaultRedirectUri = some "127.0.0.1")
    (hblank : ∀ uri, strip uri = "" → hostname uri = none)
    (hsettings : getSettings int environ = .ok settings)
    (hcredentials : (handler .fromEnv state).1 = .ok ()) :
    (RunsListener hostname environ handler state ↔ ¬ MountsCallback hostname path settings) ↔
      RedirectUnambiguous hostname environ := by
  rw [runsListener_iff hcredentials, mountsCallback_iff, AppSettings.mountOauthCallback,
    (getSettings_reads hsettings).2, RedirectUnambiguous, isLocalRedirect]
  cases environ "WEBEX_INTEGRATION_REDIRECT_URI" with
  | none =>
      have hlocal : isLocalHost (some "127.0.0.1") = true := by decide
      have hunset : strip (textOrEmpty none) = "" := by decide
      simp [hdefault, hlocal, hunset]
  | some uri =>
      simp only [Option.getD_some, textOrEmpty]
      by_cases hempty : strip uri = ""
      · have hlocal : isLocalHost none = false := by decide
        simp [hempty, hblank uri hempty, hlocal]
      · simp only [hempty, if_false, ne_eq, not_false_eq_true, true_and]
        cases isLocalHost (hostname uri) <;> cases isLocalHost (hostname (strip uri)) <;> simp

end Receivers

/-! ## Two environments -/

/-- `urlparse(text).hostname` of a text that `urlparse` accepts without looking
into other modules. -/
def parsedHostname (text : String) : Option String :=
  match urlparse ⟨id, fun _ => .error "not an IP address"⟩ text with
  | .ok parts => parts.hostname
  | .error _ => none

/-- An environment that holds nothing but the redirect URI. -/
def redirectEnviron (uri : String) : Environ
  | "WEBEX_INTEGRATION_REDIRECT_URI" => some uri
  | _ => none

/-- The SDK answers the script's calls. -/
def willingSdk : Handler scriptCalls PyException Unit
  | .fromEnv, state => (.ok (), state)
  | .aauthorize _, state =>
      (.ok ⟨"access", .str "refresh", 1209599, "bearer", ⟨2026, 6, 13, 12, 0, 0, 0, some 0⟩, .null⟩,
        state)
  | .getAuthorizationUrl, state =>
      (.ok ("https://webexapis.com/v1/authorize?state=s1", "s1"), state)
  | .aensureServiceAppWebhooks _, state => (.ok (2 : ℕ), state)
  | .aclose, state => (.ok (), state)

/-- A local redirect URI, copied with the white space around it. -/
def paddedUri : String := " http://LocalHost:8765/callback\n"

theorem redirect_has_one_receiver_iff_local :
    (RunsListener parsedHostname (redirectEnviron paddedUri) willingSdk () ↔
      ¬ MountsCallback parsedHostname (fun _ => "/callback")
        { defaultAppSettings with integrationRedirectUri := some paddedUri }) ↔
    RedirectUnambiguous parsedHostname (redirectEnviron paddedUri) := by
  apply redirect_has_one_receiver_iff parsedHostname (fun _ => "/callback") intOfDigits
    (redirectEnviron paddedUri) { defaultAppSettings with integrationRedirectUri := some paddedUri }
    willingSdk ()
  · rfl
  · intro uri hblank
    rw [parsedHostname, urlparse_of_blank _ hblank]
    rfl
  · rfl
  · rfl

/-- With an empty redirect URI nobody receives the redirect. -/
theorem empty_redirect_has_no_receiver :
    getSettings intOfDigits (redirectEnviron "") =
        .ok { defaultAppSettings with integrationRedirectUri := some "" } ∧
      ¬ (RunsListener parsedHostname (redirectEnviron "") willingSdk () ↔
        ¬ MountsCallback parsedHostname (fun _ => "/oauth/webex/callback")
          { defaultAppSettings with integrationRedirectUri := some "" }) := by
  refine ⟨rfl, ?_⟩
  rw [runsListener_iff rfl, mountsCallback_iff]
  decide

end ByodsServer
