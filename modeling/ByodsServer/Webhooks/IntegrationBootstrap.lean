/-
# Obtaining integration tokens

What the webhooks package asks of the token storage and of the SDK, and the two
helpers the start of the app and the OAuth callback share: loading the
integration's tokens, and making sure the service app webhooks exist.
-/

import ByodsServer.Config.Settings
import ByodsServer.Persistence.TokenStorage

namespace ByodsServer

open Effects Python

/-- The calls of the token storage and of the SDK. -/
inductive IntegrationCall
  | getIntegrationTokens
  | setIntegrationTokens (tokens : OAuthTokens)
  | arefresh (refreshToken : Option String)
  | aexchangeCode (code : String)
  | aensureServiceAppWebhooks (target : String)

/-- What each call answers; ensuring webhooks answers how many it created. -/
@[reducible]
def IntegrationCall.Reply : IntegrationCall → Type
  | getIntegrationTokens => Option OAuthTokens
  | setIntegrationTokens _ => Unit
  | arefresh _ => OAuthTokens
  | aexchangeCode _ => OAuthTokens
  | aensureServiceAppWebhooks _ => ℕ

/-- The token storage and the SDK as something a program can call. -/
def integrationCalls : Signature where
  Call := IntegrationCall
  Reply := IntegrationCall.Reply

/-- A coroutine that talks to the token storage and the SDK. -/
abbrev IntegrationProgram := Program integrationCalls PyException

/-- One such call. -/
def callIntegration (request : IntegrationCall) : IntegrationProgram request.Reply :=
  Program.await (S := integrationCalls) request

/-- The body of the `try` in `bootstrap_integration`. -/
def loadIntegrationTokens (settings : Settings) : IntegrationProgram Bool := do
  let stored ← callIntegration .getIntegrationTokens
  if Option.isSome stored then do
    let _ ← callIntegration (.arefresh none)
    return true
  else
    let refreshToken := textOrEmpty settings.integrationRefreshToken
    if refreshToken ≠ "" then do
      let _ ← callIntegration (.arefresh (some refreshToken))
      return true
    else return false

/-- `bootstrap_integration`: whether tokens were obtained. -/
def bootstrapIntegration (settings : Settings) : IntegrationProgram Bool :=
  tryCatch (loadIntegrationTokens settings) fun e =>
    match e with
    | .authenticationError _ => return false
    | e => throw e

/-- `ensure_service_app_webhooks_if_configured`; what it catches it raises
again. -/
def ensureServiceAppWebhooksIfConfigured (settings : Settings) : IntegrationProgram Unit :=
  let target := strip (textOrEmpty settings.webhookTargetUrl)
  if target = "" then return ()
  else do
    let _ ← callIntegration (.aensureServiceAppWebhooks target)
    return ()

end ByodsServer
