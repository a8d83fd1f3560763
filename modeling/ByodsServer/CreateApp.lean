/-
# The routes of the app

`create_app`: the routes in the order in which they are tried, behind the rate
limit. The path of the OAuth callback is read from the settings, and the limiter
looks at another path; what reaches the callback is what is sent to it. The
parser of redirect URIs and the matching of paths are parameters.
-/

import ByodsServer.Common.Middleware
import ByodsServer.Config.Environment

namespace ByodsServer

open Effects

/-- What answers a request. -/
inductive Endpoint
  | documentation
  | health
  | ready
  | webexWebhook
  | oauthCallback
  deriving DecidableEq, Repr

/-- A route: its method and the pattern of its path. -/
structure Route where
  method : String
  path : String
  endpoint : Endpoint
  deriving DecidableEq, Repr

/-- The routes that `FastAPI()` adds itself. -/
def documentationRoutes : List Route :=
  ["/openapi.json", "/docs", "/docs/oauth2-redirect", "/redoc"].map fun path =>
    ⟨"GET", path, .documentation⟩

section Routes

variable (hostname : String → Option String) (path : String → String)
  (pathMatches : String → String → Bool) (settings : AppSettings)

/-- `register_oauth_callback_route`. -/
def registerOauthCallbackRoute : Route :=
  ⟨"GET", settings.integrationRedirectPath path, .oauthCallback⟩

/-- The routes of `create_app`. -/
def createApp : List Route :=
  documentationRoutes ++
    [⟨"GET", "/health", .health⟩, ⟨"GET", "/ready", .ready⟩,
      ⟨"POST", "/webhooks/webex", .webexWebhook⟩] ++
    if settings.mountOauthCallback hostname then [registerOauthCallbackRoute path settings] else []

/-- The server mounts the callback route. -/
def MountsCallback : Prop :=
  ∃ route ∈ createApp hostname path settings, route.endpoint = .oauthCallback

/-- The first route that matches a request. -/
def endpointOf (request : Request) : Option Endpoint :=
  ((createApp hostname path settings).find? fun route =>
    route.method == request.method && pathMatches route.path request.path).map Route.endpoint

/-- A request of a client that is routed to `handle_oauth_callback`. -/
def isCallbackOf (client : String) (arrival : Arrival) : Bool :=
  endpointOf hostname path pathMatches settings arrival.request == some .oauthCallback &&
    arrival.request.clientHost == client

/-- When a client's requests for the callback came. -/
def callbacksReceived (client : String) (arrivals : List Arrival) : List ℚ :=
  (arrivals.filter (isCallbackOf hostname path pathMatches settings client)).map (·.now)

/-- When those came that reached `handle_oauth_callback`. -/
def callbacksHandled (client : String) (arrivals : List Arrival) : List ℚ :=
  ((serveAll settings.rateLimitPerMinute arrivals).decisions.filter fun decision =>
    isCallbackOf hostname path pathMatches settings client decision.1 &&
      decision.2 == .passedOn).map (·.1.now)

/-- When a limit is configured, no closed minute holds more than it of any
client's requests. -/
def WithinRateLimit (times : String → List ℚ) : Prop :=
  ∀ limit ∈ settings.rateLimitPerMinute.filter (· ≠ 0), ∀ client start,
    (((times client).filter fun t => start ≤ t ∧ t ≤ start + 60).length : ℤ) ≤ limit

end Routes

/-! ## The callback -/

section Callback

variable {hostname : String → Option String} {path : String → String}
  {pathMatches : String → String → Bool} {settings : AppSettings}

/-- One route at most leads to the callback. -/
theorem route_of_oauthCallback {route : Route} (hroute : route ∈ createApp hostname path settings)
    (hendpoint : route.endpoint = .oauthCallback) :
    route = registerOauthCallbackRoute path settings ∧
      settings.mountOauthCallback hostname = true := by
  rw [createApp, List.mem_append] at hroute
  rcases hroute with hfixed | hmounted
  · have hothers : ∀ route ∈ documentationRoutes ++ [⟨"GET", "/health", .health⟩,
        ⟨"GET", "/ready", .ready⟩, ⟨"POST", "/webhooks/webex", .webexWebhook⟩],
        route.endpoint ≠ .oauthCallback := by decide
    exact absurd hendpoint (hothers route hfixed)
  · split_ifs at hmounted with hmount
    · exact ⟨List.mem_singleton.mp hmounted, hmount⟩
    · cases hmounted

theorem mountsCallback_iff :
    MountsCallback hostname path settings ↔ settings.mountOauthCallback hostname = true := by
  constructor
  · rintro ⟨route, hroute, hendpoint⟩
    exact (route_of_oauthCallback hroute hendpoint).2
  · intro hmount
    refine ⟨registerOauthCallbackRoute path settings, ?_, rfl⟩
    simp [createApp, hmount]

/-- No request for the callback is a webhook POST. -/
theorem isWebhookPost_of_callback {client : String} {arrival : Arrival}
    (h : isCallbackOf hostname path pathMatches settings client arrival = true) :
    arrival.request.isWebhookPost = false := by
  have hendpoint : endpointOf hostname path pathMatches settings arrival.request =
      some .oauthCallback := eq_of_beq (Bool.and_elim_left h)
  obtain ⟨route, hfound, hroute⟩ := Option.map_eq_some_iff.mp hendpoint
  have hmatches := List.find?_some hfound
  have hmethod : route.method = arrival.request.method := eq_of_beq (Bool.and_elim_left hmatches)
  have hcallback := route_of_oauthCallback (List.mem_of_find?_eq_some hfound) hroute
  have hget : arrival.request.method = "GET" := by
    rw [← hmethod, hcallback.1]
    rfl
  simp [Request.isWebhookPost, hget]

/-- Whatever the limit, a request that is no webhook POST is passed on. -/
theorem outcomeAfter_of_callback (rateLimitPerMinute : Option ℤ) (earlier : List Arrival)
    {arrival : Arrival} (hpost : arrival.request.isWebhookPost = false) :
    outcomeAfter rateLimitPerMinute earlier arrival = .passedOn := by
  rw [outcomeAfter, handleRequest]
  cases rateLimitPerMinute.filter (· ≠ 0) with
  | none => rfl
  | some limit => simp only [dispatch_of_not_webhook limit hpost]

/-- Every request for the callback reaches it. -/
theorem callbacksHandled_eq (client : String) (arrivals : List Arrival) :
    callbacksHandled hostname path pathMatches settings client arrivals =
      callbacksReceived hostname path pathMatches settings client arrivals := by
  induction arrivals using List.reverseRecOn with
  | nil => rfl
  | append_singleton earlier arrival ih =>
      rw [callbacksHandled, callbacksReceived, decisions_concat, List.filter_append,
        List.filter_append, List.map_append, List.map_append]
      rw [callbacksHandled, callbacksReceived] at ih
      rw [ih]
      congr 1
      cases hcallback : isCallbackOf hostname path pathMatches settings client arrival with
      | false => simp [hcallback]
      | true =>
          have houtcome := outcomeAfter_of_callback settings.rateLimitPerMinute earlier
            (isWebhookPost_of_callback hcallback)
          simp [hcallback, houtcome]

end Callback

/-- In every run, no closed minute holds more than the limit of one client's
requests that reach the callback exactly when none holds more of those that are
sent to it: the limiter turns none of them away. -/
theorem callback_rate_limited_iff (hostname : String → Option String) (path : String → String)
    (pathMatches : String → String → Bool) (settings : AppSettings) (arrivals : List Arrival) :
    WithinRateLimit settings (fun client =>
        callbacksHandled hostname path pathMatches settings client arrivals) ↔
      WithinRateLimit settings fun client =>
        callbacksReceived hostname path pathMatches settings client arrivals := by
  have hhandled : (fun client =>
        callbacksHandled hostname path pathMatches settings client arrivals) =
      fun client => callbacksReceived hostname path pathMatches settings client arrivals := by
    funext client
    exact callbacksHandled_eq client arrivals
  rw [hhandled]

/-! ## Two callbacks within a second -/

/-- A production deployment with a limit of one request a minute. -/
def limitedSettings : AppSettings :=
  { defaultAppSettings with
    integrationRedirectUri := some "https://host.example.com/oauth/webex/callback"
    rateLimitPerMinute := some 1 }

/-- A browser's request for the callback. -/
def redirected (now : ℚ) : Arrival :=
  ⟨⟨"GET", "/oauth/webex/callback", some "203.0.113.7"⟩, now⟩

/-- Both requests reach the callback. -/
theorem two_callbacks_within_limit_of_one :
    MountsCallback (fun _ => some "host.example.com") (fun _ => "/oauth/webex/callback")
        limitedSettings ∧
      ¬ WithinRateLimit limitedSettings fun client =>
        callbacksHandled (fun _ => some "host.example.com") (fun _ => "/oauth/webex/callback")
          (fun pattern text => pattern == text) limitedSettings client
          [redirected 0, redirected 1] := by
  refine ⟨mountsCallback_iff.mpr (by decide), fun hlimited => ?_⟩
  have hwindow := hlimited 1 rfl "203.0.113.7" 0
  revert hwindow
  decide +kernel

end ByodsServer
