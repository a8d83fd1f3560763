/-
# The webhook rate limit

`WebhookRateLimitMiddleware` and its place in the app. Between its reading of the
clock and its answer the middleware awaits nothing, so that requests are decided
one after the other; a run is the sequence of these decisions. The model keeps,
next to the pruned hits of the source, what was decided so far.
-/

import ByodsServer.Effects.Runs
import ByodsServer.Effects.SlidingWindow
import Mathlib.Algebra.Order.Ring.Rat

namespace ByodsServer

open Effects

/-- What the middleware reads of a request; `client` is the host of
`request.client`. -/
structure Request where
  method : String
  path : String
  client : Option String
  deriving DecidableEq, Repr

/-- A request is handed to the app, or answered in its place. -/
inductive Outcome
  | passedOn
  | answered (statusCode : ℕ) (detail : String)
  deriving DecidableEq, Repr

/-- `self._hits`. -/
abbrev Hits := String → List ℚ

/-- `POST /webhooks/webex`. -/
def Request.isWebhookPost (request : Request) : Bool :=
  request.method == "POST" && request.path == "/webhooks/webex"

/-- The key under which hits are counted. -/
def Request.clientHost (request : Request) : String :=
  request.client.getD "unknown"

/-- `WebhookRateLimitMiddleware.dispatch`. -/
def dispatch (limit : ℤ) (request : Request) (now : ℚ) (hits : Hits) : Outcome × Hits :=
  if request.isWebhookPost then
    let client := request.clientHost
    let windowStart := now - 60
    let hits := Function.update hits client ((hits client).filter fun t => windowStart ≤ t)
    if limit ≤ (hits client).length then (.answered 429 "Rate limit exceeded", hits)
    else (.passedOn, Function.update hits client (hits client ++ [now]))
  else (.passedOn, hits)

/-- A request that is no webhook POST is passed on, and no hit is written. -/
theorem dispatch_of_not_webhook (limit : ℤ) {request : Request} (h : request.isWebhookPost = false)
    (now : ℚ) (hits : Hits) : dispatch limit request now hits = (.passedOn, hits) := by
  simp [dispatch, h]

/-- A webhook POST in a full window is rejected, and the window is pruned. -/
theorem dispatch_of_full (limit : ℤ) {request : Request} (h : request.isWebhookPost = true)
    (now : ℚ) (hits : Hits)
    (hfull : limit ≤ (recent 60 now (hits request.clientHost)).length) :
    dispatch limit request now hits =
      (.answered 429 "Rate limit exceeded",
        Function.update hits request.clientHost (recent 60 now (hits request.clientHost))) := by
  rw [dispatch, if_pos h]
  simp only [Function.update_self]
  exact if_pos hfull

/-- A webhook POST in a window with room is passed on and counted. -/
theorem dispatch_of_room (limit : ℤ) {request : Request} (h : request.isWebhookPost = true)
    (now : ℚ) (hits : Hits)
    (hroom : ((recent 60 now (hits request.clientHost)).length : ℤ) < limit) :
    dispatch limit request now hits =
      (.passedOn, Function.update hits request.clientHost
        (recent 60 now (hits request.clientHost) ++ [now])) := by
  rw [dispatch, if_pos h]
  simp only [Function.update_self, Function.update_idem]
  exact if_neg (not_le.mpr hroom)

theorem dispatch_passedOn_iff (limit : ℤ) {request : Request} (h : request.isWebhookPost = true)
    (now : ℚ) (hits : Hits) :
    (dispatch limit request now hits).1 = .passedOn ↔
      ((recent 60 now (hits request.clientHost)).length : ℤ) < limit := by
  rcases lt_or_ge ((recent 60 now (hits request.clientHost)).length : ℤ) limit with hroom | hfull
  · simp [dispatch_of_room limit h now hits hroom, hroom]
  · simp [dispatch_of_full limit h now hits hfull, hfull]

/-- The hits of the request's client are pruned, and the request is one of them
if it is passed on. -/
theorem dispatch_hits_self (limit : ℤ) {request : Request} (h : request.isWebhookPost = true)
    (now : ℚ) (hits : Hits) :
    (dispatch limit request now hits).2 request.clientHost =
      recent 60 now (hits request.clientHost) ++
        if (dispatch limit request now hits).1 = .passedOn then [now] else [] := by
  rcases lt_or_ge ((recent 60 now (hits request.clientHost)).length : ℤ) limit with hroom | hfull
  · simp [dispatch_of_room limit h now hits hroom]
  · simp [dispatch_of_full limit h now hits hfull]

/-- The hits of every other client stay. -/
theorem dispatch_hits_of_ne (limit : ℤ) (request : Request) (now : ℚ) (hits : Hits)
    {client : String} (hne : client ≠ request.clientHost) :
    (dispatch limit request now hits).2 client = hits client := by
  simp only [dispatch]
  split
  · split <;> simp [Function.update_of_ne hne]
  · rfl

/-- `create_app` adds the middleware when `settings.rate_limit_per_minute` is
neither `None` nor zero. -/
def handleRequest (rateLimitPerMinute : Option ℤ) (request : Request) (now : ℚ) (hits : Hits) :
    Outcome × Hits :=
  match rateLimitPerMinute.filter (· ≠ 0) with
  | some limit => dispatch limit request now hits
  | none => (.passedOn, hits)

/-! ## Runs -/

/-- A request and what `time.time()` reads when it is handled. -/
structure Arrival where
  request : Request
  now : ℚ
  deriving DecidableEq, Repr

/-- The hits, and every request so far with its outcome. -/
structure Served where
  hits : Hits
  decisions : List (Arrival × Outcome)

section Runs

variable (rateLimitPerMinute : Option ℤ)

/-- One request. -/
def serve (served : Served) (arrival : Arrival) : Served :=
  let (outcome, hits) := handleRequest rateLimitPerMinute arrival.request arrival.now served.hits
  { hits := hits, decisions := served.decisions ++ [(arrival, outcome)] }

/-- The app after a sequence of requests. -/
def serveAll (arrivals : List Arrival) : Served :=
  runEvents (serve rateLimitPerMinute) { hits := fun _ => [], decisions := [] } arrivals

/-- How the next request comes out. -/
def outcomeAfter (earlier : List Arrival) (arrival : Arrival) : Outcome :=
  (handleRequest rateLimitPerMinute arrival.request arrival.now
    (serveAll rateLimitPerMinute earlier).hits).1

/-- A webhook POST of this client that was passed on. -/
def countsFor (client : String) (decision : Arrival × Outcome) : Bool :=
  decision.1.request.isWebhookPost && decision.1.request.clientHost == client &&
    decision.2 == .passedOn

/-- When the webhook POSTs of a client that were passed on came. -/
def passedOnTimes (client : String) (arrivals : List Arrival) : List ℚ :=
  ((serveAll rateLimitPerMinute arrivals).decisions.filter (countsFor client)).map (·.1.now)

/-- What the middleware read off the clock, in order. -/
def clockReadings (arrivals : List Arrival) : List ℚ :=
  (arrivals.filter (·.request.isWebhookPost)).map (·.now)

/-- The requests of a run but for some decisions that are left out. -/
def thinned (keep : Arrival × Outcome → Bool) (arrivals : List Arrival) : List Arrival :=
  ((serveAll rateLimitPerMinute arrivals).decisions.filter keep).map (·.1)

theorem countsFor_iff {client : String} {arrival : Arrival} {outcome : Outcome} :
    countsFor client (arrival, outcome) = true ↔
      arrival.request.isWebhookPost = true ∧ arrival.request.clientHost = client ∧
        outcome = .passedOn := by
  simp [countsFor, and_assoc]

theorem clockReadings_concat (earlier : List Arrival) (arrival : Arrival) :
    clockReadings (earlier ++ [arrival]) = clockReadings earlier ++ clockReadings [arrival] := by
  simp [clockReadings]

/-- A webhook POST reads a clock that shows no less than any earlier reading. -/
theorem le_of_clock {earlier : List Arrival} {arrival : Arrival}
    (hpost : arrival.request.isWebhookPost = true)
    (hclock : ∀ t ∈ clockReadings earlier, ∀ now ∈ clockReadings [arrival], t ≤ now) :
    ∀ t ∈ clockReadings earlier, t ≤ arrival.now :=
  fun t ht => hclock t ht arrival.now (by simp [clockReadings, hpost])

theorem decisions_concat (earlier : List Arrival) (arrival : Arrival) :
    (serveAll rateLimitPerMinute (earlier ++ [arrival])).decisions =
      (serveAll rateLimitPerMinute earlier).decisions ++
        [(arrival, outcomeAfter rateLimitPerMinute earlier arrival)] := by
  rw [serveAll, runEvents_concat]
  rfl

theorem passedOnTimes_concat (client : String) (earlier : List Arrival) (arrival : Arrival) :
    passedOnTimes rateLimitPerMinute client (earlier ++ [arrival]) =
      passedOnTimes rateLimitPerMinute client earlier ++
        if countsFor client (arrival, outcomeAfter rateLimitPerMinute earlier arrival) then
          [arrival.now] else [] := by
  rw [passedOnTimes, decisions_concat, List.filter_append, List.map_append]
  congr 1
  by_cases hcounts : countsFor client (arrival, outcomeAfter rateLimitPerMinute earlier arrival)
  · simp [hcounts]
  · simp [hcounts]

/-- The requests of a run are those that were decided. -/
theorem map_decisions (arrivals : List Arrival) :
    (serveAll rateLimitPerMinute arrivals).decisions.map (·.1) = arrivals := by
  induction arrivals using List.reverseRecOn with
  | nil => rfl
  | append_singleton earlier arrival ih =>
      rw [decisions_concat, List.map_append, ih]
      rfl

/-- Requests that are left out read no clock. -/
theorem thinned_le {keep : Arrival × Outcome → Bool} {earlier : List Arrival} {arrival : Arrival}
    (hclock : ∀ t ∈ clockReadings earlier, ∀ now ∈ clockReadings [arrival], t ≤ now) :
    ∀ t ∈ clockReadings (thinned rateLimitPerMinute keep earlier),
      ∀ now ∈ clockReadings [arrival], t ≤ now := by
  have hsub : (thinned rateLimitPerMinute keep earlier).Sublist earlier := by
    have h := (List.filter_sublist (p := keep)
      (l := (serveAll rateLimitPerMinute earlier).decisions)).map (·.1)
    rwa [map_decisions] at h
  intro t ht
  exact hclock t (((hsub.filter _).map _).subset ht)

end Runs

/-! ## The window -/

section Window

variable {limit : ℤ} (hlimit : 1 ≤ limit)

include hlimit

theorem handleRequest_some (request : Request) (now : ℚ) (hits : Hits) :
    handleRequest (some limit) request now hits = dispatch limit request now hits := by
  have hne : limit ≠ 0 := by omega
  simp [handleRequest, Option.filter, hne]

theorem hits_concat (earlier : List Arrival) (arrival : Arrival) :
    (serveAll (some limit) (earlier ++ [arrival])).hits =
      (dispatch limit arrival.request arrival.now (serveAll (some limit) earlier).hits).2 := by
  rw [serveAll, runEvents_concat, ← handleRequest_some hlimit]
  rfl

/-- In every window that closes no earlier than the last reading of the clock,
the pruned hits of a client are all its passed-on webhook POSTs. -/
theorem recent_hits (client : String) (arrivals : List Arrival) {now : ℚ}
    (hnow : ∀ t ∈ clockReadings arrivals, t ≤ now) :
    recent 60 now ((serveAll (some limit) arrivals).hits client) =
      recent 60 now (passedOnTimes (some limit) client arrivals) := by
  induction arrivals using List.reverseRecOn with
  | nil => rfl
  | append_singleton earlier arrival ih =>
      rw [clockReadings_concat] at hnow
      have hearlier := ih fun t ht => hnow t (List.mem_append_left _ ht)
      rw [hits_concat hlimit, passedOnTimes_concat]
      cases hpost : arrival.request.isWebhookPost with
      | false =>
          rw [dispatch_of_not_webhook limit hpost]
          simpa [countsFor, hpost] using hearlier
      | true =>
          have hle : arrival.now ≤ now :=
            hnow _ (List.mem_append_right _ (by simp [clockReadings, hpost]))
          by_cases hclient : client = arrival.request.clientHost
          · subst hclient
            rw [dispatch_hits_self limit hpost, recent_append, recent_append,
              recent_recent_of_le hle, hearlier]
            simp [countsFor, hpost, outcomeAfter, handleRequest_some hlimit]
          · rw [dispatch_hits_of_ne limit _ _ _ hclient]
            simpa [countsFor, Ne.symm hclient] using hearlier

/-- The decision looks only at the client's own passed-on webhook POSTs of the
last minute. -/
theorem outcomeAfter_passedOn_iff {earlier : List Arrival} {arrival : Arrival}
    (hpost : arrival.request.isWebhookPost = true)
    (hnow : ∀ t ∈ clockReadings earlier, t ≤ arrival.now) :
    outcomeAfter (some limit) earlier arrival = .passedOn ↔
      ((recent 60 arrival.now
        (passedOnTimes (some limit) arrival.request.clientHost earlier)).length : ℤ) < limit := by
  rw [outcomeAfter, handleRequest_some hlimit, dispatch_passedOn_iff limit hpost,
    recent_hits hlimit _ _ hnow]

theorem outcomeAfter_of_not_webhook (earlier : List Arrival) {arrival : Arrival}
    (hpost : arrival.request.isWebhookPost = false) :
    outcomeAfter (some limit) earlier arrival = .passedOn := by
  rw [outcomeAfter, handleRequest_some hlimit, dispatch_of_not_webhook limit hpost]

/-- Two histories in which the client's webhook POSTs were passed on at the same
times decide alike. -/
theorem outcomeAfter_congr {first second : List Arrival} {arrival : Arrival}
    (hfirst : ∀ t ∈ clockReadings first, ∀ now ∈ clockReadings [arrival], t ≤ now)
    (hsecond : ∀ t ∈ clockReadings second, ∀ now ∈ clockReadings [arrival], t ≤ now)
    (htimes : passedOnTimes (some limit) arrival.request.clientHost first =
      passedOnTimes (some limit) arrival.request.clientHost second) :
    outcomeAfter (some limit) first arrival = outcomeAfter (some limit) second arrival := by
  cases hpost : arrival.request.isWebhookPost with
  | false =>
      rw [outcomeAfter_of_not_webhook hlimit first hpost,
        outcomeAfter_of_not_webhook hlimit second hpost]
  | true =>
      have hcounted := (recent_hits hlimit arrival.request.clientHost first
        (le_of_clock hpost hfirst)).trans (htimes ▸
          (recent_hits hlimit arrival.request.clientHost second (le_of_clock hpost hsecond)).symm)
      rw [outcomeAfter, outcomeAfter, handleRequest_some hlimit, handleRequest_some hlimit]
      rcases lt_or_ge ((recent 60 arrival.now
          ((serveAll (some limit) first).hits arrival.request.clientHost)).length : ℤ) limit
        with hroom | hfull
      · rw [dispatch_of_room limit hpost _ _ hroom,
          dispatch_of_room limit hpost _ _ (hcounted ▸ hroom)]
      · rw [dispatch_of_full limit hpost _ _ hfull,
          dispatch_of_full limit hpost _ _ (hcounted ▸ hfull)]

/-- Every passed-on webhook POST of a client came when its window had room. -/
theorem limited_passedOnTimes (client : String) {arrivals : List Arrival}
    (hclock : (clockReadings arrivals).Pairwise (· ≤ ·)) :
    Limited 60 limit (passedOnTimes (some limit) client arrivals) := by
  induction arrivals using List.reverseRecOn with
  | nil => exact limited_nil 60 limit
  | append_singleton earlier arrival ih =>
      rw [clockReadings_concat, List.pairwise_append] at hclock
      rw [passedOnTimes_concat]
      split
      case isFalse => simpa using ih hclock.1
      case isTrue hcounts =>
        obtain ⟨hpost, rfl, hpassed⟩ := countsFor_iff.mp hcounts
        apply (ih hclock.1).concat
        rw [← outcomeAfter_passedOn_iff hlimit hpost (le_of_clock hpost hclock.2.2)]
        exact hpassed

/-- A run without some of the requests that were rejected or came from other
clients passes on the same webhook POSTs of a client. -/
theorem passedOnTimes_thinned (client : String) {keep : Arrival × Outcome → Bool}
    (hkeep : ∀ decision, countsFor client decision = true → keep decision = true)
    {arrivals : List Arrival} (hclock : (clockReadings arrivals).Pairwise (· ≤ ·)) :
    passedOnTimes (some limit) client (thinned (some limit) keep arrivals) =
      passedOnTimes (some limit) client arrivals := by
  induction arrivals using List.reverseRecOn with
  | nil => rfl
  | append_singleton earlier arrival ih =>
      rw [clockReadings_concat, List.pairwise_append] at hclock
      have hearlier := ih hclock.1
      rw [passedOnTimes_concat, thinned, decisions_concat, List.filter_append, List.map_append]
      by_cases hkept : keep (arrival, outcomeAfter (some limit) earlier arrival) = true
      · rw [List.filter_cons_of_pos hkept, List.filter_nil, List.map_singleton, ← thinned,
          passedOnTimes_concat, hearlier]
        by_cases hclient : arrival.request.clientHost = client
        · subst hclient
          rw [outcomeAfter_congr hlimit (thinned_le (some limit) hclock.2.2) hclock.2.2 hearlier]
        · simp [countsFor, hclient]
      · have hcounts := mt (hkeep _) hkept
        rw [List.filter_cons_of_neg hkept, List.filter_nil, List.map_nil, List.append_nil,
          ← thinned, hearlier, if_neg hcounts, List.append_nil]

/-- The rate limit is an exact sliding window for each client. A webhook POST is
passed on exactly when fewer than the limit of its client's passed-on webhook
POSTs came in the minute before, any other request always is, and leaving out
rejected requests and those of other clients changes no decision. No closed
minute holds more than the limit. -/
theorem rate_limit_is_sliding_window {arrivals : List Arrival}
    (hclock : (clockReadings arrivals).Pairwise (· ≤ ·)) :
    (∀ earlier arrival later, arrivals = earlier ++ arrival :: later →
      (arrival.request.isWebhookPost = true →
        (outcomeAfter (some limit) earlier arrival = .passedOn ↔
          (((passedOnTimes (some limit) arrival.request.clientHost earlier).filter
            fun t => arrival.now - 60 ≤ t).length : ℤ) < limit)) ∧
      (arrival.request.isWebhookPost = false →
        outcomeAfter (some limit) earlier arrival = .passedOn) ∧
      ∀ keep : Arrival × Outcome → Bool,
        (∀ decision, countsFor arrival.request.clientHost decision = true →
          keep decision = true) →
        outcomeAfter (some limit) (thinned (some limit) keep earlier) arrival =
          outcomeAfter (some limit) earlier arrival) ∧
    ∀ client start, (((passedOnTimes (some limit) client arrivals).filter
      fun t => start ≤ t ∧ t ≤ start + 60).length : ℤ) ≤ limit := by
  refine ⟨?_, fun client start =>
    (limited_passedOnTimes hlimit client hclock).count_le (by omega) start⟩
  rintro earlier arrival later rfl
  have hsplit : clockReadings (earlier ++ arrival :: later) =
      clockReadings earlier ++ (clockReadings [arrival] ++ clockReadings later) := by
    simp [clockReadings, ← List.map_append, ← List.filter_append]
  rw [hsplit, List.pairwise_append] at hclock
  have hle : ∀ t ∈ clockReadings earlier, ∀ now ∈ clockReadings [arrival], t ≤ now :=
    fun t ht now hnow => hclock.2.2 t ht now (List.mem_append_left _ hnow)
  refine ⟨fun hpost => ?_, outcomeAfter_of_not_webhook hlimit earlier, fun keep hkeep => ?_⟩
  · exact outcomeAfter_passedOn_iff hlimit hpost (le_of_clock hpost hle)
  · exact outcomeAfter_congr hlimit (thinned_le (some limit) hle) hle
      (passedOnTimes_thinned hlimit _ hkeep hclock.1)

end Window

/-- With a limit of one, the second of two deliveries a minute apart is rejected,
and the third, half a minute later, is passed on. -/
theorem rate_limit_of_three_deliveries :
    let delivery : Request := { method := "POST", path := "/webhooks/webex", client := none }
    outcomeAfter (some 1) [⟨delivery, 0⟩] ⟨delivery, 60⟩ ≠ .passedOn ∧
      outcomeAfter (some 1) [⟨delivery, 0⟩, ⟨delivery, 60⟩] ⟨delivery, 90⟩ = .passedOn := by
  intro delivery
  have hpost : delivery.isWebhookPost = true := by decide
  have hclock : (clockReadings
      [⟨delivery, 0⟩, ⟨delivery, 60⟩, ⟨delivery, 90⟩]).Pairwise (· ≤ ·) := by
    decide +kernel
  have hwindow := (rate_limit_is_sliding_window (by decide : (1 : ℤ) ≤ 1) hclock).1
  constructor
  · rw [Ne, (hwindow [⟨delivery, 0⟩] ⟨delivery, 60⟩ [⟨delivery, 90⟩] rfl).1 hpost]
    decide +kernel
  · rw [(hwindow [⟨delivery, 0⟩, ⟨delivery, 60⟩] ⟨delivery, 90⟩ [] rfl).1 hpost]
    decide +kernel

end ByodsServer
