/-
# The responses of a media stream

`ProcessCallerInput` as two tasks that meet in a queue: the reader, whose `finally`
clause puts the end marker, and the loop that yields responses until it takes a
marker. Whoever holds a turn puts responses and markers too. The queue is unbounded,
so that `put` neither waits nor raises.
-/

import ByodsServer.Byova.ObligingSdk
import ByodsServer.Byova.TryStatement
import ByodsServer.Effects.MarkedQueue

namespace ByodsServer

open Effects

variable {Session Turn Response : Type}

/-- What happens on a stream: a call of the reader and its answer, a response or a
marker from the holder of a turn, or a round of the response loop. -/
inductive StreamEvent (Session Turn Response : Type)
  | reader (answered : Answered (mediaCalls Session Turn) MediaException)
  | sendResponse (response : Response)
  | closeStream
  | get

namespace StreamEvent

def readerCall? :
    StreamEvent Session Turn Response → Option (Answered (mediaCalls Session Turn) MediaException)
  | .reader answered => some answered
  | _ => none

/-- What an event is to `response_queue`. -/
def queueEvent? : StreamEvent Session Turn Response → Option (QueueEvent Response)
  | .reader ⟨.putNone, _⟩ => some (.put none)
  | .reader _ => none
  | .sendResponse response => some (.put (some response))
  | .closeStream => some (.put none)
  | .get => some .take

/-- An event that only the holder of a turn can bring about. -/
def needsTurn : StreamEvent Session Turn Response → Bool
  | .sendResponse _ | .closeStream => true
  | _ => false

end StreamEvent

section Stream

/-- The calls of the reader among some events. -/
def readerCalls (events : List (StreamEvent Session Turn Response)) :
    List (Answered (mediaCalls Session Turn) MediaException) :=
  events.filterMap StreamEvent.readerCall?

/-- What some events are to the queue. -/
def queueEvents (events : List (StreamEvent Session Turn Response)) :
    List (QueueEvent Response) :=
  events.filterMap StreamEvent.queueEvent?

/-- What was put on the queue. -/
def queued (events : List (StreamEvent Session Turn Response)) : List (Option Response) :=
  MarkedQueue.puts (queueEvents events)

/-- The rounds of the loop. -/
def rounds (events : List (StreamEvent Session Turn Response)) : ℕ :=
  MarkedQueue.takes (queueEvents events)

/-- The responses that the loop has yielded. -/
def yielded (events : List (StreamEvent Session Turn Response)) : List Response :=
  (MarkedQueue.run (queueEvents events)).received

/-- The loop has come to its `break`. -/
def LoopEnded (events : List (StreamEvent Session Turn Response)) : Prop :=
  (MarkedQueue.run (queueEvents events)).stopped = true

/-- Responses and markers come from turns that the reader has made. -/
def SentByTurns (events : List (StreamEvent Session Turn Response)) : Prop :=
  ∀ before event after, events = before ++ event :: after → event.needsTurn = true →
    ∃ session turnNumber turn, ⟨.turnContext session turnNumber, .ok turn⟩ ∈ readerCalls before

/-- A marker was put, and whatever comes later, a loop that goes on for as many rounds
as anything was put has yielded what was put before the first marker, and has ended. -/
structure EndsAtMarker (events : List (StreamEvent Session Turn Response)) : Prop where
  marked : none ∈ queued events
  ends : ∀ later, readerCalls later = [] → (queued events).length ≤ rounds later →
    LoopEnded (events ++ later) ∧
      ∃ rest, queued events = (yielded (events ++ later)).map some ++ none :: rest

variable {events : List (StreamEvent Session Turn Response)}

theorem endsAtMarker_iff : EndsAtMarker events ↔ none ∈ queued events := by
  constructor
  · intro h
    exact h.marked
  · intro hmarked
    refine ⟨hmarked, fun later _ hrounds => ?_⟩
    have hstops := MarkedQueue.stops_at_marker hmarked hrounds
    have happend : queueEvents (events ++ later) = queueEvents events ++ queueEvents later :=
      List.filterMap_append
    rw [LoopEnded, yielded, happend]
    exact hstops

/-- A marker comes from the reader or from `close_stream`. -/
theorem none_mem_queued_iff :
    none ∈ queued events ↔
      (∃ reply, ⟨.putNone, reply⟩ ∈ readerCalls events) ∨ .closeStream ∈ events := by
  unfold queued readerCalls MarkedQueue.puts queueEvents
  simp only [List.mem_filterMap]
  constructor
  · rintro ⟨queueEvent, ⟨event, hmem, hevent⟩, hput⟩
    cases event with
    | reader answered =>
        obtain ⟨request, reply⟩ := answered
        cases request with
        | putNone => exact Or.inl ⟨reply, _, hmem, rfl⟩
        | _ => cases hevent
    | sendResponse response =>
        cases hevent
        cases hput
    | closeStream => exact Or.inr hmem
    | get =>
        cases hevent
        cases hput
  · rintro (⟨reply, event, hmem, hcall⟩ | hmem)
    · cases event with
      | reader answered =>
          obtain rfl := Option.some.inj hcall
          exact ⟨_, ⟨_, hmem, rfl⟩, rfl⟩
      | _ => cases hcall
    · exact ⟨_, ⟨_, hmem, rfl⟩, rfl⟩

/-- A response that was yielded was sent. -/
theorem sendResponse_mem_of_mem_yielded {response : Response} (h : response ∈ yielded events) :
    .sendResponse response ∈ events := by
  obtain ⟨queueEvent, hqueued, hput⟩ :=
    List.mem_filterMap.mp (MarkedQueue.mem_puts_of_mem_received h)
  obtain ⟨event, hmem, hevent⟩ := List.mem_filterMap.mp hqueued
  cases event with
  | reader answered =>
      obtain ⟨request, reply⟩ := answered
      cases request with
      | putNone =>
          cases hevent
          cases hput
      | _ => cases hevent
  | sendResponse sent =>
      cases hevent
      cases hput
      exact hmem
  | closeStream =>
      cases hevent
      cases hput
  | get =>
      cases hevent
      cases hput

/-- The call that keeps the marker from being put. -/
def UnregisterRaises
    (calls : List (Answered (mediaCalls Session Turn) MediaException)) : Prop :=
  ∃ conversationId ofStream e, ⟨.unregisterStream conversationId ofStream, .error e⟩ ∈ calls

/-- The last call of the reader. -/
theorem trace_putNone {σ : Type} (handler : Handler (mediaCalls Session Turn) MediaException σ)
    (result : Except MediaException Unit) (state : σ) :
    ((callMedia .putNone : MediaProgram Session Turn Unit).resume
      (Program.andThen fun _ => Program.ofExcept result)).trace handler state =
        [⟨.putNone, (handler .putNone state).1⟩] := by
  show _ :: Program.trace handler (Program.andThen (fun _ => Program.ofExcept result)
    (handler .putNone state).1) _ = _
  cases (handler .putNone state).1 with
  | ok _ => rfl
  | error e => rfl

/-- The `finally` clause puts the marker unless its first call raises. -/
theorem finallyClause_puts_iff {σ : Type}
    (handler : Handler (mediaCalls Session Turn) MediaException σ) (streamId : String)
    (locals : ReaderLocals Session Turn) (result : Except MediaException Unit) (state : σ) :
    let calls := (finallyClause streamId locals result).trace handler state
    (∃ reply, ⟨.putNone, reply⟩ ∈ calls) ↔ ¬ UnregisterRaises calls := by
  dsimp only
  by_cases hid : locals.conversationId = ""
  · have htrace : (finallyClause streamId locals result).trace handler state =
        [⟨.putNone, (handler .putNone state).1⟩] := by
      rw [finallyClause, if_neg (not_not.mpr hid)]
      exact trace_putNone handler result state
    rw [htrace]
    refine iff_of_true ⟨_, List.mem_singleton_self _⟩ ?_
    rintro ⟨conversationId, ofStream, e, hmem⟩
    cases (List.mem_singleton.mp hmem)
  · have htrace : (finallyClause streamId locals result).trace handler state =
        ⟨.unregisterStream locals.conversationId streamId,
          (handler (.unregisterStream locals.conversationId streamId) state).1⟩ ::
          ((Program.andThen (fun _ => callMedia .putNone)
            (handler (.unregisterStream locals.conversationId streamId) state).1).resume
              (Program.andThen fun _ => Program.ofExcept result)).trace handler
                (handler (.unregisterStream locals.conversationId streamId) state).2 := by
      rw [finallyClause, if_pos hid]
      rfl
    rw [htrace]
    cases hreply : (handler (.unregisterStream locals.conversationId streamId) state).1 with
    | ok reply =>
        rw [Program.andThen_ok, trace_putNone]
        refine iff_of_true ⟨_, List.mem_cons_of_mem _ (List.mem_singleton_self _)⟩ ?_
        rintro ⟨conversationId, ofStream, e, hmem⟩
        rcases List.mem_cons.mp hmem with hfirst | hlast
        · cases hfirst
        · cases (List.mem_singleton.mp hlast)
    | error e =>
        refine iff_of_false ?_ (not_not.mpr ⟨_, _, e, List.mem_cons_self⟩)
        rintro ⟨reply, hmem⟩
        rcases List.mem_cons.mp hmem with hfirst | hlast
        · cases hfirst
        · cases hlast

/-- The reader puts the marker unless `unregister_stream` raises. -/
theorem requestReader_puts_iff {σ : Type}
    (handler : Handler (mediaCalls Session Turn) MediaException σ) (streamId : String)
    (config : MediaConfig) (dtmfMap : Int → Option String) (requests : List VoiceVARequest)
    (state : σ) :
    let calls := (requestReader streamId config dtmfMap requests).trace handler state
    (∃ reply, ⟨.putNone, reply⟩ ∈ calls) ↔ ¬ UnregisterRaises calls := by
  obtain ⟨inside, locals, result, reached, htrace, hinside⟩ :=
    (requestReader_inTry streamId config dtmfMap requests).exists_finally handler state
  have hputs (reply : Except MediaException ((mediaCalls Session Turn).Reply .putNone)) :
      ⟨.putNone, reply⟩ ∉ inside :=
    fun hmem => hinside _ hmem trivial
  have hunregisters (conversationId ofStream : String) (e : MediaException) :
      (⟨.unregisterStream conversationId ofStream, .error e⟩ :
        Answered (mediaCalls Session Turn) MediaException) ∉ inside :=
    fun hmem => hinside _ hmem trivial
  have hfinally := finallyClause_puts_iff handler streamId locals result reached
  dsimp only at hfinally ⊢
  rw [htrace]
  simpa only [UnregisterRaises, List.mem_append, hputs, hunregisters, false_or] using hfinally

end Stream

/-- However the reader ends: the loop gets its marker, yields what was put before it
and ends, exactly when `unregister_stream` did not raise, or the application has
closed the stream. -/
theorem responseLoop_ends_iff {σ : Type}
    (handler : Handler (mediaCalls Session Turn) MediaException σ) (streamId : String)
    (config : MediaConfig) (dtmfMap : Int → Option String) (requests : List VoiceVARequest)
    (state : σ) (events : List (StreamEvent Session Turn Response))
    (hreader : readerCalls events =
      (requestReader streamId config dtmfMap requests).trace handler state) :
    EndsAtMarker events ↔ ¬ UnregisterRaises (readerCalls events) ∨ .closeStream ∈ events := by
  rw [endsAtMarker_iff, none_mem_queued_iff, hreader]
  exact or_congr_left (requestReader_puts_iff handler streamId config dtmfMap requests state)

/-! ## One message -/

/-- A message of a conversation. -/
def oneMessage : List VoiceVARequest := [⟨"a", "", "", none, none, none⟩]

/-- The reader alone on its stream. -/
def readerAlone (calls : List (Answered (mediaCalls Session Turn) MediaException)) :
    List (StreamEvent Session Turn Response) :=
  calls.map .reader

theorem readerCalls_readerAlone
    (calls : List (Answered (mediaCalls Session Turn) MediaException)) :
    readerCalls (readerAlone calls : List (StreamEvent Session Turn Response)) = calls := by
  rw [readerCalls, readerAlone, List.filterMap_map]
  exact List.filterMap_some

theorem responseLoop_ends_iff_oneMessage :
    EndsAtMarker (readerAlone ((requestReader "stream" ⟨false, 8000⟩ (fun _ => none)
      oneMessage).trace obligingSdk ()) : List (StreamEvent Unit Unit String)) := by
  refine (responseLoop_ends_iff obligingSdk "stream" ⟨false, 8000⟩ (fun _ => none) oneMessage ()
    _ (readerCalls_readerAlone _)).mpr (Or.inl ?_)
  rintro ⟨conversationId, ofStream, e, hmem⟩
  rw [readerCalls_readerAlone] at hmem
  obtain ⟨reply, hreply⟩ := obligingSdk_answers hmem
  cases hreply

/-- The store cannot unregister a stream. -/
def brokenStore : Handler (mediaCalls Unit Unit) MediaException Unit
  | .unregisterStream _ _, state =>
      (.error (.exception (.runtimeError "store unavailable")), state)
  | request, state => obligingSdk request state

/-- The reader has ended without a marker, and the loop waits for one for ever. -/
theorem response_loop_waits_forever :
    let events : List (StreamEvent Unit Unit String) :=
      readerAlone ((requestReader "stream" ⟨false, 8000⟩ (fun _ => none) oneMessage).trace
        brokenStore ())
    ¬ EndsAtMarker events ∧ ∀ later, readerCalls later = [] → .closeStream ∉ later →
      ¬ LoopEnded (events ++ later) := by
  intro events
  have hqueued : queued events = [] := rfl
  refine ⟨fun h => ?_, fun later hcalls hclose hended => ?_⟩
  · have hmarked := h.marked
    rw [hqueued] at hmarked
    cases hmarked
  · have happend : queueEvents (events ++ later) = queueEvents events ++ queueEvents later :=
      List.filterMap_append
    have hmarker : none ∉ MarkedQueue.puts (queueEvents (events ++ later)) := by
      rw [happend, MarkedQueue.puts_append]
      show none ∉ queued events ++ queued later
      rw [hqueued, List.nil_append, none_mem_queued_iff, hcalls]
      rintro (⟨reply, hmem⟩ | hmem)
      · cases hmem
      · exact hclose hmem
    rw [LoopEnded, MarkedQueue.not_stopped_of_none_notMem hmarker] at hended
    cases hended

end ByodsServer
