/-
# Structured log lines

A record becomes a JSON object on a line of its own. Messages, ids of requests and names
of agents come from callers, so what has to hold is that no text can end a line or look
like another record: the lines of the log are the records that were shown, each of them
loads as the payload it was made of, and configuring the log again prints no line twice.
-/

import ByodsServer.Python.DateTime
import ByodsServer.Python.JsonRoundTrip

namespace ByodsServer

open Python

/-! ## Records -/

/-- A record of `logging`: its level, the name of its logger, its message with the
arguments in place, the attributes that `extra` set, and the text of the exception it was
logged with. -/
structure LogRecord where
  levelno : ℤ
  levelname : String
  name : String
  message : String
  extra : List (String × Json) := []
  exception : Option String := none

/-- The attributes that `log_event` sets. -/
structure EventFields where
  orgId : Option String := none
  operation : Option String := none
  outcome : Option String := none
  requestId : Option String := none
  conversationId : Option String := none
  sessionId : Option String := none
  agentCount : Option ℤ := none
  trackingId : Option String := none
  agentNames : Option (List String) := none
  virtualAgentId : Option String := none

/-- A text or `None`. -/
def textOrNull (text : Option String) : Json := text.elim .null .str

/-- `log_event`. -/
def logEvent (name : String) (levelno : ℤ) (levelname message : String) (fields : EventFields) :
    LogRecord where
  levelno := levelno
  levelname := levelname
  name := name
  message := message
  extra :=
    [("org_id", textOrNull fields.orgId),
     ("operation", textOrNull fields.operation),
     ("outcome", textOrNull fields.outcome),
     ("request_id", textOrNull fields.requestId),
     ("conversation_id", textOrNull fields.conversationId),
     ("session_id", textOrNull fields.sessionId),
     ("agent_count", fields.agentCount.elim .null .int),
     ("tracking_id", textOrNull fields.trackingId),
     ("agent_names", fields.agentNames.elim .null fun names => .arr (names.map .str)),
     ("virtual_agent_id", textOrNull fields.virtualAgentId)]

/-- The attributes that are printed if they are set. -/
def extraKeys : List String :=
  ["org_id", "operation", "outcome", "request_id", "conversation_id", "session_id", "agent_count",
    "tracking_id", "agent_names", "virtual_agent_id"]

/-- An attribute of a record, unless it is missing or `None`. -/
def LogRecord.attribute (record : LogRecord) (key : String) : Option (String × Json) :=
  match Json.get? record.extra key with
  | none | some .null => none
  | some value => some (key, value)

/-- The payload that `StructuredJsonFormatter.format` builds. -/
def LogRecord.payload (record : LogRecord) (now : DateTime) : List (String × Json) :=
  [("timestamp", .str now.isoformat),
   ("level", .str record.levelname),
   ("logger", .str record.name),
   ("message", .str record.message)] ++
  extraKeys.filterMap record.attribute ++
  (record.exception.map fun text => ("exception", .str text)).toList

/-- `StructuredJsonFormatter.format`. -/
def structuredFormat (now : DateTime) (record : LogRecord) : String :=
  Json.dumps (.obj (record.payload now))

/-! ## The log -/

/-- A formatter of a handler; the plain one is the format text of `logging`. -/
inductive LogFormatter
  | structuredJson
  | plain
  deriving DecidableEq, Repr

/-- The root logger: its level and the formatters of its handlers. -/
structure RootLogger where
  level : ℤ
  handlers : List LogFormatter

/-- `configure_logging`. -/
def configureLogging (useJson : Bool) (level : ℤ) (_ : RootLogger) : RootLogger where
  level := level
  handlers := [if useJson then .structuredJson else .plain]

/-- The text of a record by a formatter; the plain one is the formatter of `logging`. -/
def LogFormatter.format (plainFormat : DateTime → LogRecord → String) (now : DateTime)
    (record : LogRecord) : LogFormatter → String
  | structuredJson => structuredFormat now record
  | plain => plainFormat now record

/-- A record reaches the root logger, whose handlers write it to the stream. -/
def RootLogger.log (plainFormat : DateTime → LogRecord → String) (root : RootLogger)
    (stream : String) (timed : DateTime × LogRecord) : String :=
  if timed.2.levelno < root.level then stream
  else
    root.handlers.foldl
      (fun stream handler => stream ++ handler.format plainFormat timed.1 timed.2 ++ "\n") stream

/-- The stream after some records. -/
def RootLogger.logAll (plainFormat : DateTime → LogRecord → String) (root : RootLogger)
    (records : List (DateTime × LogRecord)) : String :=
  records.foldl (root.log plainFormat) ""

/-! ## One line for each record -/

variable {floatRepr : Json.FloatRepr}

/-- The values of the attributes of a record can be loaded again. -/
def LogRecord.Loadable (floatRepr : Json.FloatRepr) (record : LogRecord) : Prop :=
  ∀ field ∈ record.extra, Json.Loadable floatRepr field.2

theorem loadable_textOrNull (text : Option String) :
    Json.Loadable floatRepr (textOrNull text) := by
  cases text with
  | none => exact .null
  | some text => exact .str text

/-- What `log_event` records can be loaded again. -/
theorem logEvent_loadable (name : String) (levelno : ℤ) (levelname message : String)
    (fields : EventFields) (hcount : ∀ count ∈ fields.agentCount, Json.PrintableInt count) :
    (logEvent name levelno levelname message fields).Loadable floatRepr := by
  have hagents : Json.Loadable floatRepr (fields.agentCount.elim .null .int) := by
    cases hagentCount : fields.agentCount with
    | none => exact .null
    | some count => exact .int (hcount count hagentCount)
  have hnames : Json.Loadable floatRepr
      (fields.agentNames.elim .null fun names => .arr (names.map .str)) := by
    cases fields.agentNames with
    | none => exact .null
    | some names => exact .arr (List.forall_mem_map.mpr fun name _ => .str name)
  simp only [LogRecord.Loadable, logEvent, List.forall_mem_cons, loadable_textOrNull, hagents,
    hnames, true_and]
  exact List.forall_mem_nil _

theorem mem_of_lookup {fields : List (String × Json)} {name : String} {value : Json}
    (h : Json.get? fields name = some value) : (name, value) ∈ fields := by
  obtain ⟨before, after, rfl, -⟩ := List.lookup_eq_some_iff.mp h
  exact List.mem_append_right _ List.mem_cons_self

/-- A printed attribute is one that was set, under its own name. -/
theorem mem_of_attribute {record : LogRecord} {key : String} {field : String × Json}
    (h : record.attribute key = some field) : field.1 = key ∧ field ∈ record.extra := by
  unfold LogRecord.attribute at h
  split at h
  · cases h
  · cases h
  · next value hvalue =>
      obtain rfl := Option.some.inj h
      exact ⟨rfl, mem_of_lookup hvalue⟩

theorem map_fst_filterMap_sublist {α β : Type} {f : α → Option (α × β)}
    (hf : ∀ key field, f key = some field → field.1 = key) (keys : List α) :
    ((keys.filterMap f).map Prod.fst).Sublist keys := by
  induction keys with
  | nil => exact List.Sublist.refl []
  | cons key keys ih =>
      cases hfield : f key with
      | none =>
          rw [List.filterMap_cons_none hfield]
          exact ih.cons key
      | some field =>
          rw [List.filterMap_cons_some hfield, List.map_cons, hf key field hfield]
          exact ih.cons_cons key

/-- The keys of a payload are distinct. -/
theorem payload_names_nodup (record : LogRecord) (now : DateTime) :
    ((record.payload now).map Prod.fst).Nodup := by
  have hextra : ((extraKeys.filterMap record.attribute).map Prod.fst).Sublist extraKeys :=
    map_fst_filterMap_sublist (fun _ _ h => (mem_of_attribute h).1) extraKeys
  have hexception : ((record.exception.map fun text =>
      ("exception", Json.str text)).toList.map Prod.fst).Sublist ["exception"] := by
    cases record.exception with
    | none => exact List.nil_sublist _
    | some text => exact List.Sublist.refl _
  have hnames : ((record.payload now).map Prod.fst).Sublist
      (["timestamp", "level", "logger", "message"] ++ extraKeys ++ ["exception"]) := by
    simp only [LogRecord.payload, List.map_append]
    exact ((List.Sublist.refl _).append hextra).append hexception
  exact hnames.nodup (by decide)

theorem payload_loadable {record : LogRecord} (h : record.Loadable floatRepr) (now : DateTime) :
    Json.Loadable floatRepr (.obj (record.payload now)) := by
  refine .obj (payload_names_nodup record now) fun field hfield => ?_
  simp only [LogRecord.payload, List.mem_append] at hfield
  rcases hfield with (hfield | hfield) | hfield
  · simp only [List.mem_cons, List.not_mem_nil, or_false] at hfield
    rcases hfield with rfl | rfl | rfl | rfl <;> exact .str _
  · obtain ⟨key, -, hkey⟩ := List.mem_filterMap.mp hfield
    exact h field (mem_of_attribute hkey).2
  · rw [Option.mem_toList, Option.map_eq_some_iff] at hfield
    obtain ⟨text, -, rfl⟩ := hfield
    exact .str text

/-- A line is printable ASCII: whatever a text contains, it ends no line. -/
theorem structuredFormat_printable {record : LogRecord} (h : record.Loadable floatRepr)
    (now : DateTime) : ∀ c ∈ (structuredFormat now record).toList, Json.PrintableAscii c := by
  rw [structuredFormat, Json.dumps, String.toList_ofList]
  exact Json.printableAscii_dump _ 0 (payload_loadable h now)

theorem loads_structuredFormat {record : LogRecord} (h : record.Loadable floatRepr)
    (now : DateTime) :
    Json.loads floatRepr (structuredFormat now record) = .ok (.obj (record.payload now)) :=
  Json.loads_dumps none (payload_loadable h now)

/-! ## The stream -/

/-- The lines of a text; a text that ends a line has an empty one after it. -/
def linesOf (text : String) : List String := (text.toList.splitOn '\n').map String.ofList

theorem foldl_lines (lines : List String) (stream : String) :
    (lines.foldl (fun stream line => stream ++ line ++ "\n") stream).toList =
      stream.toList ++ lines.flatMap fun line => line.toList ++ ['\n'] := by
  induction lines generalizing stream with
  | nil => rw [List.foldl_nil, List.flatMap_nil, List.append_nil]
  | cons line lines ih =>
      rw [List.foldl_cons, ih, String.toList_append, String.toList_append, List.flatMap_cons]
      simp only [List.append_assoc]
      rfl

theorem splitOn_lines {lines : List String} (h : ∀ line ∈ lines, '\n' ∉ line.toList) :
    (lines.flatMap fun line => line.toList ++ ['\n']).splitOn '\n' =
      lines.map String.toList ++ [[]] := by
  induction lines with
  | nil => rfl
  | cons line lines ih =>
      rw [List.forall_mem_cons] at h
      rw [List.flatMap_cons, List.append_assoc, List.singleton_append,
        List.splitOn_append_cons_self_of_not_mem h.1, ih h.2]
      rfl

/-- Lines without a line feed are the lines of the text that ends each of them with one. -/
theorem linesOf_foldl {lines : List String} (h : ∀ line ∈ lines, '\n' ∉ line.toList) :
    linesOf (lines.foldl (fun stream line => stream ++ line ++ "\n") "") = lines ++ [""] := by
  rw [linesOf, foldl_lines, String.toList_empty, List.nil_append, splitOn_lines h, List.map_append,
    List.map_map]
  congr 1
  exact (List.map_congr_left fun line _ => String.ofList_toList).trans (List.map_id lines)

/-- The records that a root logger of this level shows. -/
def shownRecords (level : ℤ) (records : List (DateTime × LogRecord)) :
    List (DateTime × LogRecord) :=
  records.filter fun timed => level ≤ timed.2.levelno

/-- Configured for JSON, however it was configured before, the root logger writes one line for
each record it shows. -/
theorem logAll_configured (plainFormat : DateTime → LogRecord → String) (level : ℤ)
    (before : RootLogger) (records : List (DateTime × LogRecord)) :
    (configureLogging true level before).logAll plainFormat records =
      ((shownRecords level records).map fun timed => structuredFormat timed.1 timed.2).foldl
        (fun stream line => stream ++ line ++ "\n") "" := by
  have hconfigured : configureLogging true level before = ⟨level, [.structuredJson]⟩ := rfl
  rw [hconfigured]
  have hfold (stream : String) :
      records.foldl ((RootLogger.mk level [.structuredJson]).log plainFormat) stream =
        ((shownRecords level records).map fun timed => structuredFormat timed.1 timed.2).foldl
          (fun stream line => stream ++ line ++ "\n") stream := by
    induction records generalizing stream with
    | nil => rfl
    | cons timed records ih =>
        rw [List.foldl_cons, ih, RootLogger.log]
        by_cases hlevel : timed.2.levelno < level
        · have hhidden : shownRecords level (timed :: records) = shownRecords level records :=
            List.filter_cons_of_neg (by simpa using hlevel)
          rw [if_pos hlevel, hhidden]
        · have hshown : shownRecords level (timed :: records) =
              timed :: shownRecords level records :=
            List.filter_cons_of_pos (by simpa using hlevel)
          rw [if_neg hlevel, hshown]
          rfl
  exact hfold ""

/-- Whatever the texts in the records are, the lines of the log are those of the records it
shows, in their order: each is printable ASCII and loads as the payload of its record. -/
theorem log_lines_are_records (plainFormat : DateTime → LogRecord → String) (level : ℤ)
    (before : RootLogger) {records : List (DateTime × LogRecord)}
    (h : ∀ timed ∈ records, timed.2.Loadable floatRepr) :
    ∃ lines : List String,
      linesOf ((configureLogging true level before).logAll plainFormat records) = lines ++ [""] ∧
      List.Forall₂ (fun line timed =>
        Json.loads floatRepr line = .ok (.obj (timed.2.payload timed.1)) ∧
          ∀ c ∈ line.toList, Json.PrintableAscii c) lines (shownRecords level records) := by
  have hshown : ∀ timed ∈ shownRecords level records, timed.2.Loadable floatRepr :=
    fun timed htimed => h timed (List.mem_of_mem_filter htimed)
  refine ⟨(shownRecords level records).map fun timed => structuredFormat timed.1 timed.2, ?_, ?_⟩
  · rw [logAll_configured, linesOf_foldl]
    intro line hline hfeed
    obtain ⟨timed, htimed, rfl⟩ := List.mem_map.mp hline
    exact absurd (structuredFormat_printable (hshown timed htimed) timed.1 _ hfeed) (by decide)
  · rw [List.forall₂_map_left_iff, List.forall₂_same]
    intro timed htimed
    exact ⟨loads_structuredFormat (hshown timed htimed) timed.1,
      structuredFormat_printable (hshown timed htimed) timed.1⟩

/-- A message with a line of its own, as a caller might send it. -/
def forgedRecord : LogRecord :=
  logEvent "byods-webhook-server" 20 "INFO" "webhook received\n\x7b\"level\": \"ERROR\"\x7d"
    { requestId := some "\"\n" }

/-- It is printed on one line. -/
theorem log_lines_are_records_forged :
    ∃ lines : List String, lines.length = 1 ∧
      linesOf ((configureLogging true 20 ⟨30, []⟩).logAll (fun _ record => record.message)
        [(⟨2026, 6, 13, 12, 0, 0, 0, some 0⟩, forgedRecord)]) = lines ++ [""] := by
  have hloadable : ∀ timed ∈ [((⟨2026, 6, 13, 12, 0, 0, 0, some 0⟩ : DateTime), forgedRecord)],
      timed.2.Loadable id := by
    rw [List.forall_mem_singleton]
    exact logEvent_loadable _ _ _ _ _ fun _ hcount => nomatch hcount
  obtain ⟨lines, hlines, hrecords⟩ :=
    log_lines_are_records (fun _ record => record.message) 20 ⟨30, []⟩ hloadable
  exact ⟨lines, hrecords.length_eq, hlines⟩

end ByodsServer
