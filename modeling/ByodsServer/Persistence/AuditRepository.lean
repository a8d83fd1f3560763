/-
# The audit log

`record_event` with the redaction of details, and `list_events`. The pattern is the source's
`(access_token|refresh_token|Bearer\s+\S+)`, ignoring case; at one position at
most one of its alternatives matches, and the last one matches as soon as some
white space and then something else follows.
-/

import ByodsServer.Persistence.OrgRepository
import ByodsServer.Python.IsoOrder
import ByodsServer.Python.Text

namespace ByodsServer

open Python

/-- `AuditEventType`. -/
inductive AuditEventType
  | authorized
  | deauthorized
  | processingFailure
  deriving DecidableEq, Repr

/-- The stored text of an event type. -/
def AuditEventType.text : AuditEventType → String
  | authorized => "authorized"
  | deauthorized => "deauthorized"
  | processingFailure => "processing_failure"

/-- `AuditOutcome`. -/
inductive AuditOutcome
  | success
  | failure
  deriving DecidableEq, Repr

/-- The stored text of an outcome. -/
def AuditOutcome.text : AuditOutcome → String
  | success => "success"
  | failure => "failure"

/-! ## Redaction -/

/-- A lower-case letter of the pattern matches a code point, ignoring case; two
letters have a further form outside ASCII. -/
def matchesIgnoringCase (letter c : Char) : Bool :=
  c.toLower == letter || (letter == 's' && c.toNat == 0x17F) || (letter == 'k' && c.toNat == 0x212A)

/-- The text after a literal of the pattern. -/
def afterLiteral : List Char → List Char → Option (List Char)
  | [], text => some text
  | _ :: _, [] => none
  | letter :: letters, c :: text =>
      if matchesIgnoringCase letter c then afterLiteral letters text else none

/-- The text after `Bearer\s+\S+`. -/
def afterBearer (text : List Char) : Option (List Char) := do
  let afterWord ← afterLiteral "bearer".toList text
  let afterSpace := afterWord.dropWhile isSpace
  let afterToken := afterSpace.dropWhile fun c => !isSpace c
  if afterSpace.length < afterWord.length ∧ afterToken.length < afterSpace.length then
    some afterToken
  else none

/-- The text after a match of `_TOKEN_PATTERN` at the start of a text. -/
def afterTokenPattern (text : List Char) : Option (List Char) :=
  (afterLiteral "access_token".toList text).or
    ((afterLiteral "refresh_token".toList text).or (afterBearer text))

/-- `_TOKEN_PATTERN.sub("[REDACTED]", text)`, from left to right; the fuel is the
length of the text. -/
def redactFrom : ℕ → List Char → List Char
  | 0, text => text
  | _ + 1, [] => []
  | fuel + 1, c :: text =>
      match afterTokenPattern (c :: text) with
      | some rest => "[REDACTED]".toList ++ redactFrom fuel rest
      | none => c :: redactFrom fuel text

/-- `sanitize_detail`. -/
def sanitizeDetail (detail : Option String) (maxLength : ℕ := 500) : Option String :=
  match detail with
  | none => none
  | some detail =>
      if detail = "" then none
      else some (String.ofList ((redactFrom detail.toList.length detail.toList).take maxLength))

example : sanitizeDetail (some "401 for bearer  abc.def, ACCESS_TOKEN=x") =
    some "401 for [REDACTED] [REDACTED]=x" := by
  decide

/-! ## Recording -/

/-- `int((now + timedelta(days=ttl_days)).timestamp())`. -/
def expiresAt (now : DateTime) (ttlDays : Int) : Except PyException Int :=
  let day := now.toordinal + ttlDays
  if ttlDays.natAbs > 999999999 ∨ day < 1 ∨ day > 3652059 then
    .error (.other "OverflowError" "date value out of range")
  else
    .ok ((now.epochMicroseconds + ttlDays * 86400 * 1000000).tdiv 1000000)

/-- An optional text as a stored attribute. -/
def optionalText : Option String → Attr
  | none => .null
  | some text => .str text

/-- The key of an audit item. -/
def auditKey (orgId : String) (now : DateTime) (eventId : String) : Key :=
  ⟨orgPk orgId, "AUDIT#" ++ now.isoformat ++ "#" ++ eventId⟩

/-- What a caller of `record_event` says about an event. -/
structure AuditEvent where
  orgId : String
  eventType : AuditEventType
  outcome : AuditOutcome
  requestId : Option String
  detail : Option String := none
  deriving DecidableEq, Repr

/-- The attributes of an audit item. -/
def auditAttrs (now : DateTime) (expiresAt : Int) (event : AuditEvent) : Attrs :=
  [("org_id", .str event.orgId),
   ("event_type", .str event.eventType.text),
   ("outcome", .str event.outcome.text),
   ("timestamp", .str now.isoformat),
   ("request_id", optionalText event.requestId),
   ("detail", optionalText (sanitizeDetail event.detail)),
   ("expires_at", .int expiresAt)]

/-- `record_event`, at a time and with an event id. -/
def recordEvent (ttlDays : Int) (now : DateTime) (eventId : String) (event : AuditEvent) :
    TableProgram Unit := do
  let expires ← Effects.Program.ofExcept (expiresAt now ttlDays)
  putItem ⟨auditKey event.orgId now eventId, auditAttrs now expires event⟩

/-- An event is recorded under a sort key of its own kind. -/
theorem recordEvent_uses (ttlDays : Int) (now : DateTime) (eventId : String)
    (event : AuditEvent) :
    (recordEvent ttlDays now eventId event).Uses fun request =>
      ∃ attrs, request = TableCall.putItem ⟨auditKey event.orgId now eventId, attrs⟩ := by
  rw [recordEvent]
  cases expiresAt now ttlDays with
  | error e => trivial
  | ok expires => exact Effects.Program.uses_await ⟨_, rfl⟩

/-! ## Listing -/

/-- An event as `list_events` returns it. -/
structure ListedEvent where
  orgId : String
  eventType : String
  outcome : String
  timestamp : String
  requestId : Attr
  detail : Attr
  deriving DecidableEq, Repr

/-- `str(item.get(name, default))`. -/
def attrText (item : Item) (name default : String) : String :=
  ((item.get? name).getD (.str default)).toText

/-- What `list_events` says about an item. -/
def listedEvent (orgId : String) (item : Item) : ListedEvent where
  orgId := attrText item "org_id" orgId
  eventType := attrText item "event_type" ""
  outcome := attrText item "outcome" ""
  timestamp := attrText item "timestamp" ""
  requestId := (item.get? "request_id").getD .null
  detail := (item.get? "detail").getD .null

/-- `list_events`: the newest items are asked for, and of these the ones are kept
whose timestamp is not before the text of `since`. -/
def listEvents (orgId : String) (limit : ℕ := 20) (since : Option AwareDateTime := none) :
    TableProgram (List ListedEvent) := do
  let response ← query ⟨orgPk orgId, "AUDIT#", false, some limit⟩
  let items := match since with
    | none => response.items
    | some since =>
        response.items.filter fun item => since.isoformat ≤ attrText item "timestamp" ""
  return items.map (listedEvent orgId)

end ByodsServer
