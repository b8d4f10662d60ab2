import LocalCrm.Schema

/-! Reading one raw provider event: its shape, its type, its time and the suppression it calls for. -/

set_option autoImplicit false

namespace LocalCrm.Webhooks

def jsWhitespace (char : Char) : Bool :=
  let code := char.toNat
  (9 ≤ code && code ≤ 13) || (0x2000 ≤ code && code ≤ 0x200A) ||
    [0x20, 0xA0, 0x1680, 0x2028, 0x2029, 0x202F, 0x205F, 0x3000, 0xFEFF].contains code

def jsTrim (text : String) : String :=
  String.ofList ((text.toList.dropWhile jsWhitespace).reverse.dropWhile jsWhitespace).reverse

inductive NormalizedEventType where
  | delivered
  | «open»
  | click
  | bounceHard
  | bounceSoft
  | dropped
  | spamReport
  | unsubscribe
  | groupUnsubscribe
  deriving DecidableEq, Repr

def normalizeEventType (event : String) (type : Option String) : Option NormalizedEventType :=
  match event with
  | "delivered" => some .delivered
  | "open" => some .open
  | "click" => some .click
  | "dropped" => some .dropped
  | "spamreport" => some .spamReport
  | "unsubscribe" => some .unsubscribe
  | "group_unsubscribe" => some .groupUnsubscribe
  | "bounce" => if type = some "blocked" then some .bounceSoft else some .bounceHard
  | _ => none

def maxDateTimeValueMs : Rat := 8640000000000000

def occurredAtMaxPastDays : Int := 7

def occurredAtMaxFutureSkewMinutes : Int := 5

inductive OccurredAtVerdict where
  | accepted (occurredAt : Timestamp)
  | rejected (reason : String)
  | unusable (reason : String)
  deriving DecidableEq, Repr

/-- Date construction drops the fraction of a millisecond. -/
def truncateMs (milliseconds : Rat) : Timestamp :=
  if 0 ≤ milliseconds then milliseconds.floor else milliseconds.ceil

def pastBoundMs (now : Timestamp) : Timestamp := now - occurredAtMaxPastDays * millisecondsPerDay

def futureBoundMs (now : Timestamp) : Timestamp := now + occurredAtMaxFutureSkewMinutes * (60 * 1000)

def classifyOccurredAt (platform : Platform) (timestamp : Option JsonValue) (now : Timestamp) : OccurredAtVerdict :=
  match timestamp with
  | none | some .null => .unusable "missing"
  | some (.number seconds) =>
    let candidateMs := platform.milliseconds seconds
    if candidateMs > maxDateTimeValueMs || -candidateMs > maxDateTimeValueMs then .unusable "out_of_date_range"
    else if candidateMs < pastBoundMs now then .rejected "too_old"
    else if candidateMs > futureBoundMs now then .rejected "too_far_future"
    else .accepted (truncateMs candidateMs)
  | some _ => .unusable "non_finite"

structure SuppressionOutcome where
  status : SubscriptionStatus
  reason : String
  deriving DecidableEq, Repr

def softBounceSuppressThreshold : Nat := 3

def addressDropReasons : List (String × SuppressionOutcome) :=
  [("Bounced Address", ⟨.suppressed, "dropped_bounced_address"⟩),
   ("Spam Reporting Address", ⟨.suppressed, "dropped_spam_reporting_address"⟩),
   ("Invalid Address", ⟨.suppressed, "dropped_invalid_address"⟩),
   ("Unsubscribed Address", ⟨.unsubscribed, "dropped_unsubscribed_address"⟩)]

def resolveSuppression (eventType : NormalizedEventType) (reason : Option String) : Option SuppressionOutcome :=
  match eventType with
  | .bounceHard => some ⟨.suppressed, "hard_bounce"⟩
  | .spamReport => some ⟨.suppressed, "spam_report"⟩
  | .unsubscribe | .groupUnsubscribe => some ⟨.unsubscribed, "unsubscribe"⟩
  | .dropped => reason.bind fun reason => addressDropReasons.lookup reason
  | .delivered | .open | .click | .bounceSoft => none

/-- One accepted event, as the batch stores and applies it. -/
structure ExtractedEvent where
  sgEventId : String
  sendId : Option String
  eventType : String
  reason : Option String
  isTest : Bool
  occurredAt : Timestamp
  normalizedType : Option NormalizedEventType
  deriving DecidableEq, Repr

structure QuarantineCandidate where
  sgEventId : String
  eventType : Option String
  reason : String
  deriving DecidableEq, Repr

inductive ExtractEventOutcome where
  | extracted (row : ExtractedEvent)
  | quarantine (candidate : QuarantineCandidate)
  | skip
  deriving DecidableEq, Repr

def isMarkedTest (value : JsonValue) : Bool := value.stringField "test" == some "true"

/-- The text of the send id: the top-level property first, then the nested one. -/
def rawSendId (event : JsonValue) : Option String :=
  (event.stringField "send_id").or ((event.field "custom_args").bind fun args => args.stringField "send_id")

def extractEventRow (platform : Platform) (raw : JsonValue) (now : Timestamp) : ExtractEventOutcome :=
  let sgEventId := ((raw.stringField "sg_event_id").map jsTrim).getD ""
  if sgEventId.isEmpty then .skip
  else
    match classifyOccurredAt platform (raw.field "timestamp") now with
    | .rejected reason | .unusable reason =>
      .quarantine { sgEventId, eventType := raw.stringField "event", reason }
    | .accepted occurredAt =>
      let eventType := (raw.stringField "event").getD "unknown"
      .extracted
        { sgEventId
          sendId := (rawSendId raw).filter fun text => (platform.uuidValue text).isSome
          eventType
          reason := raw.stringField "reason"
          isTest := isMarkedTest raw || ((raw.field "custom_args").any isMarkedTest)
          occurredAt
          normalizedType := normalizeEventType eventType (raw.stringField "type") }

end LocalCrm.Webhooks
