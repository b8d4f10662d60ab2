import LocalCrm.Library.JsonText
import LocalCrm.Webhooks.QuarantineFailure

/-! A verified batch from the route to its rows, and what one event does to the others. -/

set_option autoImplicit false

namespace LocalCrm.JsonValue

def nul : Char := Char.ofNat 0

def textHoldsNul (text : String) : Bool := text.toList.contains nul

mutual

/-- U+0000 in a string or a key, at any depth. -/
def holdsNul : JsonValue → Bool
  | .string text => textHoldsNul text
  | .array items => itemsHoldNul items
  | .object fields => fieldsHoldNul fields
  | .null | .boolean _ | .number _ => false

def itemsHoldNul : List JsonValue → Bool
  | [] => false
  | first :: rest => first.holdsNul || itemsHoldNul rest

def fieldsHoldNul : List (String × JsonValue) → Bool
  | [] => false
  | (name, value) :: rest => textHoldsNul name || value.holdsNul || fieldsHoldNul rest

end

theorem holdsNul_of_field {fields : List (String × JsonValue)} {name : String} {value : JsonValue}
    (clean : fieldsHoldNul fields = false) (member : (name, value) ∈ fields) : value.holdsNul = false := by
  induction fields with
  | nil => cases member
  | cons first rest ih =>
    rw [fieldsHoldNul, Bool.or_eq_false_iff, Bool.or_eq_false_iff] at clean
    cases member with
    | head => exact clean.1.2
    | tail _ later => exact ih clean.2 later

theorem stringField_clean {value : JsonValue} {name text : String} (clean : value.holdsNul = false)
    (read : value.stringField name = some text) : textHoldsNul text = false := by
  have shown : value.field name = some (.string text) := by
    rw [stringField.eq_def] at read
    split at read
    next found => rw [found, Option.some.inj read]
    next => cases read
  cases value with
  | object fields =>
    obtain ⟨entry, found, same⟩ := Option.map_eq_some_iff.mp shown
    have string := holdsNul_of_field clean (List.mem_of_find?_eq_some found)
    rw [same] at string
    exact string
  | null | boolean _ | number _ | string _ | array _ => cases shown

end LocalCrm.JsonValue

namespace LocalCrm.Webhooks

open Library Delivery JsonValue

section Parsed

/-- The characters of a string in which every surrogate has its other half. -/
def textOf (text : Text) : String := String.ofList ((codePoints text).map Char.ofNat)

mutual

/-- A parsed value as `jsonb` holds it. -/
def jsonOf : JsonText.Value → JsonValue
  | .null => .null
  | .boolean value => .boolean value
  | .number value => .number value
  | .string text => .string (textOf text)
  | .array items => .array (jsonItems items)
  | .object fields => .object (jsonFields fields)

def jsonItems : List JsonText.Value → List JsonValue
  | [] => []
  | first :: rest => jsonOf first :: jsonItems rest

def jsonFields : List (Text × JsonText.Value) → List (String × JsonValue)
  | [] => []
  | (name, value) :: rest => (textOf name, jsonOf value) :: jsonFields rest

end

/-- `jsonb` takes neither U+0000 nor a surrogate without its other half. -/
def textAccepted (text : Text) : Bool := wellFormed text && !text.contains 0

mutual

/-- `JSON.stringify` and the parser of `jsonb` go `levels` arrays and objects deep. -/
def jsonbAccepts (levels : Nat) : JsonText.Value → Bool
  | .null | .boolean _ | .number _ => true
  | .string text => textAccepted text
  | .array items =>
    match levels with
    | 0 => false
    | levels + 1 => itemsAccepted levels items
  | .object fields =>
    match levels with
    | 0 => false
    | levels + 1 => fieldsAccepted levels fields

def itemsAccepted (levels : Nat) : List JsonText.Value → Bool
  | [] => true
  | first :: rest => jsonbAccepts levels first && itemsAccepted levels rest

def fieldsAccepted (levels : Nat) : List (Text × JsonText.Value) → Bool
  | [] => true
  | (name, value) :: rest => textAccepted name && jsonbAccepts levels value && fieldsAccepted levels rest

end

theorem toNat_ofNat_of_scalar {point : Nat} (scalar : IsScalar point) : (Char.ofNat point).toNat = point := by
  have valid : point.isValidChar := by
    unfold IsScalar at scalar
    unfold Nat.isValidChar
    omega
  rw [Char.ofNat, dif_pos valid]
  rfl

theorem textHoldsNul_textOf {text : Text} (accepted : textAccepted text = true) :
    textHoldsNul (textOf text) = false := by
  rw [textAccepted, Bool.and_eq_true, Bool.not_eq_true', List.contains_eq_mem, decide_eq_false_iff_not] at accepted
  obtain ⟨formed, free⟩ := accepted
  obtain ⟨scalars, same⟩ := codePoints_sound formed
  rw [textHoldsNul, List.contains_eq_mem, decide_eq_false_iff_not, textOf, String.toList_ofList]
  intro member
  obtain ⟨point, listed, shown⟩ := List.mem_map.mp member
  have zero : point = 0 := by
    rw [← toNat_ofNat_of_scalar (scalars point listed), shown]
    rfl
  rw [← same, List.mem_flatMap] at free
  exact free ⟨point, listed, by rw [zero]; decide⟩

mutual

theorem holdsNul_jsonOf : ∀ (levels : Nat) (value : JsonText.Value), jsonbAccepts levels value = true →
    (jsonOf value).holdsNul = false
  | _, .null, _ | _, .boolean _, _ | _, .number _, _ => rfl
  | _, .string _, accepted => textHoldsNul_textOf accepted
  | _ + 1, .array items, accepted => itemsHoldNul_jsonItems _ items accepted
  | _ + 1, .object fields, accepted => fieldsHoldNul_jsonFields _ fields accepted

theorem itemsHoldNul_jsonItems : ∀ (levels : Nat) (items : List JsonText.Value), itemsAccepted levels items = true →
    itemsHoldNul (jsonItems items) = false
  | _, [], _ => rfl
  | levels, first :: rest, accepted => by
    rw [itemsAccepted, Bool.and_eq_true] at accepted
    rw [jsonItems, itemsHoldNul, holdsNul_jsonOf levels first accepted.1,
      itemsHoldNul_jsonItems levels rest accepted.2]
    rfl

theorem fieldsHoldNul_jsonFields : ∀ (levels : Nat) (fields : List (Text × JsonText.Value)),
    fieldsAccepted levels fields = true → fieldsHoldNul (jsonFields fields) = false
  | _, [], _ => rfl
  | levels, (name, value) :: rest, accepted => by
    rw [fieldsAccepted, Bool.and_eq_true, Bool.and_eq_true] at accepted
    rw [jsonFields, fieldsHoldNul, textHoldsNul_textOf accepted.1.1, holdsNul_jsonOf levels value accepted.1.2,
      fieldsHoldNul_jsonFields levels rest accepted.2]
    rfl

end

end Parsed

/-- The bound variables of one statement. -/
def maxParameters : Nat := 65535

def columnsPerRow : Nat := 9

structure Submitted where
  row : ExtractedEvent
  payload : JsonValue
  position : Nat
  deriving DecidableEq, Repr

section Delivery

variable (platform : Platform) (nestingLimit : Nat) (fits : SendEvent → Bool) (now : Timestamp) (sends : Sends)
  (workspaceId : WorkspaceId)

def submitted (batch : List (JsonValue × Nat)) : List Submitted :=
  batch.filterMap fun entry =>
    ((rowOf platform now entry.1).bind (submission platform sends workspaceId)).map fun row =>
      { row, payload := entry.1, position := entry.2 }

def rowHoldsNul (row : ExtractedEvent) : Bool :=
  textHoldsNul row.sgEventId || textHoldsNul row.eventType || row.reason.any textHoldsNul

/-- The batch is stringified and stored as a whole. -/
def journalAccepts (events : List JsonText.Value) : Bool := jsonbAccepts nestingLimit (.array events)

/-- One statement takes all rows; `fits` is what the unique index takes beside it. -/
def insertAccepts (rows : List Submitted) : Bool :=
  decide (columnsPerRow * rows.length ≤ maxParameters) && rows.all fun entry =>
    !rowHoldsNul entry.row && !entry.payload.holdsNul && fits (storedEvent platform workspaceId entry.row)

def quarantineAccepts (raw : JsonValue) : Bool :=
  match extractEventRow platform raw now with
  | .quarantine candidate =>
    !textHoldsNul candidate.sgEventId && !candidate.eventType.any textHoldsNul && !raw.holdsNul
  | .extracted _ | .skip => true

def workerAccepts (batch : List (JsonValue × Nat)) : Bool :=
  (batch.all fun entry => quarantineAccepts platform now entry.1) &&
    insertAccepts platform fits workspaceId (submitted platform now sends workspaceId batch)

def jobOf (store : IngressStore) (events : List JsonValue) : WebhookEventsJob :=
  buildWebhookEventsJobPayload workspaceId events (some store.verified.length)

/-- A refused journal row fails the request, a refused statement the job. -/
def deliverBatch (store : IngressStore) (parsed : List JsonText.Value) : IngressStore :=
  if isWorkspaceSoftDeleted store.db.organizations workspaceId || !journalAccepts nestingLimit parsed then store
  else
    let events := parsed.map jsonOf
    let job := jobOf workspaceId store events
    let journaled := store.writeIngressJournal now workspaceId events
    if workerAccepts platform fits now store.db.sends workspaceId events.zipIdx then
      finishBatch platform journaled job now now store.db.sends
    else { journaled with jobs := journaled.jobs ++ [job] }

def jsonBatch (batch : List (JsonText.Value × Nat)) : List (JsonValue × Nat) := batch.map (Prod.map jsonOf id)

def refused (store : IngressStore) (batch : List (JsonText.Value × Nat)) : Bool :=
  isWorkspaceSoftDeleted store.db.organizations workspaceId || !journalAccepts nestingLimit (batch.map Prod.fst) ||
    !workerAccepts platform fits now store.db.sends workspaceId (jsonBatch batch)

def batchStored (store : IngressStore) (batch : List (JsonText.Value × Nat)) : List Submitted :=
  if refused platform nestingLimit fits now workspaceId store batch then []
  else
    winners (fun entry => rowKey platform workspaceId entry.row) (store.db.sendEvents.filterMap dedupKey)
      (submitted platform now store.db.sends workspaceId (jsonBatch batch))

/-- The other events of the batch, at their places. -/
def mates (before after : List JsonText.Value) : List (JsonText.Value × Nat) :=
  before.zipIdx ++ after.zipIdx (before.length + 1)

def isApplied (entry : Submitted) : Bool :=
  !entry.row.isTest && entry.row.normalizedType.isSome &&
    ((entry.row.sendId.bind platform.uuidValue).bind (resolveSend platform.sendIds sends workspaceId)).isSome

/-- The delivery stores and applies the same rows for the other events of the batch as one without the event. -/
structure BatchMatesKept (store : IngressStore) (before : List JsonText.Value) (event : JsonText.Value)
    (after : List JsonText.Value) : Prop where
  stored : (batchStored platform nestingLimit fits now workspaceId store (before ++ event :: after).zipIdx).filter
      (fun entry => entry.position ≠ before.length) =
    batchStored platform nestingLimit fits now workspaceId store (mates before after)
  applied : ((batchStored platform nestingLimit fits now workspaceId store (before ++ event :: after).zipIdx).filter
      (fun entry => entry.position ≠ before.length)).filter (isApplied platform store.db.sends workspaceId) =
    (batchStored platform nestingLimit fits now workspaceId store (mates before after)).filter
      (isApplied platform store.db.sends workspaceId)

/-- The keys that events of the batch ask for under the unique index. -/
def askedKeys (events : List JsonValue) : List (WorkspaceId × SendId × String × Timestamp) :=
  events.filterMap fun raw =>
    ((rowOf platform now raw).bind (submission platform sends workspaceId)).bind (rowKey platform workspaceId)

def displaces (store : IngressStore) (before : List JsonText.Value) (event : JsonText.Value)
    (after : List JsonText.Value) : Bool :=
  (askedKeys platform now store.db.sends workspaceId [jsonOf event]).any fun key =>
    !(store.db.sendEvents.filterMap dedupKey).contains key &&
      !(askedKeys platform now store.db.sends workspaceId (before.map jsonOf)).contains key &&
        (askedKeys platform now store.db.sends workspaceId (after.map jsonOf)).contains key

def nothingNew (store : IngressStore) (batch : List (JsonText.Value × Nat)) : Prop :=
  ∀ entry ∈ submitted platform now store.db.sends workspaceId (jsonBatch batch), ∃ key,
    rowKey platform workspaceId entry.row = some key ∧ key ∈ store.db.sendEvents.filterMap dedupKey

end Delivery

section Texts

variable {platform : Platform} {fits : SendEvent → Bool} {now : Timestamp} {sends : Sends} {workspaceId : WorkspaceId}
  {raw : JsonValue}

theorem jsTrim_clean {text : String} (clean : textHoldsNul text = false) : textHoldsNul (jsTrim text) = false := by
  rw [textHoldsNul, List.contains_eq_mem, decide_eq_false_iff_not] at *
  rw [jsTrim, String.toList_ofList, List.mem_reverse]
  intro member
  have trimmed := (List.dropWhile_sublist _).subset member
  rw [List.mem_reverse] at trimmed
  exact clean ((List.dropWhile_sublist _).subset trimmed)

theorem sgEventId_clean (clean : raw.holdsNul = false) :
    textHoldsNul (((raw.stringField "sg_event_id").map jsTrim).getD "") = false := by
  cases read : raw.stringField "sg_event_id" with
  | none => rfl
  | some text => exact jsTrim_clean (stringField_clean clean read)

theorem texts_of_quarantined {candidate : QuarantineCandidate}
    (quarantined : extractEventRow platform raw now = .quarantine candidate) :
    candidate.sgEventId = ((raw.stringField "sg_event_id").map jsTrim).getD "" ∧
      candidate.eventType = raw.stringField "event" := by
  simp only [extractEventRow] at quarantined
  split at quarantined
  next => cases quarantined
  next =>
    split at quarantined
    next =>
      cases quarantined
      exact ⟨rfl, rfl⟩
    next =>
      cases quarantined
      exact ⟨rfl, rfl⟩
    next => cases quarantined

theorem texts_of_extracted {row : ExtractedEvent} (extracted : extractEventRow platform raw now = .extracted row) :
    row.sgEventId = ((raw.stringField "sg_event_id").map jsTrim).getD "" ∧
      row.eventType = (raw.stringField "event").getD "unknown" ∧ row.reason = raw.stringField "reason" := by
  simp only [extractEventRow] at extracted
  split at extracted
  next => cases extracted
  next =>
    split at extracted
    next => cases extracted
    next => cases extracted
    next =>
      cases extracted
      exact ⟨rfl, rfl, rfl⟩

theorem any_textHoldsNul_clean (clean : raw.holdsNul = false) (name : String) :
    (raw.stringField name).any textHoldsNul = false := by
  cases read : raw.stringField name with
  | none => rfl
  | some text => exact stringField_clean clean read

theorem quarantineAccepts_clean (clean : raw.holdsNul = false) : quarantineAccepts platform now raw = true := by
  rw [quarantineAccepts.eq_def]
  split
  next candidate quarantined =>
    obtain ⟨id, type⟩ := texts_of_quarantined quarantined
    rw [id, sgEventId_clean clean, type, any_textHoldsNul_clean clean, clean]
    rfl
  next => rfl
  next => rfl

theorem rowHoldsNul_clean {row submittedRow : ExtractedEvent} (clean : raw.holdsNul = false)
    (extracted : rowOf platform now raw = some row)
    (handed : submission platform sends workspaceId row = some submittedRow) :
    rowHoldsNul submittedRow = false := by
  obtain ⟨id, type, reason⟩ := texts_of_extracted (extracted_of_rowOf extracted)
  have resolved : submittedRow = resolveRow platform sends workspaceId row := by
    rw [submission] at handed
    split at handed
    next => exact (Option.some.inj handed).symm
    next => cases handed
  have typed : textHoldsNul row.eventType = false := by
    rw [type]
    cases read : raw.stringField "event" with
    | none => decide +kernel
    | some text => exact stringField_clean clean read
  rw [resolved, rowHoldsNul]
  change (textHoldsNul row.sgEventId || textHoldsNul row.eventType || row.reason.any textHoldsNul) = false
  rw [id, sgEventId_clean clean, typed, reason, any_textHoldsNul_clean clean]
  rfl

variable {batch : List (JsonValue × Nat)}

/-- Once the journal has taken a batch, only the number of its rows and their size under the index are left to
refuse it. -/
theorem workerAccepts_clean (clean : ∀ entry ∈ batch, entry.1.holdsNul = false) :
    workerAccepts platform fits now sends workspaceId batch =
      (decide (columnsPerRow * (submitted platform now sends workspaceId batch).length ≤ maxParameters) &&
        (submitted platform now sends workspaceId batch).all fun entry =>
          fits (storedEvent platform workspaceId entry.row)) := by
  have quarantine : (batch.all fun entry => quarantineAccepts platform now entry.1) = true := by
    rw [List.all_eq_true]
    intro entry member
    exact quarantineAccepts_clean (clean entry member)
  rw [workerAccepts, quarantine, Bool.true_and, insertAccepts]
  congr 1
  rw [Bool.eq_iff_iff, List.all_eq_true, List.all_eq_true]
  apply forall₂_congr
  intro entry member
  obtain ⟨source, listed, made⟩ := List.mem_filterMap.mp member
  obtain ⟨row, handed, rfl⟩ := Option.map_eq_some_iff.mp made
  obtain ⟨extractedRow, extracted, passed⟩ := Option.bind_eq_some_iff.mp handed
  simp only [rowHoldsNul_clean (clean source listed) extracted passed, clean source listed, Bool.not_false,
    Bool.true_and]

theorem rows_submitted : (submitted platform now sends workspaceId batch).map Submitted.row =
    (batch.map Prod.fst).filterMap fun raw =>
      (rowOf platform now raw).bind (submission platform sends workspaceId) := by
  rw [submitted, List.map_filterMap, List.filterMap_map]
  apply List.filterMap_congr
  intro entry _
  rw [Option.map_map]
  exact Option.map_id'

theorem workerAccepts_relabelled {other : List (JsonValue × Nat)} (same : batch.map Prod.fst = other.map Prod.fst)
    (clean : ∀ raw ∈ batch.map Prod.fst, raw.holdsNul = false) :
    workerAccepts platform fits now sends workspaceId batch =
      workerAccepts platform fits now sends workspaceId other := by
  have rows := @rows_submitted platform now sends workspaceId batch
  rw [same, ← rows_submitted] at rows
  have lengths := congrArg List.length rows
  rw [List.length_map, List.length_map] at lengths
  have fitting := congrArg (fun rows => rows.all fun row => fits (storedEvent platform workspaceId row)) rows
  simp only [List.all_map] at fitting
  have otherClean : ∀ raw ∈ other.map Prod.fst, raw.holdsNul = false := by rwa [← same]
  rw [workerAccepts_clean fun entry member => clean entry.1 (List.mem_map_of_mem member),
    workerAccepts_clean fun entry member => otherClean entry.1 (List.mem_map_of_mem member), lengths]
  exact congrArg _ fitting

end Texts

section Journal

variable {nestingLimit levels : Nat} {events : List JsonText.Value} {batch : List (JsonText.Value × Nat)}

theorem itemsAccepted_iff : itemsAccepted levels events = true ↔ ∀ raw ∈ events, jsonbAccepts levels raw = true := by
  induction events with
  | nil => simp [itemsAccepted]
  | cons first rest ih => rw [itemsAccepted, Bool.and_eq_true, ih, List.forall_mem_cons]

theorem journalAccepts_iff : journalAccepts nestingLimit events = true ↔
    ∃ levels, nestingLimit = levels + 1 ∧ ∀ raw ∈ events, jsonbAccepts levels raw = true := by
  cases nestingLimit with
  | zero => simp [journalAccepts, jsonbAccepts]
  | succ levels =>
    rw [journalAccepts, jsonbAccepts, itemsAccepted_iff]
    simp

theorem clean_of_journaled (journaled : journalAccepts nestingLimit events = true) :
    ∀ raw ∈ events.map jsonOf, raw.holdsNul = false := by
  obtain ⟨levels, _, each⟩ := journalAccepts_iff.mp journaled
  intro raw member
  obtain ⟨parsed, listed, rfl⟩ := List.mem_map.mp member
  exact holdsNul_jsonOf levels parsed (each parsed listed)

theorem fst_jsonBatch : (jsonBatch batch).map Prod.fst = (batch.map Prod.fst).map jsonOf := by
  rw [jsonBatch, List.map_map, List.map_map]
  rfl

end Journal

section Connection

variable {platform : Platform} {nestingLimit : Nat} {fits : SendEvent → Bool} {now : Timestamp}
  {workspaceId : WorkspaceId} {store : IngressStore} {batch : List (JsonText.Value × Nat)}

theorem addedRows_submitted {job : WebhookEventsJob} (owner : job.workspaceId = workspaceId)
    (events : job.events = (batch.map Prod.fst).map jsonOf) :
    addedRows platform store job now store.db.sends =
      (winners (fun entry => rowKey platform workspaceId entry.row) (store.db.sendEvents.filterMap dedupKey)
        (submitted platform now store.db.sends workspaceId (jsonBatch batch))).map Submitted.row := by
  rw [← winners_map, rows_submitted, fst_jsonBatch, ← submittedRows_filterMap, addedRows, owner, ← events, ← owner]
  rfl

theorem db_deliverBatch : (deliverBatch platform nestingLimit fits now workspaceId store (batch.map Prod.fst)).db =
    if refused platform nestingLimit fits now workspaceId store batch then store.db
    else (finishBatch platform (store.writeIngressJournal now workspaceId ((batch.map Prod.fst).map jsonOf))
      (jobOf workspaceId store ((batch.map Prod.fst).map jsonOf)) now now store.db.sends).db := by
  rw [deliverBatch, refused]
  cases stopped : isWorkspaceSoftDeleted store.db.organizations workspaceId ||
      !journalAccepts nestingLimit (batch.map Prod.fst) with
  | true => rfl
  | false =>
    have journaled : journalAccepts nestingLimit (batch.map Prod.fst) = true := by
      have both := Bool.or_eq_false_iff.mp stopped
      simpa using both.2
    have places : (jsonBatch batch).map Prod.fst = ((batch.map Prod.fst).map jsonOf).zipIdx.map Prod.fst := by
      rw [List.zipIdx_map_fst, fst_jsonBatch]
    rw [workerAccepts_relabelled places (by rw [fst_jsonBatch]; exact clean_of_journaled journaled)]
    simp only [Bool.false_or, Bool.not_eq_true']
    cases workerAccepts platform fits now store.db.sends workspaceId ((batch.map Prod.fst).map jsonOf).zipIdx <;> rfl

theorem sendEvents_deliverBatch :
    (deliverBatch platform nestingLimit fits now workspaceId store (batch.map Prod.fst)).db.sendEvents =
      store.db.sendEvents ++ (batchStored platform nestingLimit fits now workspaceId store batch).map
        fun entry => storedEvent platform workspaceId entry.row := by
  rw [db_deliverBatch, batchStored]
  split
  next => rw [List.map_nil, List.append_nil]
  next =>
    have added := @addedRows_submitted platform now workspaceId store batch
      (jobOf workspaceId store ((batch.map Prod.fst).map jsonOf)) rfl rfl
    rw [sendEvents_finishBatch]
    change store.db.sendEvents ++ (addedRows platform store
      (jobOf workspaceId store ((batch.map Prod.fst).map jsonOf)) now store.db.sends).map
        (storedEvent platform workspaceId) = _
    rw [added, List.map_map]
    rfl

theorem withoutLogs_deliverBatch :
    withoutLogs (deliverBatch platform nestingLimit fits now workspaceId store (batch.map Prod.fst)).db =
      ((batchStored platform nestingLimit fits now workspaceId store batch).map Submitted.row).foldl
        (applyNewRow platform now workspaceId) (withoutLogs store.db) := by
  rw [db_deliverBatch, batchStored]
  split
  next => rfl
  next =>
    have added := @addedRows_submitted platform now workspaceId store batch
      (jobOf workspaceId store ((batch.map Prod.fst).map jsonOf)) rfl rfl
    rw [withoutLogs_finishBatch, ← added]
    rfl

end Connection

section Submissions

variable {platform : Platform} {now : Timestamp} {workspaceId : WorkspaceId} {store : IngressStore}
  {before after : List JsonValue} {event : JsonValue} {place : Nat} {batch rest : List (JsonValue × Nat)}

theorem position_of_submitted {entry : Submitted}
    (member : entry ∈ submitted platform now store.db.sends workspaceId batch) :
    ∃ source ∈ batch, source.2 = entry.position := by
  obtain ⟨source, listed, made⟩ := List.mem_filterMap.mp member
  obtain ⟨row, _, rfl⟩ := Option.map_eq_some_iff.mp made
  exact ⟨source, listed, rfl⟩

theorem position_of_mates {entry : Submitted}
    (member : entry ∈ submitted platform now store.db.sends workspaceId before.zipIdx ++
      submitted platform now store.db.sends workspaceId (after.zipIdx (before.length + 1))) :
    entry.position ≠ before.length := by
  rw [List.mem_append] at member
  rcases member with earlier | later
  · obtain ⟨source, listed, same⟩ := position_of_submitted earlier
    have bound : source.2 < before.length := List.snd_lt_of_mem_zipIdx listed
    omega
  · obtain ⟨source, listed, same⟩ := position_of_submitted later
    have bound : before.length + 1 ≤ source.2 := List.le_snd_of_mem_zipIdx listed
    omega

theorem submitted_append (first second : List (JsonValue × Nat)) :
    submitted platform now store.db.sends workspaceId (first ++ second) =
      submitted platform now store.db.sends workspaceId first ++
        submitted platform now store.db.sends workspaceId second := List.filterMap_append

theorem submitted_silent
    (made : (rowOf platform now event).bind (submission platform store.db.sends workspaceId) = none) :
    submitted platform now store.db.sends workspaceId ((event, place) :: rest) =
      submitted platform now store.db.sends workspaceId rest := by
  rw [submitted, List.filterMap_cons, made]
  rfl

theorem submitted_made {row : ExtractedEvent}
    (made : (rowOf platform now event).bind (submission platform store.db.sends workspaceId) = some row) :
    submitted platform now store.db.sends workspaceId ((event, place) :: rest) =
      ⟨row, event, place⟩ :: submitted platform now store.db.sends workspaceId rest := by
  rw [submitted, List.filterMap_cons, made]
  rfl

theorem askedKeys_one : askedKeys platform now store.db.sends workspaceId [event] =
    (((rowOf platform now event).bind (submission platform store.db.sends workspaceId)).bind
      (rowKey platform workspaceId)).toList := by
  rw [askedKeys, List.filterMap_cons]
  cases ((rowOf platform now event).bind (submission platform store.db.sends workspaceId)).bind
    (rowKey platform workspaceId) <;> rfl

theorem mem_askedKeys {events : List JsonValue} {start : Nat} {key : WorkspaceId × SendId × String × Timestamp} :
    key ∈ askedKeys platform now store.db.sends workspaceId events ↔
      ∃ entry ∈ submitted platform now store.db.sends workspaceId (events.zipIdx start),
        rowKey platform workspaceId entry.row = some key := by
  have rows := @rows_submitted platform now store.db.sends workspaceId (events.zipIdx start)
  rw [List.zipIdx_map_fst] at rows
  have keys : askedKeys platform now store.db.sends workspaceId events =
      ((submitted platform now store.db.sends workspaceId (events.zipIdx start)).map Submitted.row).filterMap
        (rowKey platform workspaceId) := by
    rw [rows, List.filterMap_filterMap]
    rfl
  rw [keys, List.filterMap_map, List.mem_filterMap]
  rfl

end Submissions

section Mates

variable {platform : Platform} {nestingLimit : Nat} {fits : SendEvent → Bool} {now : Timestamp}
  {workspaceId : WorkspaceId} {store : IngressStore} {before after : List JsonText.Value} {event : JsonText.Value}
  {batch : List (JsonText.Value × Nat)}

theorem jsonBatch_zipIdx {events : List JsonText.Value} {start : Nat} :
    jsonBatch (events.zipIdx start) = (events.map jsonOf).zipIdx start := by
  rw [jsonBatch, List.zipIdx_map]

theorem jsonBatch_mates : jsonBatch (mates before after) =
    (before.map jsonOf).zipIdx ++ (after.map jsonOf).zipIdx ((before.map jsonOf).length + 1) := by
  rw [mates, jsonBatch, List.map_append, List.length_map, ← jsonBatch_zipIdx, ← jsonBatch_zipIdx]
  rfl

theorem jsonBatch_split : jsonBatch (before ++ event :: after).zipIdx =
    (before.map jsonOf).zipIdx ++
      (jsonOf event, (before.map jsonOf).length) :: (after.map jsonOf).zipIdx ((before.map jsonOf).length + 1) := by
  rw [jsonBatch_zipIdx, List.map_append, List.map_cons, List.zipIdx_append, List.zipIdx_cons, Nat.zero_add]

theorem refused_of_mates
    (alone : refused platform nestingLimit fits now workspaceId store (mates before after) = true) :
    refused platform nestingLimit fits now workspaceId store (before ++ event :: after).zipIdx = true := by
  by_contra taken
  have within : (mates before after).Sublist (before ++ event :: after).zipIdx := by
    rw [List.zipIdx_append, List.zipIdx_cons, Nat.zero_add]
    exact List.Sublist.append_left (List.sublist_cons_self _ _) _
  have fewer := within.map (Prod.map jsonOf (id : Nat → Nat))
  have rows := fewer.filterMap fun entry =>
    ((rowOf platform now entry.1).bind (submission platform store.db.sends workspaceId)).map fun row =>
      (⟨row, entry.1, entry.2⟩ : Submitted)
  rw [Bool.not_eq_true, refused, Bool.or_eq_false_iff, Bool.or_eq_false_iff, Bool.not_eq_false', Bool.not_eq_false']
    at taken
  obtain ⟨⟨live, journaled⟩, worked⟩ := taken
  have onward : journalAccepts nestingLimit ((mates before after).map Prod.fst) = true := by
    rw [journalAccepts_iff] at journaled ⊢
    obtain ⟨levels, limit, each⟩ := journaled
    exact ⟨levels, limit, fun raw member => each raw ((within.map Prod.fst).subset member)⟩
  have clean : ∀ {batch : List (JsonText.Value × Nat)}, journalAccepts nestingLimit (batch.map Prod.fst) = true →
      ∀ entry ∈ jsonBatch batch, entry.1.holdsNul = false := by
    intro batch journaled entry member
    apply clean_of_journaled journaled
    rw [← fst_jsonBatch]
    exact List.mem_map_of_mem member
  rw [workerAccepts_clean (clean journaled), Bool.and_eq_true, decide_eq_true_eq, List.all_eq_true] at worked
  have accepted :
      workerAccepts platform fits now store.db.sends workspaceId (jsonBatch (mates before after)) = true := by
    rw [workerAccepts_clean (clean onward), Bool.and_eq_true, decide_eq_true_eq, List.all_eq_true]
    constructor
    · exact Nat.le_trans (Nat.mul_le_mul_left _ rows.length_le) worked.1
    · intro entry member
      exact worked.2 entry (rows.subset member)
  rw [refused, live, onward, accepted] at alone
  cases alone

theorem stored_nil_iff (taken : refused platform nestingLimit fits now workspaceId store batch = false) :
    batchStored platform nestingLimit fits now workspaceId store batch = [] ↔
      nothingNew platform now workspaceId store batch := by
  rw [batchStored, if_neg (by simp [taken])]
  exact winners_eq_nil_iff

/-- The rows before the event are stored as without it; those after it see one key more when it is stored. -/
theorem filter_winners_split {first last : List Submitted} {middle : Submitted} {place : Nat}
    {key : Submitted → Option (WorkspaceId × SendId × String × Timestamp)}
    {taken : List (WorkspaceId × SendId × String × Timestamp)} (here : middle.position = place)
    (elsewhere : ∀ entry ∈ first ++ last, entry.position ≠ place) :
    ((winners key taken (first ++ middle :: last)).filter (fun entry => entry.position ≠ place) =
        winners key taken (first ++ last)) ↔
      ∀ wanted, key middle = some wanted → wanted ∉ taken ++ (winners key taken first).filterMap key →
        ∀ row ∈ last, key row ≠ some wanted := by
  have unfiltered : ∀ rows seen, rows ⊆ first ++ last →
      (winners key seen rows).filter (fun entry => entry.position ≠ place) = winners key seen rows := by
    intro rows seen within
    apply List.filter_eq_self.mpr
    intro entry member
    exact decide_eq_true (elsewhere entry (within (winners_sublist.subset member)))
  have dropped : ∀ rows : List Submitted, (middle :: rows).filter (fun entry => entry.position ≠ place) =
      rows.filter fun entry => entry.position ≠ place := by
    intro rows
    rw [List.filter_cons_of_neg (by simp [here])]
  rw [winners_append, winners_append, List.filter_append, unfiltered _ _ (List.subset_append_left _ _),
    List.append_right_inj]
  -- what stands after the event is all that it can cost: by its key none, one that is taken, or one of its own
  cases keyed : key middle with
  | none =>
    rw [winners_keyless keyed, dropped, unfiltered _ _ (List.subset_append_right _ _)]
    simp
  | some wanted =>
    by_cases present : wanted ∈ taken ++ (winners key taken first).filterMap key
    · rw [winners_taken keyed present, unfiltered _ _ (List.subset_append_right _ _)]
      apply iff_of_true rfl
      intro other same absent
      rw [← Option.some.inj same] at absent
      exact absurd present absent
    · rw [winners_fresh keyed present, dropped, unfiltered _ _ (List.subset_append_right _ _), winners_extend_iff,
        or_iff_right present]
      constructor
      · intro unasked other same _
        rw [← Option.some.inj same]
        exact unasked
      · intro spared
        exact spared wanted rfl present

theorem stored_mates_iff
    (taken : refused platform nestingLimit fits now workspaceId store (before ++ event :: after).zipIdx = false) :
    (batchStored platform nestingLimit fits now workspaceId store (before ++ event :: after).zipIdx).filter
        (fun entry => entry.position ≠ before.length) =
      batchStored platform nestingLimit fits now workspaceId store (mates before after) ↔
        displaces platform now workspaceId store before event after = false := by
  have alone : refused platform nestingLimit fits now workspaceId store (mates before after) = false := by
    rw [← Bool.not_eq_true]
    intro lost
    rw [refused_of_mates lost] at taken
    cases taken
  have placed : (before.map jsonOf).length = before.length := List.length_map ..
  rw [batchStored, if_neg (by simp [taken]), batchStored, if_neg (by simp [alone]), jsonBatch_split, jsonBatch_mates,
    submitted_append, submitted_append, ← placed]
  cases made : (rowOf platform now (jsonOf event)).bind (submission platform store.db.sends workspaceId) with
  | none =>
    -- an event without a row asks for no key and takes nobody's place
    rw [submitted_silent made, displaces, askedKeys_one, made, Option.bind_none, Option.toList_none, List.any_nil]
    apply iff_of_true _ rfl
    apply List.filter_eq_self.mpr
    intro entry member
    exact decide_eq_true (position_of_mates (winners_sublist.subset member))
  | some row =>
    have divided := @filter_winners_split
      (submitted platform now store.db.sends workspaceId (before.map jsonOf).zipIdx)
      (submitted platform now store.db.sends workspaceId ((after.map jsonOf).zipIdx ((before.map jsonOf).length + 1)))
      ⟨row, jsonOf event, (before.map jsonOf).length⟩ (before.map jsonOf).length
      (fun entry => rowKey platform workspaceId entry.row)
      (store.db.sendEvents.filterMap dedupKey) rfl fun entry member => position_of_mates member
    rw [submitted_made made, divided, displaces, askedKeys_one, made, Option.bind_some]
    cases keyed : rowKey platform workspaceId row with
    | none => simp
    | some key =>
      have later := @mem_askedKeys platform now workspaceId store (after.map jsonOf)
        ((before.map jsonOf).length + 1) key
      have earlier := @mem_askedKeys platform now workspaceId store (before.map jsonOf) 0 key
      simp only [Option.some.injEq, forall_eq', mem_taken_iff, ← earlier]
      rw [Option.toList_some, List.any_cons, List.any_nil, Bool.or_false, ← Bool.not_eq_true]
      simp only [Bool.and_eq_true, Bool.not_eq_true', List.contains_eq_mem, decide_eq_true_eq, decide_eq_false_iff_not,
        later, not_or, not_and, not_exists, ne_eq]

/-- One event leaves the others of its batch alone exactly where the whole batch is taken and it takes no
later one's place, or where nothing of the others was to be stored. -/
theorem batch_mates_kept_iff (platform : Platform) (nestingLimit : Nat) (fits : SendEvent → Bool) (now : Timestamp)
    (workspaceId : WorkspaceId) (store : IngressStore) (before : List JsonText.Value) (event : JsonText.Value)
    (after : List JsonText.Value) :
    BatchMatesKept platform nestingLimit fits now workspaceId store before event after ↔
      if refused platform nestingLimit fits now workspaceId store (before ++ event :: after).zipIdx then
        refused platform nestingLimit fits now workspaceId store (mates before after) = true ∨
          nothingNew platform now workspaceId store (mates before after)
      else displaces platform now workspaceId store before event after = false := by
  have whole : BatchMatesKept platform nestingLimit fits now workspaceId store before event after ↔
      (batchStored platform nestingLimit fits now workspaceId store (before ++ event :: after).zipIdx).filter
          (fun entry => entry.position ≠ before.length) =
        batchStored platform nestingLimit fits now workspaceId store (mates before after) := by
    constructor
    · exact BatchMatesKept.stored
    · intro stored
      exact ⟨stored, congrArg (List.filter (isApplied platform store.db.sends workspaceId)) stored⟩
  rw [whole]
  split
  next lost =>
    cases alone : refused platform nestingLimit fits now workspaceId store (mates before after) with
    | true =>
      rw [batchStored, if_pos lost, batchStored, if_pos alone]
      simp
    | false =>
      rw [batchStored, if_pos lost, List.filter_nil, eq_comm, stored_nil_iff alone]
      simp
  next taken => exact stored_mates_iff (Bool.eq_false_of_not_eq_true taken)

end Mates

section Loss

open JsonText

/-- Its reason holds U+0000. -/
def nulEvent : JsonText.Value :=
  .object [(ascii "sg_event_id", .string (ascii "e1")), (ascii "event", .string (ascii "dropped")),
    (ascii "timestamp", .number 0), (ascii "reason", .string [0])]

def plainEvent : JsonText.Value :=
  .object [(ascii "sg_event_id", .string (ascii "e2")), (ascii "event", .string (ascii "open")),
    (ascii "timestamp", .number 0)]

def liveStore : IngressStore where
  db := { organizations := Table.empty.insert { id := 0, slug := "receiver" } }

/-- The journal refuses the batch for the one event, and the other is never stored. -/
theorem nul_loses_batch_mate :
    ¬ ∀ (platform : Platform) (nestingLimit : Nat) (fits : SendEvent → Bool) (now : Timestamp)
      (workspaceId : WorkspaceId) (store : IngressStore) (before : List JsonText.Value) (event : JsonText.Value)
      (after : List JsonText.Value),
      BatchMatesKept platform nestingLimit fits now workspaceId store before event after := by
  intro always
  have stored := (always uuidPlatform 100 (fun _ => true) 0 0 liveStore [] nulEvent [plainEvent]).stored
  have lengths := congrArg List.length stored
  revert lengths
  decide +kernel

example : journalAccepts 100 [.string [0xD83D, 0xDE00]] = true ∧ journalAccepts 100 [.string [0xD83D]] = false := by
  decide +kernel

end Loss

end LocalCrm.Webhooks
