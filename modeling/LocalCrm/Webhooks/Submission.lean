import LocalCrm.Webhooks.DeliveryFrame

/-! What a batch submits to its insert, event by event.

A send id denotes a send by its value, in any spelling the pattern accepts.
-/

set_option autoImplicit false

namespace LocalCrm.Webhooks

open Library Delivery

def denotes (platform : Platform) (row : ExtractedEvent) (send : Send) : Bool :=
  row.sendId.bind platform.uuidValue == some (platform.sendIds.derive send.intent)

def namesAsPrinted (platform : Platform) (row : ExtractedEvent) (send : Send) : Bool :=
  row.sendId == some (platform.uuidText (platform.sendIds.derive send.intent))

def rowOf (platform : Platform) (now : Timestamp) (raw : JsonValue) : Option ExtractedEvent :=
  match extractEventRow platform raw now with
  | .extracted row => some row
  | .quarantine _ | .skip => none

/-- What becomes of one accepted row: dropped, or submitted with or without its send id. -/
def submission (platform : Platform) (sends : Sends) (workspaceId : WorkspaceId) (row : ExtractedEvent) :
    Option ExtractedEvent :=
  if (row.sendId.bind (ownerOfText platform sends)).all (· == workspaceId) then
    some (resolveRow platform sends workspaceId row)
  else none

section Texts

variable {platform : Platform} {sends : Sends} {workspaceId : WorkspaceId} {row : ExtractedEvent} {send : Send}

theorem uuidText_injective (platform : Platform) : Function.Injective platform.uuidText := by
  intro left right same
  have values := congrArg platform.uuidValue same
  rw [platform.uuidValue_text, platform.uuidValue_text] at values
  exact Option.some.inj values

theorem printed_of_value {text : String} {other : Send}
    (printed : platform.uuidText (platform.sendIds.derive other.intent) = text)
    (value : platform.uuidValue text = some (platform.sendIds.derive send.intent)) :
    other.intent = send.intent := by
  rw [← printed, platform.uuidValue_text] at value
  exact platform.sendIds.derive_eq.mp (Option.some.inj value)

theorem ownerOfText_printed (stored : send ∈ sends.rows) :
    ownerOfText platform sends (platform.uuidText (platform.sendIds.derive send.intent)) =
      some send.intent.workspaceId := by
  have present : (sends.rows.find? fun row => platform.uuidText (platform.sendIds.derive row.intent) ==
      platform.uuidText (platform.sendIds.derive send.intent)).isSome := by
    rw [List.find?_isSome]
    exact ⟨send, stored, beq_self_eq_true _⟩
  obtain ⟨found, first⟩ := Option.isSome_iff_exists.mp present
  have same : found.intent = send.intent := by
    have texts := List.find?_some first
    exact platform.sendIds.derive_eq.mp (uuidText_injective platform (eq_of_beq texts))
  rw [ownerOfText, first, Option.map_some, same]

theorem ownerOfText_unprinted {text : String}
    (value : platform.uuidValue text = some (platform.sendIds.derive send.intent))
    (unprinted : text ≠ platform.uuidText (platform.sendIds.derive send.intent)) :
    ownerOfText platform sends text = none := by
  rw [ownerOfText, Option.map_eq_none_iff, List.find?_eq_none]
  intro other _ found
  have printed := eq_of_beq found
  rw [printed_of_value printed value] at printed
  exact unprinted printed.symm

theorem submission_printed (stored : send ∈ sends.rows) (named : namesAsPrinted platform row send = true) :
    submission platform sends workspaceId row =
      if send.intent.workspaceId = workspaceId then some row else none := by
  have text : row.sendId = some (platform.uuidText (platform.sendIds.derive send.intent)) := eq_of_beq named
  rw [submission, text, Option.bind_some, ownerOfText_printed stored]
  by_cases own : send.intent.workspaceId = workspaceId
  · have listed : platform.uuidText (platform.sendIds.derive send.intent) ∈
        sendIdTexts platform sends fun send => send.intent.workspaceId == workspaceId :=
      List.mem_map.mpr ⟨send, List.mem_filter.mpr ⟨stored, beq_iff_eq.mpr own⟩, rfl⟩
    have kept : resolveRow platform sends workspaceId row = row := by
      rw [resolveRow, text, Option.filter_some, if_pos (decide_eq_true listed), ← text]
    simp [own, kept]
  · simp [own]

theorem submission_unprinted (denoted : denotes platform row send = true)
    (unprinted : namesAsPrinted platform row send = false) :
    ∃ submitted, submission platform sends workspaceId row = some submitted ∧ submitted.sendId = none := by
  have value : row.sendId.bind platform.uuidValue = some (platform.sendIds.derive send.intent) := eq_of_beq denoted
  obtain ⟨text, spelled, valued⟩ := Option.bind_eq_some_iff.mp value
  have differs : text ≠ platform.uuidText (platform.sendIds.derive send.intent) := by
    intro same
    rw [namesAsPrinted, spelled, same, beq_self_eq_true] at unprinted
    exact Bool.noConfusion unprinted
  refine ⟨resolveRow platform sends workspaceId row, ?_, ?_⟩
  · rw [submission, spelled, Option.bind_some, ownerOfText_unprinted valued differs]
    rfl
  · rw [resolveRow, spelled, Option.filter_some, if_neg]
    intro listed
    obtain ⟨other, _, printed⟩ := List.mem_map.mp (of_decide_eq_true listed)
    rw [printed_of_value printed valued] at printed
    exact differs printed.symm

end Texts

section Rows

variable {platform : Platform} {now : Timestamp} {db : Database} {workspaceId : WorkspaceId} {events : List JsonValue}

theorem extracted_of_rowOf {raw : JsonValue} {row : ExtractedEvent} (accepted : rowOf platform now raw = some row) :
    extractEventRow platform raw now = .extracted row := by
  rw [rowOf] at accepted
  split at accepted
  · next extracted => rw [extracted, Option.some.inj accepted]
  · cases accepted
  · cases accepted

theorem submittedRows_eq (events : List JsonValue) :
    submittedRows platform now db workspaceId events =
      (extractedRows (events.map fun raw => extractEventRow platform raw now)).filterMap
        (submission platform db.sends workspaceId) := by
  rw [submittedRows, dropSiblingWorkspaceEvents]
  generalize extractedRows (events.map fun raw => extractEventRow platform raw now) = rows
  induction rows with
  | nil => rfl
  | cons row rest ih =>
    by_cases survives : (row.sendId.bind (ownerOfText platform db.sends)).all (· == workspaceId) = true
    · have submitted : submission platform db.sends workspaceId row =
          some (resolveRow platform db.sends workspaceId row) := if_pos survives
      simp only [List.filter_cons, survives, if_true, List.map_cons, ih, List.filterMap_cons, submitted]
    · have dropped : submission platform db.sends workspaceId row = none := if_neg survives
      simp only [List.filter_cons, survives, Bool.false_eq_true, if_false, ih, List.filterMap_cons, dropped]

theorem submittedRows_filterMap :
    submittedRows platform now db workspaceId events =
      events.filterMap fun raw => (rowOf platform now raw).bind (submission platform db.sends workspaceId) := by
  rw [submittedRows_eq, extractedRows, List.filterMap_map, List.filterMap_filterMap]
  rfl

theorem quarantineCandidates_filterMap :
    quarantineCandidates (events.map fun raw => extractEventRow platform raw now) =
      events.filterMap fun raw =>
        match extractEventRow platform raw now with
        | .quarantine candidate => some candidate
        | .extracted _ | .skip => none := by
  rw [quarantineCandidates, List.filterMap_map]
  rfl

end Rows

end LocalCrm.Webhooks
