import LocalCrm.Dsr.Document

/-! That an export is complete and holds nothing else.

Every section is a rearrangement of the contact's own rows: each of them once, and no other.
-/

set_option autoImplicit false

namespace LocalCrm.Dsr

open Library Erasure

section Owned

variable (snapshot : Snapshot) (workspaceId : WorkspaceId) (contactId : ContactId)

def Snapshot.aboutContact (event : StoredSendEvent) : Bool :=
  event.workspaceId == workspaceId && snapshot.sends.rows.any fun send =>
    event.sendId == some send.id && send.workspaceId == workspaceId && send.contactId == contactId

def Snapshot.stepOfContact (step : FlowRunStepRow) : Bool :=
  step.workspaceId == workspaceId && snapshot.flowRuns.rows.any fun run =>
    step.flowRunId == run.id && run.workspaceId == workspaceId && run.contactId == contactId

structure Complete (row : ContactRow) (document : DsrExportDocument) : Prop where
  contact : document.metadata.contactId = row.id ∧ document.metadata.workspaceId = row.workspaceId
  profile : document.profile =
    { id := row.id, externalId := row.externalId, email := row.email, profile := row.profile, tags := row.tags
      subscriptionStatus := row.subscriptionStatus, createdAt := row.createdAt, updatedAt := row.updatedAt }
  customProperties : document.customProperties = row.properties
  consentHistory : document.consentHistory.Perm ((snapshot.subscriptionStatusHistory.rows.filter fun change =>
    change.workspaceId == row.workspaceId && change.contactId == row.id).map StatusHistoryRow.columns)
  events : document.events.Perm ((snapshot.events.rows.filter fun event =>
    event.workspaceId == row.workspaceId && event.contactId == row.id).map StoredEvent.columns)
  sends : (document.sends.map DsrExportSend.toSendPageRow).Perm ((snapshot.sends.rows.filter fun send =>
    send.workspaceId == row.workspaceId && send.contactId == row.id).map SendRow.columns)
  ownSendEvents : ∀ send ∈ document.sends, send.sendEvents.Perm ((snapshot.sendEvents.rows.filter fun event =>
    event.workspaceId == row.workspaceId && event.sendId == some send.id).map
      fun event => event.columns.toDsrExportSendEvent)
  sendEvents : (document.sends.flatMap DsrExportSend.sendEvents).Perm
    ((snapshot.sendEvents.rows.filter (snapshot.aboutContact row.workspaceId row.id)).map
      fun event => event.columns.toDsrExportSendEvent)
  flowParticipation : (document.flowParticipation.map DsrExportFlowRun.toFlowRunPageRow).Perm
    ((snapshot.flowRuns.rows.filter fun run =>
      run.workspaceId == row.workspaceId && run.contactId == row.id).map flowRunColumns)
  ownSteps : ∀ run ∈ document.flowParticipation, run.steps.Perm ((snapshot.flowRunSteps.rows.filter fun step =>
    step.workspaceId == row.workspaceId && step.flowRunId == run.id).map
      fun step => step.columns.toDsrExportFlowRunStep)
  steps : (document.flowParticipation.flatMap DsrExportFlowRun.steps).Perm
    ((snapshot.flowRunSteps.rows.filter (snapshot.stepOfContact row.workspaceId row.id)).map
      fun step => step.columns.toDsrExportFlowRunStep)
  campaignMemberships : document.campaignMemberships.Perm ((snapshot.campaignRecipients.rows.filter fun recipient =>
    recipient.workspaceId == row.workspaceId && recipient.contactId == row.id).map CampaignRecipientRow.columns)
  counts : document.metadata.sectionRowCounts =
    { profile := 1, customProperties := document.customProperties.length
      consentHistory := document.consentHistory.length, events := document.events.length
      sends := document.sends.length, sendEvents := (document.sends.flatMap DsrExportSend.sendEvents).length
      flowParticipation := document.flowParticipation.length
      flowRunSteps := (document.flowParticipation.flatMap DsrExportFlowRun.steps).length
      campaignMemberships := document.campaignMemberships.length }
  payloads : ∀ send ∈ document.sends, ∀ event ∈ send.sendEvents, ∀ field ∈ event.payload,
    field.1 ∈ sendEventPayloadExportAllowlist

end Owned

section Walks

variable {Row Page Entry Key Parent : Type} {key : Row → Key} {limit : ℕ+}

theorem nodup_columns {Label : Type} {table : Table key} {selected : Row → Bool} {columns : Row → Page}
    {label : Page → Label} (apart : ∀ left right, selected left = true → selected right = true →
      label (columns left) = label (columns right) → key left = key right) :
    (((table.rows.filter selected).map columns).map label).Nodup := by
  rw [List.map_map]
  apply List.Nodup.map_on
  · intro left here right there same
    obtain ⟨inside, chosen⟩ := List.mem_filter.mp here
    obtain ⟨beside, picked⟩ := List.mem_filter.mp there
    exact List.inj_on_of_nodup_map table.unique inside beside (apart left right chosen picked same)
  · exact (List.Nodup.of_map key table.unique).filter _

theorem perm_walk {table : Table key} {selected : Row → Bool} {columns : Row → Page} {cursor : Page → KeysetCursor}
    (apart : ∀ left right, selected left = true → selected right = true →
      cursor (columns left) = cursor (columns right) → key left = key right) :
    (walkToExhaustion limit cursor ((table.rows.filter selected).map columns)).Perm
      ((table.rows.filter selected).map columns) :=
  Keyset.perm_exhaust _ _ limit.pos (nodup_columns apart)

theorem filter_visible {table : Table key} {owner : Row → WorkspaceId} {workspaceId : WorkspaceId}
    {wanted : Row → Bool} : ((table.delete fun row => owner row != workspaceId).rows.filter fun row =>
      owner row == workspaceId && wanted row) = table.rows.filter fun row =>
        owner row == workspaceId && wanted row := by
  show (table.rows.filter _).filter _ = _
  rw [List.filter_filter]
  apply List.filter_congr
  intro row _
  by_cases own : owner row = workspaceId
  · simp [own]
  · simp [own]

/-- What one section reads under the workspace's own policy, in pages. -/
theorem perm_section {table : Table key} {owner : Row → WorkspaceId} {workspaceId : WorkspaceId}
    {wanted : Row → Bool} {columns : Row → Page} {cursor : Page → KeysetCursor}
    (apart : ∀ left right, owner left = workspaceId → owner right = workspaceId →
      cursor (columns left) = cursor (columns right) → key left = key right) :
    (walkToExhaustion limit cursor (((table.delete fun row => owner row != workspaceId).rows.filter fun row =>
      owner row == workspaceId && wanted row).map columns)).Perm
    ((table.rows.filter fun row => owner row == workspaceId && wanted row).map columns) := by
  rw [filter_visible]
  apply perm_walk
  intro left right here there
  exact apart left right (beq_iff_eq.mp (Bool.and_eq_true_iff.mp here).1)
    (beq_iff_eq.mp (Bool.and_eq_true_iff.mp there).1)

theorem mem_walked {rows : List Row} {selected : Row → Bool} {columns : Row → Page} {walked : List Page} {page : Page}
    (walk : walked.Perm ((rows.filter selected).map columns)) (member : page ∈ walked) :
    ∃ row ∈ rows, selected row = true ∧ columns row = page := by
  obtain ⟨row, chosen, same⟩ := List.mem_map.mp (walk.mem_iff.mp member)
  obtain ⟨inside, own⟩ := List.mem_filter.mp chosen
  exact ⟨row, inside, own, same⟩

/-- A row with the key of one parent has that parent among those it joins. -/
theorem decide_and_any [DecidableEq Key] [BEq Key] [LawfulBEq Key] {Parent : Type} {parents : List Parent}
    {parent : Parent} {joins : Parent → Bool} {link key : Key} {inside : Bool} (member : parent ∈ parents)
    (joined : link = key → joins parent = true) :
    (decide (link = key) && (inside && parents.any joins)) = (inside && link == key) := by
  by_cases same : link = key
  · rw [List.any_eq_true.mpr ⟨parent, member, joined same⟩, decide_eq_true same, beq_iff_eq.mpr same, Bool.true_and]
  · rw [decide_eq_false same, beq_eq_false_iff_ne.mpr same, Bool.false_and, Bool.and_false]

theorem perm_group [DecidableEq Key] {rows : List Row} {selected : Row → Bool} {columns : Row → Page}
    {keyOf : Page → Key} {entry : Page → Entry} {walked : List Page} {parent : Key} {own : Row → Bool}
    (walk : walked.Perm ((rows.filter selected).map columns))
    (owns : ∀ row ∈ rows, (decide (keyOf (columns row) = parent) && selected row) = own row) :
    (groupBy keyOf entry walked parent).Perm ((rows.filter own).map fun row => entry (columns row)) := by
  rw [groupBy_apply]
  have grouped := (walk.filter fun page => decide (keyOf page = parent)).map entry
  rw [List.filter_map, List.map_map, List.filter_filter] at grouped
  rw [← List.filter_congr owns]
  exact grouped

end Walks

section Sections

variable (limit : ℕ+) (snapshot : Snapshot) (workspaceId : WorkspaceId) (contactId : ContactId)

/-- The pages of the contact's sends, one after the other; so for its send events, flow runs and their steps. -/
abbrev sendsWalked : List SendPageRow :=
  walkToExhaustion limit SendPageRow.cursor (sendRows (snapshot.visibleTo workspaceId) workspaceId contactId)

abbrev sendEventsWalked : List SendEventPageRow :=
  walkToExhaustion limit SendEventPageRow.cursor (sendEventRows (snapshot.visibleTo workspaceId) workspaceId contactId)

abbrev flowRunsWalked : List FlowRunPageRow :=
  walkToExhaustion limit FlowRunPageRow.cursor (flowRunRows (snapshot.visibleTo workspaceId) workspaceId contactId)

abbrev flowRunStepsWalked : List FlowRunStepPageRow :=
  walkFlowRunStepsToExhaustion limit (snapshot.visibleTo workspaceId) workspaceId
    ((flowRunsWalked limit snapshot workspaceId contactId).map (·.id))

theorem keysetCursor_inj {left right : Timestamp} {first second : Nat} :
    keysetCursor left first = keysetCursor right second ↔ left = right ∧ first = second := by
  rw [keysetCursor, keysetCursor, toLex_inj, Prod.mk.injEq]

theorem consentHistory_walked :
    (walkToExhaustion limit DsrExportConsentHistoryEntry.cursor
      (consentHistoryRows (snapshot.visibleTo workspaceId) workspaceId contactId)).Perm
    ((snapshot.subscriptionStatusHistory.rows.filter fun change =>
      change.workspaceId == workspaceId && change.contactId == contactId).map StatusHistoryRow.columns) :=
  perm_section fun _ _ _ _ same => (keysetCursor_inj.mp same).2

theorem events_walked :
    (walkToExhaustion limit DsrExportEvent.cursor
      (eventRows (snapshot.visibleTo workspaceId) workspaceId contactId)).Perm
    ((snapshot.events.rows.filter fun event =>
      event.workspaceId == workspaceId && event.contactId == contactId).map StoredEvent.columns) :=
  -- an id is the workspace's own, and only with its time
  perm_section fun _ _ here there same => Prod.ext (here.trans there.symm) same

theorem sends_walked :
    (sendsWalked limit snapshot workspaceId contactId).Perm
    ((snapshot.sends.rows.filter fun send =>
      send.workspaceId == workspaceId && send.contactId == contactId).map SendRow.columns) :=
  perm_section fun _ _ _ _ same => (keysetCursor_inj.mp same).2

theorem flowRuns_walked :
    (flowRunsWalked limit snapshot workspaceId contactId).Perm
    ((snapshot.flowRuns.rows.filter fun run =>
      run.workspaceId == workspaceId && run.contactId == contactId).map flowRunColumns) :=
  perm_section fun _ _ _ _ same => (keysetCursor_inj.mp same).2

theorem campaignRecipients_walked :
    (walkToExhaustion limit DsrExportCampaignMembership.cursor
      (campaignRecipientRows (snapshot.visibleTo workspaceId) workspaceId contactId)).Perm
    ((snapshot.campaignRecipients.rows.filter fun recipient =>
      recipient.workspaceId == workspaceId && recipient.contactId == contactId).map CampaignRecipientRow.columns) :=
  perm_section fun _ _ _ _ same => (keysetCursor_inj.mp same).2

theorem joined_iff {event : StoredSendEvent} :
    (event.workspaceId == workspaceId && (event.sendId.bind (snapshot.visibleTo workspaceId).sends.find?).any
      (·.contactId == contactId)) = snapshot.aboutContact workspaceId contactId event := by
  rw [Snapshot.aboutContact, Bool.eq_iff_iff]
  simp only [Bool.and_eq_true, Option.any_eq_true, List.any_eq_true, Option.bind_eq_some_iff, Snapshot.visibleTo,
    Table.find?_delete, Option.filter_eq_some_iff, Table.find?_iff, beq_iff_eq, Bool.not_eq_eq_eq_not, Bool.not_true,
    bne_eq_false_iff_eq]
  apply and_congr_right
  intro _
  constructor
  · rintro ⟨send, ⟨sendId, named, ⟨member, rfl⟩, own⟩, his⟩
    exact ⟨send, member, ⟨named, own⟩, his⟩
  · rintro ⟨send, member, ⟨named, own⟩, his⟩
    exact ⟨send, ⟨send.id, named, ⟨member, rfl⟩, own⟩, his⟩

theorem sendEvents_walked :
    (sendEventsWalked limit snapshot workspaceId contactId).Perm
    ((snapshot.sendEvents.rows.filter (snapshot.aboutContact workspaceId contactId)).map
      StoredSendEvent.columns) := by
  have joined : sendEventRows (snapshot.visibleTo workspaceId) workspaceId contactId =
      (snapshot.sendEvents.rows.filter (snapshot.aboutContact workspaceId contactId)).map StoredSendEvent.columns := by
    rw [← List.filter_congr fun event _ => joined_iff snapshot workspaceId contactId]
    unfold sendEventRows
    congr 1
    exact filter_visible
  rw [sendEventsWalked, joined]
  apply perm_walk
  intro left right here there same
  have owner : left.workspaceId = right.workspaceId := by
    rw [beq_iff_eq.mp (Bool.and_eq_true_iff.mp here).1, beq_iff_eq.mp (Bool.and_eq_true_iff.mp there).1]
  exact Prod.ext owner same

theorem steps_walked {flowRunIds : List FlowRunId} (distinct : flowRunIds.Nodup) :
    (walkFlowRunStepsToExhaustion limit (snapshot.visibleTo workspaceId) workspaceId flowRunIds).Perm
    ((snapshot.flowRunSteps.rows.filter fun step =>
      step.workspaceId == workspaceId && flowRunIds.contains step.flowRunId).map FlowRunStepRow.columns) := by
  have each : ∀ batch ∈ batches limit flowRunIds,
      (walkToExhaustion limit FlowRunStepPageRow.cursor
        (flowRunStepRows (snapshot.visibleTo workspaceId) workspaceId batch)).Perm
      (((snapshot.flowRunSteps.rows.filter fun step => step.workspaceId == workspaceId).filter
        fun step => batch.contains step.flowRunId).map FlowRunStepRow.columns) := by
    intro batch _
    unfold flowRunStepRows Snapshot.visibleTo
    rw [filter_visible, List.filter_filter]
    simp only [Bool.and_comm (_ == workspaceId)]
    apply perm_walk
    intro left right _ _ same
    exact (keysetCursor_inj.mp same).2
  have parted : (batches limit flowRunIds).flatten.Nodup := by
    rw [flatten_batches]
    exact distinct
  apply (List.Perm.flatMap_left _ each).trans
  rw [← List.map_flatMap]
  have whole := @perm_flatMap_parts _ _ _ (fun step : FlowRunStepRow => step.flowRunId)
    (snapshot.flowRunSteps.rows.filter fun step => step.workspaceId == workspaceId) _ parted
  rw [flatten_batches, List.filter_filter] at whole
  simp only [Bool.and_comm (_ == workspaceId)]
  exact whole.map _

end Sections

section Nested

variable (limit : ℕ+) (snapshot : Snapshot) (workspaceId : WorkspaceId) (contactId : ContactId)

theorem nodup_flowRunIds : ((flowRunsWalked limit snapshot workspaceId contactId).map (·.id)).Nodup := by
  apply ((flowRuns_walked limit snapshot workspaceId contactId).map _).nodup_iff.mpr
  apply nodup_columns
  exact fun _ _ _ _ same => same

theorem nodup_sendIds : ((sendsWalked limit snapshot workspaceId contactId).map fun page => some page.id).Nodup := by
  apply ((sends_walked limit snapshot workspaceId contactId).map _).nodup_iff.mpr
  apply nodup_columns
  exact fun _ _ _ _ same => Option.some.inj same

theorem sendEvents_grouped {page : SendPageRow} (member : page ∈ sendsWalked limit snapshot workspaceId contactId) :
    (groupBy SendEventPageRow.sendId SendEventPageRow.toDsrExportSendEvent
      (sendEventsWalked limit snapshot workspaceId contactId) (some page.id)).Perm
    ((snapshot.sendEvents.rows.filter fun event =>
      event.workspaceId == workspaceId && event.sendId == some page.id).map
        fun event => event.columns.toDsrExportSendEvent) := by
  apply perm_group (sendEvents_walked limit snapshot workspaceId contactId)
  intro event _
  obtain ⟨send, inside, own, rfl⟩ := mem_walked (sends_walked limit snapshot workspaceId contactId) member
  apply decide_and_any inside
  intro (about : event.sendId = some send.id)
  rw [beq_iff_eq.mpr about, Bool.true_and]
  exact own

theorem sendEvents_nested :
    ((sendsWalked limit snapshot workspaceId contactId).flatMap fun page =>
      groupBy SendEventPageRow.sendId SendEventPageRow.toDsrExportSendEvent
        (sendEventsWalked limit snapshot workspaceId contactId) (some page.id)).Perm
    ((sendEventsWalked limit snapshot workspaceId contactId).map SendEventPageRow.toDsrExportSendEvent) := by
  apply perm_flatMap_groupBy _ (nodup_sendIds limit snapshot workspaceId contactId)
  intro event member
  obtain ⟨row, chosen, rfl⟩ :=
    List.mem_map.mp ((sendEvents_walked limit snapshot workspaceId contactId).mem_iff.mp member)
  have about := (Bool.and_eq_true_iff.mp (List.mem_filter.mp chosen).2).2
  obtain ⟨send, inside, joined⟩ := List.any_eq_true.mp about
  simp only [Bool.and_eq_true, beq_iff_eq] at joined
  apply List.mem_map.mpr
  refine ⟨send.columns, (sends_walked limit snapshot workspaceId contactId).mem_iff.mpr ?_, joined.1.1.symm⟩
  apply List.mem_map_of_mem
  apply List.mem_filter.mpr
  simp only [Bool.and_eq_true, beq_iff_eq]
  exact ⟨inside, joined.1.2, joined.2⟩

theorem contains_flowRunIds (flowRunId : FlowRunId) :
    ((flowRunsWalked limit snapshot workspaceId contactId).map (·.id)).contains flowRunId =
    snapshot.flowRuns.rows.any fun run =>
      flowRunId == run.id && run.workspaceId == workspaceId && run.contactId == contactId := by
  rw [Bool.eq_iff_iff, List.contains_iff_mem, List.any_eq_true, List.mem_map]
  constructor
  · rintro ⟨page, member, rfl⟩
    obtain ⟨run, inside, own, rfl⟩ := mem_walked (flowRuns_walked limit snapshot workspaceId contactId) member
    refine ⟨run, inside, ?_⟩
    rw [Bool.and_assoc, own, Bool.and_true]
    exact beq_self_eq_true _
  · rintro ⟨run, inside, own⟩
    rw [Bool.and_assoc, Bool.and_eq_true, beq_iff_eq] at own
    refine ⟨flowRunColumns run, (flowRuns_walked limit snapshot workspaceId contactId).mem_iff.mpr ?_, own.1.symm⟩
    exact List.mem_map_of_mem (List.mem_filter.mpr ⟨inside, own.2⟩)

theorem flowRunSteps_walked : (flowRunStepsWalked limit snapshot workspaceId contactId).Perm
    ((snapshot.flowRunSteps.rows.filter (snapshot.stepOfContact workspaceId contactId)).map
      FlowRunStepRow.columns) := by
  have walked := steps_walked limit snapshot workspaceId (nodup_flowRunIds limit snapshot workspaceId contactId)
  have same : ∀ step ∈ snapshot.flowRunSteps.rows, _ = snapshot.stepOfContact workspaceId contactId step :=
    fun step _ => congrArg (step.workspaceId == workspaceId && ·)
      (contains_flowRunIds limit snapshot workspaceId contactId step.flowRunId)
  rw [List.filter_congr same] at walked
  exact walked

theorem steps_grouped {page : FlowRunPageRow} (member : page ∈ flowRunsWalked limit snapshot workspaceId contactId) :
    (groupBy FlowRunStepPageRow.flowRunId FlowRunStepPageRow.toDsrExportFlowRunStep
      (flowRunStepsWalked limit snapshot workspaceId contactId) page.id).Perm
    ((snapshot.flowRunSteps.rows.filter fun step => step.workspaceId == workspaceId && step.flowRunId == page.id).map
      fun step => step.columns.toDsrExportFlowRunStep) := by
  apply perm_group (flowRunSteps_walked limit snapshot workspaceId contactId)
  intro step _
  obtain ⟨run, inside, own, rfl⟩ := mem_walked (flowRuns_walked limit snapshot workspaceId contactId) member
  apply decide_and_any inside
  intro (taken : step.flowRunId = run.id)
  rw [beq_iff_eq.mpr taken, Bool.true_and]
  exact own

theorem steps_nested :
    ((flowRunsWalked limit snapshot workspaceId contactId).flatMap fun page =>
      groupBy FlowRunStepPageRow.flowRunId FlowRunStepPageRow.toDsrExportFlowRunStep
        (flowRunStepsWalked limit snapshot workspaceId contactId) page.id).Perm
    ((flowRunStepsWalked limit snapshot workspaceId contactId).map
      FlowRunStepPageRow.toDsrExportFlowRunStep) := by
  apply perm_flatMap_groupBy _ (nodup_flowRunIds limit snapshot workspaceId contactId)
  intro step member
  obtain ⟨row, chosen, rfl⟩ :=
    List.mem_map.mp ((flowRunSteps_walked limit snapshot workspaceId contactId).mem_iff.mp member)
  have about := (Bool.and_eq_true_iff.mp (List.mem_filter.mp chosen).2).2
  rw [← contains_flowRunIds limit] at about
  exact List.contains_iff_mem.mp about

end Nested

section Documents

variable {limit : ℕ+} {snapshot : Snapshot} {workspaceId : WorkspaceId} {workspaceName : String}
  {contactId : ContactId} {now : Timestamp} {row : ContactRow}

theorem assembled_complete : Complete snapshot row
    (assembleDocument limit (snapshot.visibleTo row.workspaceId) row.workspaceId workspaceName now row) := by
  have own : ∀ send ∈ (assembleDocument limit (snapshot.visibleTo row.workspaceId) row.workspaceId workspaceName now
      row).sends, send.sendEvents.Perm ((snapshot.sendEvents.rows.filter fun event =>
        event.workspaceId == row.workspaceId && event.sendId == some send.id).map
          fun event => event.columns.toDsrExportSendEvent) := by
    intro send member
    obtain ⟨page, walked, rfl⟩ := List.mem_map.mp member
    exact sendEvents_grouped limit snapshot row.workspaceId row.id walked
  constructor
  case contact => exact ⟨rfl, rfl⟩
  case profile => rfl
  case customProperties => rfl
  case consentHistory => exact consentHistory_walked limit snapshot row.workspaceId row.id
  case events => exact events_walked limit snapshot row.workspaceId row.id
  case sends =>
    unfold assembleDocument
    rw [List.map_map]
    simpa only [Function.comp_def, List.map_id'] using sends_walked limit snapshot row.workspaceId row.id
  case ownSendEvents => exact own
  case sendEvents =>
    unfold assembleDocument
    rw [List.flatMap_map]
    apply (sendEvents_nested limit snapshot row.workspaceId row.id).trans
    have whole := (sendEvents_walked limit snapshot row.workspaceId row.id).map SendEventPageRow.toDsrExportSendEvent
    rwa [List.map_map] at whole
  case flowParticipation =>
    unfold assembleDocument
    rw [List.map_map]
    simpa only [Function.comp_def, List.map_id'] using flowRuns_walked limit snapshot row.workspaceId row.id
  case ownSteps =>
    intro run member
    obtain ⟨page, walked, rfl⟩ := List.mem_map.mp member
    exact steps_grouped limit snapshot row.workspaceId row.id walked
  case steps =>
    unfold assembleDocument
    rw [List.flatMap_map]
    apply (steps_nested limit snapshot row.workspaceId row.id).trans
    have whole := (flowRunSteps_walked limit snapshot row.workspaceId row.id).map
      FlowRunStepPageRow.toDsrExportFlowRunStep
    rwa [List.map_map] at whole
  case campaignMemberships => exact campaignRecipients_walked limit snapshot row.workspaceId row.id
  case counts =>
    have events := (sendEvents_nested limit snapshot row.workspaceId row.id).length_eq
    have steps := (steps_nested limit snapshot row.workspaceId row.id).length_eq
    rw [List.length_map] at events steps
    unfold assembleDocument
    simp only [List.flatMap_map, events, steps]
  case payloads =>
    intro send member event nested field inside
    obtain ⟨stored, _, rfl⟩ := List.mem_map.mp ((own send member).mem_iff.mp nested)
    exact (payload_allowed inside).1

theorem visible_contact (found : snapshot.contacts.find? contactId = some row) (owned : row.workspaceId = workspaceId) :
    ((snapshot.visibleTo workspaceId).contacts.find? contactId).filter (·.workspaceId == workspaceId) = some row := by
  unfold Snapshot.visibleTo
  rw [Table.find?_delete, found, Option.filter_some, owned]
  simp only [bne_self_eq_false, Bool.not_false, if_true, Option.filter_some, owned, beq_self_eq_true]

/-- An export lists every row of the contact once and nothing else; of an erased contact there is none. -/
theorem dsr_export_complete (found : snapshot.contacts.find? contactId = some row)
    (owned : row.workspaceId = workspaceId) :
    (row.anonymizedAt = none → ∃ document,
      getDsrExportDocument snapshot workspaceId workspaceName contactId now limit = .ok (some document) ∧
        Complete snapshot row document) ∧
    ∀ erasedAt, row.anonymizedAt = some erasedAt →
      getDsrExportDocument snapshot workspaceId workspaceName contactId now limit =
        .error (contactErased (snapshot.visibleTo workspaceId) workspaceId row erasedAt) := by
  have seen := visible_contact found owned
  constructor
  · intro live
    refine ⟨assembleDocument limit (snapshot.visibleTo workspaceId) workspaceId workspaceName now row, ?_, ?_⟩
    · simp only [getDsrExportDocument, seen, live]
    · subst owned
      exact assembled_complete
  · intro erasedAt erased
    simp only [getDsrExportDocument, seen, erased]

def twoReaders : Snapshot where
  contacts := (Table.empty.insert
    { id := 3, workspaceId := 1, email := some "ada@home.test", createdAt := 0, updatedAt := 0 }).insert
    { id := 4, workspaceId := 1, email := some "bob@home.test", createdAt := 0, updatedAt := 0, anonymizedAt := some 8 }
  sends := (Table.empty.insert
    { id := 11, workspaceId := 1, campaignId := some 6, contactId := 3, status := .sent, queuedAt := 1 }).insert
    { id := 12, workspaceId := 1, campaignId := some 6, contactId := 4, status := .sent, queuedAt := 1 }
  sendEvents := ((Table.empty.insert
    { workspaceId := 1, id := 21, occurredAt := 5, sgEventId := "a", sendId := some 11, eventType := "open"
      reason := none, payload := .object [("ip", .string "::1"), ("unique_args", .null)], receivedAt := 6 }).insert
    { workspaceId := 1, id := 22, occurredAt := 5, sgEventId := "b", sendId := some 11, eventType := "open"
      reason := none, payload := .null, receivedAt := 6 }).insert
    { workspaceId := 1, id := 23, occurredAt := 5, sgEventId := "c", sendId := some 12, eventType := "click"
      reason := none, payload := .null, receivedAt := 6 }

/-- In pages of one row, over two events of one time. -/
example : (getDsrExportDocument twoReaders 1 "Acme" 3 9 1).toOption.join.map (fun document =>
    (document.sends.flatMap DsrExportSend.sendEvents).map fun event => (event.id, event.payload)) =
      some [(21, [("ip", .string "::1")]), (22, [])] := by
  decide +kernel

theorem reader_exported : (∃ row document, twoReaders.contacts.find? 3 = some row ∧
    getDsrExportDocument twoReaders 1 "Acme" 3 9 = .ok (some document) ∧ Complete twoReaders row document) ∧
    ∃ error, getDsrExportDocument twoReaders 1 "Acme" 4 9 = .error error := by
  constructor
  · obtain ⟨row, found, both⟩ := (Option.any_eq_true _ _).mp (by decide +kernel :
      (twoReaders.contacts.find? 3).any (fun row => row.workspaceId == 1 && row.anonymizedAt == none) = true)
    obtain ⟨owned, live⟩ := Bool.and_eq_true_iff.mp both
    obtain ⟨document, exported, complete⟩ :=
      (dsr_export_complete found (beq_iff_eq.mp owned)).1 (beq_iff_eq.mp live)
    exact ⟨row, document, found, exported, complete⟩
  · obtain ⟨row, found, both⟩ := (Option.any_eq_true _ _).mp (by decide +kernel :
      (twoReaders.contacts.find? 4).any (fun row => row.workspaceId == 1 && row.anonymizedAt == some 8) = true)
    obtain ⟨owned, erased⟩ := Bool.and_eq_true_iff.mp both
    exact ⟨_, (dsr_export_complete found (beq_iff_eq.mp owned)).2 8 (beq_iff_eq.mp erased)⟩

end Documents

end LocalCrm.Dsr
