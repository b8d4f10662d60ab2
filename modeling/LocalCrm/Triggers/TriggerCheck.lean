import LocalCrm.Contacts.Repository
import LocalCrm.Flows.Attempts

/-! The check of the triggers for one contact, after an event of it was stored. -/

set_option autoImplicit false

namespace LocalCrm.Triggers

open Library Flows Delivery

structure CheckInput where
  now : Timestamp
  clock : FlowId → Timestamp
  flowRunId : FlowId → FlowRunId

def CheckInput.entry (input : CheckInput) (flowId : FlowId) : EntryInput where
  now := input.now
  clock _ := input.clock flowId
  flowRunId _ := input.flowRunId flowId

def loadLiveEventTriggeredFlows (tables : FlowTables) (workspaceId : WorkspaceId) (eventName : String) : List FlowRow :=
  tables.flows.rows.filter fun flow =>
    flow.workspaceId == workspaceId && flow.status == .live && flow.triggerType == some .event &&
      flow.triggerEventName == some eventName && flow.liveVersionId.isSome

def loadLiveSegmentTriggeredFlows (tables : FlowTables) (workspaceId : WorkspaceId) : List FlowRow :=
  tables.flows.rows.filter fun flow =>
    flow.workspaceId == workspaceId && flow.status == .live && flow.triggerType == some .segment &&
      flow.triggerSegmentId.isSome && flow.liveVersionId.isSome

section Checks

variable (input : CheckInput) (store : MembershipStore) (workspaceId : WorkspaceId) (contactId : ContactId)
  (eventName : Option String)

/-- Nothing for a check without an event name. -/
def matchingFlows : List FlowRow :=
  match eventName with
  | none => []
  | some name => if name.isEmpty then [] else loadLiveEventTriggeredFlows store.store.tables workspaceId name

def enterEventTriggeredFlow (tables : FlowTables) (flow : FlowRow) : FlowTables :=
  match flow.liveVersionId with
  | none => tables
  | some liveVersionId =>
    match tables.canEnterFlow (input.clock flow.id) (flow.entryParams contactId) with
    | .error _ => tables
    | .ok _ => tables.insertRun
        (tables.newRun input.now (input.flowRunId flow.id) flow.workspaceId flow.id liveVersionId contactId)

/-- Whom the flow has seen already it leaves alone, and whoever is not a member. -/
def checkSegmentEntry (tables : FlowTables) (flow : FlowRow) : FlowTables :=
  if tables.hasSeenSnapshot flow.workspaceId flow.id contactId then tables
  else
    match store.loadWalk (some flow) with
    | none => tables
    | some walk =>
      if contactId ∈ store.matching walk then enterSegmentTriggeredFlow (input.entry flow.id) walk tables contactId
      else tables

def checkSegmentEntryForContact (tables : FlowTables) : FlowTables :=
  (loadLiveSegmentTriggeredFlows tables workspaceId).foldl (checkSegmentEntry input store contactId) tables

def processFlowTriggerCheck (contacts : Table Contact.id) : FlowTables :=
  match Contacts.contactOf contacts workspaceId contactId with
  | none => store.store.tables
  | some _ =>
    checkSegmentEntryForContact input store workspaceId contactId
      ((matchingFlows store workspaceId eventName).foldl (enterEventTriggeredFlow input contactId) store.store.tables)

section Attempts

def eventAttempt (flow : FlowRow) : Option EntryAttempt :=
  flow.liveVersionId.map fun liveVersionId =>
    { flow, liveVersionId, contactId, now := input.now, clock := input.clock flow.id
      flowRunId := input.flowRunId flow.id, marks := false }

def segmentAttempt (flow : FlowRow) : Option EntryAttempt :=
  if store.store.tables.hasSeenSnapshot flow.workspaceId flow.id contactId then none
  else
    (store.loadWalk (some flow)).bind fun walk =>
      if contactId ∈ store.matching walk then some (walkAttempt (input.entry flow.id) walk contactId) else none

def eventAttempts : List EntryAttempt :=
  (matchingFlows store workspaceId eventName).filterMap (eventAttempt input contactId)

def segmentAttempts : List EntryAttempt :=
  (loadLiveSegmentTriggeredFlows store.store.tables workspaceId).filterMap (segmentAttempt input store contactId)

def checkAttempts : List EntryAttempt :=
  eventAttempts input store workspaceId contactId eventName ++ segmentAttempts input store workspaceId contactId

/-- The ids of new runs are new. -/
def CheckInput.fresh : Bool :=
  let attempts := checkAttempts input store workspaceId contactId eventName
  decide (attempts.map EntryAttempt.flowRunId).Nodup &&
    attempts.all fun attempt => (store.store.tables.flowRuns.find? attempt.flowRunId).isNone

end Attempts

end Checks

section Correspondence

variable {input : CheckInput} {store : MembershipStore} {workspaceId : WorkspaceId} {contactId : ContactId}
  {eventName : Option String} {flow : FlowRow} {attempt : EntryAttempt}

theorem enterEventTriggeredFlow_eq (tables : FlowTables) : enterEventTriggeredFlow input contactId tables flow =
    enterAll tables (eventAttempt input contactId flow).toList := by
  unfold enterEventTriggeredFlow eventAttempt
  cases flow.liveVersionId with
  | none => rfl
  | some liveVersionId =>
    dsimp only [Option.map_some, Option.toList_some, enterAll, List.foldl_cons, List.foldl_nil]
    unfold EntryAttempt.enter EntryAttempt.insert EntryAttempt.allowed
    cases decided : tables.canEnterFlow (input.clock flow.id) (flow.entryParams contactId) <;>
      simp [Except.isOk, Except.toBool, EntryAttempt.run]

theorem foldl_enterEvent (tables : FlowTables) (flows : List FlowRow) :
    flows.foldl (enterEventTriggeredFlow input contactId) tables =
      enterAll tables (flows.filterMap (eventAttempt input contactId)) := by
  unfold enterAll
  rw [List.foldl_filterMap]
  congr 1
  funext tables flow
  rw [enterEventTriggeredFlow_eq]
  cases eventAttempt input contactId flow <;> rfl

theorem segmentAttempt_some (attempted : segmentAttempt input store contactId flow = some attempt) :
    store.store.tables.hasSeenSnapshot flow.workspaceId flow.id contactId = false ∧
      ∃ walk, store.loadWalk (some flow) = some walk ∧ contactId ∈ store.matching walk ∧ walk.flow = flow ∧
        walkAttempt (input.entry flow.id) walk contactId = attempt := by
  unfold segmentAttempt at attempted
  split at attempted
  · cases attempted
  · next unseen =>
    obtain ⟨walk, loaded, chosen⟩ := Option.bind_eq_some_iff.mp attempted
    split at chosen
    · next member =>
      exact ⟨Bool.eq_false_iff.mpr unseen, walk, loaded, member, (Option.some.inj (loadWalk_flow loaded)).symm,
        Option.some.inj chosen⟩
    · cases chosen

/-- Each flow is looked up in the snapshot when its turn comes, and none of the others has written its row. -/
theorem foldl_checkSegmentEntry {tables : FlowTables} {flows : List FlowRow} (distinct : (flows.map FlowRow.id).Nodup)
    (seen : ∀ flow ∈ flows, tables.hasSeenSnapshot flow.workspaceId flow.id contactId =
      store.store.tables.hasSeenSnapshot flow.workspaceId flow.id contactId) :
    flows.foldl (checkSegmentEntry input store contactId) tables =
      enterAll tables (flows.filterMap (segmentAttempt input store contactId)) := by
  induction flows generalizing tables with
  | nil => rfl
  | cons head rest ih =>
    rw [List.map_cons, List.nodup_cons] at distinct
    have first : checkSegmentEntry input store contactId tables head =
        enterAll tables (segmentAttempt input store contactId head).toList := by
      unfold checkSegmentEntry segmentAttempt
      rw [seen head List.mem_cons_self]
      split
      · rfl
      · cases store.loadWalk (some head) with
        | none => rfl
        | some walk =>
          dsimp only [Option.bind_some]
          split
          · exact enterSegmentTriggeredFlow_eq
          · rfl
    have divided : (head :: rest).filterMap (segmentAttempt input store contactId) =
        (segmentAttempt input store contactId head).toList ++
          rest.filterMap (segmentAttempt input store contactId) := by
      rw [List.filterMap_cons]
      cases segmentAttempt input store contactId head <;> rfl
    rw [List.foldl_cons, divided, enterAll_append, ← first]
    apply ih distinct.2
    intro flow member
    rw [← seen flow (List.mem_cons_of_mem _ member), first, Bool.eq_iff_iff, hasSeenSnapshot_enterAll]
    refine or_iff_left ?_
    rintro ⟨attempt, mine, _, target⟩
    obtain ⟨_, walk, _, _, same, rfl⟩ := segmentAttempt_some (Option.mem_toList.mp mine)
    have owner : head.id = flow.id := by
      rw [← same]
      exact congrArg (fun target : WorkspaceId × FlowId × ContactId => target.2.1) target
    exact distinct.1 (by rw [owner]; exact List.mem_map_of_mem member)

theorem nodup_segmentFlows {tables : FlowTables} :
    ((loadLiveSegmentTriggeredFlows tables workspaceId).map FlowRow.id).Nodup :=
  tables.flows.unique.sublist (List.filter_sublist.map _)

theorem matchingFlows_sub : (matchingFlows store workspaceId eventName).Sublist store.store.tables.flows.rows := by
  unfold matchingFlows
  split
  · exact List.nil_sublist _
  · split
    · exact List.nil_sublist _
    · exact List.filter_sublist

theorem processFlowTriggerCheck_eq {contacts : Table Contact.id} :
    processFlowTriggerCheck input store workspaceId contactId eventName contacts =
      if (Contacts.contactOf contacts workspaceId contactId).isSome then
        enterAll store.store.tables (checkAttempts input store workspaceId contactId eventName)
      else store.store.tables := by
  unfold processFlowTriggerCheck checkSegmentEntryForContact
  cases Contacts.contactOf contacts workspaceId contactId with
  | none => rfl
  | some contact =>
    dsimp only [Option.isSome_some]
    have flows : loadLiveSegmentTriggeredFlows ((matchingFlows store workspaceId eventName).foldl
        (enterEventTriggeredFlow input contactId) store.store.tables) workspaceId =
        loadLiveSegmentTriggeredFlows store.store.tables workspaceId := by
      unfold loadLiveSegmentTriggeredFlows
      rw [foldl_enterEvent, enterAll_flows]
    rw [flows, foldl_checkSegmentEntry nodup_segmentFlows, foldl_enterEvent]
    · exact enterAll_append.symm
    · intro flow _
      -- an event's own entries leave no row in the snapshot
      rw [foldl_enterEvent, Bool.eq_iff_iff, hasSeenSnapshot_enterAll]
      refine or_iff_left ?_
      rintro ⟨attempt, mine, marks, _⟩
      obtain ⟨_, _, made⟩ := List.mem_filterMap.mp mine
      obtain ⟨_, _, rfl⟩ := Option.map_eq_some_iff.mp made
      cases marks

theorem mem_eventAttempts : attempt ∈ eventAttempts input store workspaceId contactId eventName ↔
    ∃ flow ∈ matchingFlows store workspaceId eventName, eventAttempt input contactId flow = some attempt :=
  List.mem_filterMap

theorem mem_segmentAttempts : attempt ∈ segmentAttempts input store workspaceId contactId ↔
    ∃ flow ∈ loadLiveSegmentTriggeredFlows store.store.tables workspaceId,
      segmentAttempt input store contactId flow = some attempt := List.mem_filterMap

theorem mem_matchingFlows : flow ∈ matchingFlows store workspaceId eventName ↔
    ∃ name, eventName = some name ∧ name ≠ "" ∧ flow ∈ store.store.tables.flows.rows ∧
      flow.workspaceId = workspaceId ∧ flow.status = .live ∧ flow.triggerType = some .event ∧
      flow.triggerEventName = some name ∧ flow.liveVersionId.isSome = true := by
  unfold matchingFlows
  split
  · simp
  · next name =>
    split
    · next empty =>
      rw [String.isEmpty_iff] at empty
      simp [empty]
    · next nonempty =>
      rw [String.isEmpty_iff] at nonempty
      simp [nonempty, loadLiveEventTriggeredFlows, and_assoc]

theorem mem_loadLiveSegmentTriggeredFlows {tables : FlowTables} :
    flow ∈ loadLiveSegmentTriggeredFlows tables workspaceId ↔ flow ∈ tables.flows.rows ∧
      flow.workspaceId = workspaceId ∧ flow.status = .live ∧ flow.triggerType = some .segment ∧
      flow.triggerSegmentId.isSome = true ∧ flow.liveVersionId.isSome = true := by
  simp [loadLiveSegmentTriggeredFlows, and_assoc]

theorem eventAttempt_some (attempted : eventAttempt input contactId flow = some attempt) :
    flow.liveVersionId = some attempt.liveVersionId ∧ attempt.flow = flow ∧ attempt.contactId = contactId ∧
      attempt.marks = false := by
  obtain ⟨liveVersionId, found, rfl⟩ := Option.map_eq_some_iff.mp attempted
  exact ⟨found, rfl, rfl, rfl⟩

theorem map_flow_sublist {attempted : FlowRow → Option EntryAttempt}
    (keeps : ∀ flow attempt, attempted flow = some attempt → attempt.flow = flow) (flows : List FlowRow) :
    ((flows.filterMap attempted).map EntryAttempt.flow).Sublist flows := by
  induction flows with
  | nil => exact List.Sublist.refl []
  | cons head rest ih =>
    rw [List.filterMap_cons]
    cases made : attempted head with
    | none => exact ih.cons head
    | some attempt =>
      show (attempt.flow :: _).Sublist (head :: rest)
      rw [keeps head attempt made]
      exact ih.cons_cons head

theorem independent_check (fresh : input.fresh store workspaceId contactId eventName = true) :
    Independent store.store.tables (checkAttempts input store workspaceId contactId eventName) := by
  unfold CheckInput.fresh at fresh
  simp only [Bool.and_eq_true, decide_eq_true_eq, List.all_eq_true, Option.isNone_iff_eq_none] at fresh
  refine ⟨?_, fresh.1, fresh.2⟩
  have owners : ((checkAttempts input store workspaceId contactId eventName).map EntryAttempt.flow).Sublist
      (matchingFlows store workspaceId eventName ++
        loadLiveSegmentTriggeredFlows store.store.tables workspaceId) := by
    unfold checkAttempts
    rw [List.map_append]
    apply List.Sublist.append
    · exact map_flow_sublist (fun flow attempt made => (eventAttempt_some made).2.1) _
    · apply map_flow_sublist
      intro flow attempt made
      obtain ⟨_, walk, _, _, same, rfl⟩ := segmentAttempt_some made
      exact same
  -- a flow has one trigger, so it is in one of the two lists
  have distinct : ((matchingFlows store workspaceId eventName ++
      loadLiveSegmentTriggeredFlows store.store.tables workspaceId).map FlowRow.id).Nodup := by
    rw [List.map_append, List.nodup_append]
    refine ⟨store.store.tables.flows.unique.sublist (matchingFlows_sub.map _), nodup_segmentFlows, ?_⟩
    rintro _ inEvents _ inSegments rfl
    obtain ⟨flow, member, keyed⟩ := List.mem_map.mp inEvents
    obtain ⟨other, also, same⟩ := List.mem_map.mp inSegments
    obtain ⟨_, _, _, stored, _, _, event, _⟩ := mem_matchingFlows.mp member
    obtain ⟨alsoStored, _, _, segment, _⟩ := mem_loadLiveSegmentTriggeredFlows.mp also
    have found := Table.find?_of_mem stored
    rw [keyed] at found
    obtain rfl := Table.eq_of_find? found alsoStored same
    rw [event] at segment
    cases segment
  apply List.Nodup.of_map (fun target : WorkspaceId × FlowId × ContactId => target.2.1)
  have ids := distinct.sublist (owners.map FlowRow.id)
  rw [List.map_map] at ids ⊢
  exact ids

end Correspondence

end LocalCrm.Triggers
