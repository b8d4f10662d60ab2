import LocalCrm.Flows.EnrollExisting

/-! The walks of the segment sweep, over jobs that crash, run out of time and are handed out again. -/

set_option autoImplicit false

namespace LocalCrm.Flows

open Library Segments

def Worker.sweepOf : Worker → Option SegmentWalk
  | .draining walk | .sweeping walk _ => some walk
  | .session _ | .enrolling _ => none

structure SweepsSound (threads : MembershipThreads) : Prop where
  marked : ∀ id walk, (threads.own id).sweepOf = some walk → threads.shared.sweeping walk.flow.id = true
  alone : ∀ id other walk otherWalk, (threads.own id).sweepOf = some walk →
    (threads.own other).sweepOf = some otherWalk → walk.flow.id = otherWalk.flow.id → id = other
  cursor : ∀ id walk cursor, threads.own id = .sweeping walk cursor →
    threads.shared.loadSweepCheckpoint walk.flow.workspaceId walk.flow.id = cursor

section Walks

variable (workspaceId : WorkspaceId) (flowId : FlowId) (contactId : ContactId)

def pageOf (threads : MembershipThreads) : Turn WorkerTurn MembershipEvent → Option (SegmentWalk × Option ContactId)
  | .thread id (.sweep (.page _)) =>
    match threads.own id with
    | .sweeping walk cursor =>
      if walk.flow.workspaceId = workspaceId ∧ walk.flow.id = flowId then some (walk, cursor) else none
    | .session _ | .enrolling _ | .draining _ => none
  | .thread _ _ | .outside _ => none

def pageContacts (threads : MembershipThreads) (turn : Turn WorkerTurn MembershipEvent) : Option (List ContactId) :=
  (pageOf workspaceId flowId threads turn).map fun (walk, cursor) =>
    Keyset.page sweepPageSize cursor (threads.shared.matching walk)

def staysInSegment (threads : MembershipThreads) (turn : Turn WorkerTurn MembershipEvent) : Bool :=
  (pageOf workspaceId flowId threads turn).all fun (walk, _) => decide (contactId ∈ threads.shared.matching walk)

def timesConsidered : MembershipThreads → List (Turn WorkerTurn MembershipEvent) → Nat :=
  totalAlong membershipStep fun threads turn _ =>
    if (pageContacts workspaceId flowId threads turn).any (·.contains contactId) then 1 else 0

def fullWalks : MembershipThreads → List (Turn WorkerTurn MembershipEvent) → Nat :=
  totalAlong membershipStep fun threads turn _ =>
    if (pageContacts workspaceId flowId threads turn).any List.isEmpty then 1 else 0

def passed (threads : MembershipThreads) : Nat :=
  if Keyset.isAfter (threads.shared.loadSweepCheckpoint workspaceId flowId) contactId then 0 else 1

end Walks

section Checkpoints

variable {store : MembershipStore} {workspaceId otherWorkspace : WorkspaceId} {flowId otherFlow : FlowId}
  {walk : SegmentWalk} {input : EntryInput} {cursor : Option ContactId} {page : List ContactId}

theorem checkpoint_write : (store.writeCheckpoint workspaceId flowId cursor).loadSweepCheckpoint otherWorkspace otherFlow =
    if otherWorkspace = workspaceId ∧ otherFlow = flowId then cursor
    else store.loadSweepCheckpoint otherWorkspace otherFlow := by
  unfold MembershipStore.writeCheckpoint MembershipStore.loadSweepCheckpoint
  simp only [Table.find?_put, SweepCheckpoint.key, Prod.mk.injEq]
  split <;> rfl

theorem checkpoint_page : (store.sweepOneFlowPage input walk page).loadSweepCheckpoint workspaceId flowId =
    if workspaceId = walk.flow.workspaceId ∧ flowId = walk.flow.id then page.getLast?
    else store.loadSweepCheckpoint workspaceId flowId := by
  cases page with
  | nil => exact checkpoint_write
  | cons contactId rest =>
    unfold MembershipStore.sweepOneFlowPage
    rw [checkpoint_write, Keyset.pageEnd, Option.or_none]
    rfl

end Checkpoints

section Steps

variable {id : Nat} {store next : MembershipStore} {worker after : Worker} {turn : WorkerTurn}

def SameSweeps (store next : MembershipStore) : Prop :=
  next.checkpoints = store.checkpoints ∧ next.sweeping = store.sweeping

inductive SweepMoves (store : MembershipStore) : Worker → WorkerTurn → MembershipStore → Worker → Prop where
  | apart {worker after : Worker} {turn : WorkerTurn} {next : MembershipStore} (unswept : worker.sweepOf = none)
      (still : after.sweepOf = none) (same : SameSweeps store next) : SweepMoves store worker turn next after
  | started {workspaceId : WorkspaceId} {flowId : FlowId} {walk : SegmentWalk} (free : store.sweeping flowId = false)
      (keyed : walk.flow.id = flowId) :
      SweepMoves store .idle (.sweepJob workspaceId flowId) (store.markSweeping flowId true) (.draining walk)
  | drained {walk : SegmentWalk} {contactIds : List ContactId} {next : MembershipStore} (same : SameSweeps store next) :
      SweepMoves store (.draining walk) (.sweep (.deleteStale contactIds)) next (.draining walk)
  | loaded {walk : SegmentWalk} : SweepMoves store (.draining walk) (.sweep .loadCheckpoint) store
      (.sweeping walk (store.loadSweepCheckpoint walk.flow.workspaceId walk.flow.id))
  | paged {walk : SegmentWalk} {cursor : Option ContactId} {input : EntryInput} {page : List ContactId}
      (read : page = Keyset.page sweepPageSize cursor (store.matching walk))
      (fresh : input.fresh store.store.tables page = true) (present : page ≠ []) :
      SweepMoves store (.sweeping walk cursor) (.sweep (.page input)) (store.sweepOneFlowPage input walk page)
        (.sweeping walk (Keyset.pageEnd cursor page))
  | finished {walk : SegmentWalk} {cursor : Option ContactId} {input : EntryInput}
      (empty : Keyset.page sweepPageSize cursor (store.matching walk) = []) :
      SweepMoves store (.sweeping walk cursor) (.sweep (.page input))
        ((store.sweepOneFlowPage input walk []).markSweeping walk.flow.id false) .idle
  | stopped {worker : Worker} {walk : SegmentWalk} {turn : WorkerTurn} (swept : worker.sweepOf = some walk)
      (unread : ∀ input, turn ≠ .sweep (.page input)) :
      SweepMoves store worker turn (store.markSweeping walk.flow.id false) .idle

theorem enrollTurn_apart {job : EnrollJob} {moved : EnrollTurn} (turned : enrollTurn store job moved = some (next, after)) :
    after.sweepOf = none ∧ SameSweeps store next := by
  cases moved with
  | loadFlow =>
    simp only [enrollTurn] at turned
    split at turned <;> cases turned <;> exact ⟨rfl, rfl, rfl⟩
  | batch input =>
    simp only [enrollTurn] at turned
    split at turned
    · cases turned
    · split at turned
      · cases turned
        split <;> exact ⟨rfl, rfl, rfl⟩
      · cases turned
  | seed =>
    simp only [enrollTurn] at turned
    split at turned
    · cases turned
    · split at turned <;> cases turned
      exact ⟨rfl, rfl, rfl⟩
  | crash =>
    cases turned
    exact ⟨rfl, rfl, rfl⟩

theorem workerTurn_sweeps (turned : workerTurn id store worker turn = some (next, after)) :
    SweepMoves store worker turn next after := by
  unfold workerTurn at turned
  split at turned
  · obtain ⟨pair, _, same⟩ := Option.map_eq_some_iff.mp turned
    cases same
    exact .apart rfl rfl ⟨rfl, rfl⟩
  · cases turned
    exact .apart rfl rfl ⟨rfl, rfl⟩
  · unfold startSweep at turned
    split at turned
    · cases turned
    · next free =>
      split at turned
      · cases turned
        exact .apart rfl rfl ⟨rfl, rfl⟩
      · next walk loaded =>
        cases turned
        apply SweepMoves.started (Bool.not_eq_true _ ▸ free)
        obtain ⟨_, keyed, _⟩ := flow?_some (Option.filter_eq_some_iff.mp (loadWalk_flow loaded)).1
        exact keyed
  · next job moved =>
    obtain ⟨still, same⟩ := enrollTurn_apart turned
    exact .apart rfl still same
  · next walk moved =>
    cases moved with
    | deleteStale contactIds =>
      simp only [drainTurn] at turned
      split at turned
      · cases turned
        exact .drained ⟨rfl, rfl⟩
      · cases turned
    | loadCheckpoint =>
      cases turned
      exact .loaded
    | page | budgetSpent => cases turned
    | crash =>
      cases turned
      exact .stopped rfl (fun _ same => by cases same)
  · next walk cursor moved =>
    cases moved with
    | page input =>
      simp only [sweepTurn] at turned
      split at turned
      · next fresh =>
        split at turned
        · next empty =>
          rw [List.isEmpty_iff] at empty
          rw [empty] at turned
          cases turned
          exact .finished empty
        · next present =>
          cases turned
          exact .paged rfl fresh (by simpa using present)
      · cases turned
    | budgetSpent | crash =>
      cases turned
      exact .stopped rfl (fun _ same => by cases same)
    | deleteStale | loadCheckpoint => cases turned
  · cases turned

theorem membershipEvent_sweeps {event : MembershipEvent} (happened : membershipEvent store event = some next) :
    SameSweeps store next := by
  cases event with
  | advance workspaceId flowRunId seen =>
    obtain ⟨_, _, rfl⟩ := Option.map_eq_some_iff.mp happened
    exact ⟨rfl, rfl⟩
  | triggerCheck workspaceId flowId contactId input =>
    simp only [membershipEvent, triggerCheck] at happened
    split at happened
    · cases happened
      exact ⟨rfl, rfl⟩
    · split at happened
      · split at happened <;> cases happened <;> exact ⟨rfl, rfl⟩
      · cases happened
  | members | segment =>
    cases happened
    exact ⟨rfl, rfl⟩

end Steps

section Soundness

variable {threads next : MembershipThreads} {turn : Turn WorkerTurn MembershipEvent}

theorem sweepsSound_of_turn {id : Nat} {shared : MembershipStore} {after : Worker} (sound : SweepsSound threads)
    (others : ∀ other walk, other ≠ id → (threads.own other).sweepOf = some walk →
      shared.sweeping walk.flow.id = true ∧ shared.loadSweepCheckpoint walk.flow.workspaceId walk.flow.id =
        threads.shared.loadSweepCheckpoint walk.flow.workspaceId walk.flow.id)
    (mine : ∀ walk, after.sweepOf = some walk → shared.sweeping walk.flow.id = true ∧
      ∀ other otherWalk, other ≠ id → (threads.own other).sweepOf = some otherWalk → otherWalk.flow.id ≠ walk.flow.id)
    (cursor : ∀ walk cursor, after = .sweeping walk cursor →
      shared.loadSweepCheckpoint walk.flow.workspaceId walk.flow.id = cursor) :
    SweepsSound { shared := shared, own := Function.update threads.own id after } := by
  constructor
  · intro other walk swept
    by_cases same : other = id
    · subst same
      simp only [Function.update_self] at swept
      exact (mine walk swept).1
    · simp only [Function.update_of_ne same] at swept
      exact (others other walk same swept).1
  · intro first second walk otherWalk swept also equal
    by_cases same : first = id
    · subst same
      simp only [Function.update_self] at swept
      by_cases both : second = first
      · exact both.symm
      · simp only [Function.update_of_ne both] at also
        exact absurd equal.symm ((mine walk swept).2 second otherWalk both also)
    · simp only [Function.update_of_ne same] at swept
      by_cases both : second = id
      · subst both
        simp only [Function.update_self] at also
        exact absurd equal ((mine otherWalk also).2 first walk same swept)
      · simp only [Function.update_of_ne both] at also
        exact sound.alone first second walk otherWalk swept also equal
  · intro other walk position sweeping
    by_cases same : other = id
    · subst same
      simp only [Function.update_self] at sweeping
      exact cursor walk position sweeping
    · simp only [Function.update_of_ne same] at sweeping
      rw [(others other walk same (by rw [sweeping]; rfl)).2]
      exact sound.cursor other walk position sweeping

theorem sweepOneFlowPage_sweeping {store : MembershipStore} {input : EntryInput} {walk : SegmentWalk}
    {page : List ContactId} : (store.sweepOneFlowPage input walk page).sweeping = store.sweeping := by
  cases page <;> rfl

theorem sweepsSound_step (sound : SweepsSound threads) (taken : membershipStep threads turn = some next) :
    SweepsSound next := by
  cases turn with
  | outside event =>
    obtain ⟨shared, happened, rfl⟩ := interleave_outside.mp taken
    obtain ⟨checkpoints, sweeping⟩ := membershipEvent_sweeps happened
    constructor
    · intro id walk swept
      show shared.sweeping walk.flow.id = true
      rw [sweeping]
      exact sound.marked id walk swept
    · exact sound.alone
    · intro id walk cursor going
      unfold MembershipStore.loadSweepCheckpoint
      rw [checkpoints]
      exact sound.cursor id walk cursor going
  | thread id choice =>
    obtain ⟨shared, after, acted, rfl⟩ := interleave_thread.mp taken
    have moves := workerTurn_sweeps acted
    generalize before : threads.own id = worker at moves
    -- what the worker swept before, no other worker sweeps
    have away : ∀ walk, worker.sweepOf = some walk → ∀ other otherWalk, other ≠ id →
        (threads.own other).sweepOf = some otherWalk → otherWalk.flow.id ≠ walk.flow.id := by
      intro walk swept other otherWalk differs also equal
      exact differs (sound.alone other id otherWalk walk also (by rw [before]; exact swept) equal)
    cases moves with
    | apart unswept still same =>
      apply sweepsSound_of_turn sound
      · intro other walk _ swept
        unfold MembershipStore.loadSweepCheckpoint
        rw [same.1, same.2]
        exact ⟨sound.marked other walk swept, rfl⟩
      · intro walk swept
        cases still.symm.trans swept
      · intro walk cursor going
        rw [going] at still
        cases still
    | @started workspaceId flowId walk free keyed =>
      apply sweepsSound_of_turn sound
      · intro other otherWalk _ swept
        refine ⟨?_, rfl⟩
        show Function.update threads.shared.sweeping flowId true otherWalk.flow.id = true
        by_cases same : otherWalk.flow.id = flowId
        · rw [same, Function.update_self]
        · rw [Function.update_of_ne same]
          exact sound.marked other otherWalk swept
      · intro other swept
        cases swept
        refine ⟨by simp only [MembershipStore.markSweeping, keyed, Function.update_self], ?_⟩
        intro other otherWalk _ also equal
        have marked := sound.marked other otherWalk also
        rw [equal, keyed, free] at marked
        cases marked
      · intro other cursor same
        cases same
    | @drained walk contactIds next same =>
      apply sweepsSound_of_turn sound
      · intro other otherWalk _ swept
        unfold MembershipStore.loadSweepCheckpoint
        rw [same.1, same.2]
        exact ⟨sound.marked other otherWalk swept, rfl⟩
      · intro other swept
        cases swept
        rw [same.2]
        exact ⟨sound.marked id walk (by rw [before]; rfl), away walk rfl⟩
      · intro other cursor going
        cases going
    | @loaded walk =>
      apply sweepsSound_of_turn sound
      · intro other otherWalk _ swept
        exact ⟨sound.marked other otherWalk swept, rfl⟩
      · intro other swept
        cases swept
        exact ⟨sound.marked id walk (by rw [before]; rfl), away walk rfl⟩
      · intro other cursor going
        cases going
        rfl
    | @paged walk cursor input page read fresh present =>
      apply sweepsSound_of_turn sound
      · intro other otherWalk differs swept
        rw [sweepOneFlowPage_sweeping, checkpoint_page, if_neg]
        · exact ⟨sound.marked other otherWalk swept, rfl⟩
        · intro both
          exact away walk rfl other otherWalk differs swept both.2
      · intro other swept
        cases swept
        rw [sweepOneFlowPage_sweeping]
        exact ⟨sound.marked id walk (by rw [before]; rfl), away walk rfl⟩
      · intro other position going
        cases going
        rw [checkpoint_page, if_pos ⟨rfl, rfl⟩, Keyset.pageEnd]
        cases ends : page.getLast? with
        | none => exact absurd (List.getLast?_eq_none_iff.mp ends) present
        | some last => rfl
    | @finished walk cursor input empty =>
      apply sweepsSound_of_turn sound
      · intro other otherWalk differs swept
        have apart := away walk rfl other otherWalk differs swept
        constructor
        · show Function.update (threads.shared.sweepOneFlowPage input walk []).sweeping walk.flow.id false
            otherWalk.flow.id = true
          rw [Function.update_of_ne apart, sweepOneFlowPage_sweeping]
          exact sound.marked other otherWalk swept
        · show (threads.shared.sweepOneFlowPage input walk []).loadSweepCheckpoint _ _ = _
          rw [checkpoint_page, if_neg]
          intro both
          exact apart both.2
      · intro other swept
        cases swept
      · intro other position going
        cases going
    | @stopped worker walk turn swept unread =>
      apply sweepsSound_of_turn sound
      · intro other otherWalk differs also
        refine ⟨?_, rfl⟩
        show Function.update threads.shared.sweeping walk.flow.id false otherWalk.flow.id = true
        rw [Function.update_of_ne (away walk swept other otherWalk differs also)]
        exact sound.marked other otherWalk also
      · intro other same
        cases same
      · intro other position going
        cases going

end Soundness

theorem enterUnseen_considers {tables : FlowTables} {input : EntryInput} {walk : SegmentWalk} {page : List ContactId}
    {contactId : ContactId} (fresh : input.fresh tables page = true) (distinct : page.Nodup) (member : contactId ∈ page) :
    (tables.hasSeenSnapshot walk.flow.workspaceId walk.flow.id contactId = true →
      (enterUnseen input walk tables page).hasSeenSnapshot walk.flow.workspaceId walk.flow.id contactId = true) ∧
    (tables.hasSeenSnapshot walk.flow.workspaceId walk.flow.id contactId = false →
      (enterUnseen input walk tables page).considered walk.flow.workspaceId walk.flow.id contactId = true) := by
  unfold EntryInput.fresh at fresh
  rw [Bool.and_eq_true, decide_eq_true_eq, List.all_eq_true] at fresh
  obtain ⟨apart, unused⟩ := fresh
  constructor
  · exact (foldl_grows fun _ _ => enterSegmentTriggeredFlow_grows).seen _ _ _
  · intro unseen
    apply @foldl_considers _ _ _ _ _ (enterSegmentTriggeredFlow input walk)
      (fun tables contactId => tables.flowRuns.find? (input.flowRunId contactId) = none)
      (fun _ _ => enterSegmentTriggeredFlow_grows) (fun _ _ => enterSegmentTriggeredFlow_considers) _
      (distinct.filter _) (Option.isNone_iff_eq_none.mp (unused contactId member))
      (List.mem_filter.mpr ⟨member, by rw [unseen]; rfl⟩)
    intro tables entered other inside also differs missing
    apply enterSegmentTriggeredFlow_fresh _ missing
    intro same
    exact differs (List.inj_on_of_nodup_map apart (List.mem_filter.mp inside).1 (List.mem_filter.mp also).1 same)

structure PageCommitted (threads next : MembershipThreads) (walk : SegmentWalk) (cursor : Option ContactId) : Prop where
  read : threads.shared.loadSweepCheckpoint walk.flow.workspaceId walk.flow.id = cursor
  written : next.shared.loadSweepCheckpoint walk.flow.workspaceId walk.flow.id =
    (Keyset.page sweepPageSize cursor (threads.shared.matching walk)).getLast?
  entered : ∃ input, next.shared.store.tables = enterUnseen input walk threads.shared.store.tables
    (Keyset.page sweepPageSize cursor (threads.shared.matching walk))
  seen : ∀ contactId ∈ Keyset.page sweepPageSize cursor (threads.shared.matching walk),
    next.shared.store.tables.hasSeenSnapshot walk.flow.workspaceId walk.flow.id contactId = true ∧
      (threads.shared.store.tables.hasSeenSnapshot walk.flow.workspaceId walk.flow.id contactId = false →
        next.shared.store.tables.hasRun walk.flow.workspaceId walk.flow.id contactId = true)

section Pages

variable {threads next : MembershipThreads} {turn : Turn WorkerTurn MembershipEvent} {workspaceId : WorkspaceId}
  {flowId : FlowId} {contactId : ContactId} {walk : SegmentWalk} {cursor : Option ContactId}

theorem pageOf_some (paged : pageOf workspaceId flowId threads turn = some (walk, cursor)) :
    walk.flow.workspaceId = workspaceId ∧ walk.flow.id = flowId ∧ ∃ id input,
      turn = .thread id (.sweep (.page input)) ∧ threads.own id = .sweeping walk cursor := by
  unfold pageOf at paged
  split at paged
  · next id input =>
    split at paged
    · next found going =>
      split at paged
      · next keyed =>
        cases paged
        exact ⟨keyed.1, keyed.2, id, input, rfl, going⟩
      · cases paged
    all_goals cases paged
  all_goals cases paged

theorem page_committed (sound : SweepsSound threads) (taken : membershipStep threads turn = some next)
    (paged : pageOf workspaceId flowId threads turn = some (walk, cursor)) : PageCommitted threads next walk cursor := by
  obtain ⟨_, _, id, input, rfl, going⟩ := pageOf_some paged
  obtain ⟨shared, after, acted, rfl⟩ := interleave_thread.mp taken
  have moves := workerTurn_sweeps acted
  rw [going] at moves
  cases moves with
  | apart unswept => cases unswept
  | stopped swept unread => exact absurd rfl (unread input)
  | @paged _ _ _ page read fresh present =>
    have distinct : page.Nodup := by
      rw [read]
      exact (Keyset.ascending_page (threads.shared.members.distinct _ _)).imp ne_of_lt
    have tables : (threads.shared.sweepOneFlowPage input walk page).store.tables =
        enterUnseen input walk threads.shared.store.tables page := by
      cases page <;> rfl
    subst read
    constructor
    · exact sound.cursor id walk cursor going
    · show (threads.shared.sweepOneFlowPage input walk _).loadSweepCheckpoint _ _ = _
      rw [checkpoint_page, if_pos ⟨rfl, rfl⟩]
    · exact ⟨input, tables⟩
    · intro contactId member
      show (threads.shared.sweepOneFlowPage input walk _).store.tables.hasSeenSnapshot _ _ _ = true ∧
        (_ → (threads.shared.sweepOneFlowPage input walk _).store.tables.hasRun _ _ _ = true)
      rw [tables]
      obtain ⟨again, new⟩ := @enterUnseen_considers _ _ walk _ _ fresh distinct member
      simp only [FlowTables.considered, Bool.and_eq_true] at new
      cases before : threads.shared.store.tables.hasSeenSnapshot walk.flow.workspaceId walk.flow.id contactId with
      | true => exact ⟨again before, fun unseen => by cases unseen⟩
      | false => exact ⟨(new before).1, fun _ => (new before).2⟩
  | finished empty =>
    constructor
    · exact sound.cursor id walk cursor going
    · show (threads.shared.sweepOneFlowPage input walk []).loadSweepCheckpoint _ _ = _
      rw [checkpoint_page, if_pos ⟨rfl, rfl⟩, empty]
    · exact ⟨input, by rw [empty]; rfl⟩
    · intro contactId member
      rw [empty] at member
      cases member

theorem checkpoint_unmoved (taken : membershipStep threads turn = some next)
    (unpaged : pageOf workspaceId flowId threads turn = none) :
    next.shared.loadSweepCheckpoint workspaceId flowId = threads.shared.loadSweepCheckpoint workspaceId flowId := by
  cases turn with
  | outside event =>
    obtain ⟨shared, happened, rfl⟩ := interleave_outside.mp taken
    unfold MembershipStore.loadSweepCheckpoint
    rw [(membershipEvent_sweeps happened).1]
  | thread id choice =>
    obtain ⟨shared, after, acted, rfl⟩ := interleave_thread.mp taken
    have moves := workerTurn_sweeps acted
    generalize before : threads.own id = worker at moves
    have elsewhere : ∀ walk cursor input, worker = .sweeping walk cursor → choice = .sweep (.page input) →
        ¬ (workspaceId = walk.flow.workspaceId ∧ flowId = walk.flow.id) := by
      rintro walk cursor input rfl rfl ⟨rfl, rfl⟩
      simp [pageOf, before] at unpaged
    cases moves with
    | apart _ _ same | drained same =>
      unfold MembershipStore.loadSweepCheckpoint
      rw [same.1]
    | started | loaded | stopped => rfl
    | @paged walk cursor input page =>
      show (threads.shared.sweepOneFlowPage input walk page).loadSweepCheckpoint _ _ = _
      rw [checkpoint_page, if_neg (elsewhere walk cursor input rfl rfl)]
    | @finished walk cursor input =>
      show (threads.shared.sweepOneFlowPage input walk []).loadSweepCheckpoint _ _ = _
      rw [checkpoint_page, if_neg (elsewhere walk cursor input rfl rfl)]

theorem unpaged_untouched {id : Nat} {choice : WorkerTurn} (going : threads.own id = .sweeping walk cursor)
    (taken : membershipStep threads (.thread id choice) = some next)
    (unpaged : pageOf walk.flow.workspaceId walk.flow.id threads (.thread id choice) = none) :
    next.shared.store = threads.shared.store := by
  obtain ⟨shared, after, acted, rfl⟩ := interleave_thread.mp taken
  have moves := workerTurn_sweeps acted
  rw [going] at moves
  cases moves with
  | apart unswept => cases unswept
  | stopped => rfl
  | paged | finished => simp [pageOf, going] at unpaged

structure WalksWhole (workspaceId : WorkspaceId) (flowId : FlowId) (threads : MembershipThreads)
    (turn : Turn WorkerTurn MembershipEvent) (next : MembershipThreads) : Prop where
  pages : ∀ walk cursor, pageOf workspaceId flowId threads turn = some (walk, cursor) →
    PageCommitted threads next walk cursor
  unmoved : pageOf workspaceId flowId threads turn = none →
    next.shared.loadSweepCheckpoint workspaceId flowId = threads.shared.loadSweepCheckpoint workspaceId flowId
  untouched : ∀ id choice walk cursor, turn = .thread id choice → threads.own id = .sweeping walk cursor →
    pageOf walk.flow.workspaceId walk.flow.id threads turn = none → next.shared.store = threads.shared.store
  reset : ∀ last, threads.shared.loadSweepCheckpoint workspaceId flowId = some last →
    next.shared.loadSweepCheckpoint workspaceId flowId = none →
    ∃ walk, pageOf workspaceId flowId threads turn = some (walk, some last) ∧
      ∀ contactId ∈ threads.shared.matching walk, contactId ≤ last

theorem walksWhole_step (sound : SweepsSound threads) (taken : membershipStep threads turn = some next) :
    WalksWhole workspaceId flowId threads turn next := by
  constructor
  · intro walk cursor paged
    exact page_committed sound taken paged
  · intro unpaged
    exact checkpoint_unmoved taken unpaged
  · rintro id choice walk cursor rfl going unpaged
    exact unpaged_untouched going taken unpaged
  · intro last stood reset
    cases paged : pageOf workspaceId flowId threads turn with
    | none =>
      rw [checkpoint_unmoved taken paged, stood] at reset
      cases reset
    | some read =>
      obtain ⟨walk, cursor⟩ := read
      obtain ⟨rfl, rfl, _⟩ := pageOf_some paged
      have committed := page_committed sound taken paged
      have start : some last = cursor := stood.symm.trans committed.read
      subst start
      refine ⟨walk, rfl, ?_⟩
      intro contactId member
      have empty := List.getLast?_eq_none_iff.mp (committed.written.symm.trans reset)
      exact Keyset.not_isAfter_some.mp (Keyset.not_isAfter_of_empty (by decide) empty member)

theorem passed_step (sound : SweepsSound threads) (stays : staysInSegment workspaceId flowId contactId threads turn = true)
    (taken : membershipStep threads turn = some next) :
    (if (pageContacts workspaceId flowId threads turn).any (·.contains contactId) then 1 else 0) +
        passed workspaceId flowId contactId threads =
      (if (pageContacts workspaceId flowId threads turn).any List.isEmpty then 1 else 0) +
        passed workspaceId flowId contactId next := by
  unfold pageContacts passed
  cases paged : pageOf workspaceId flowId threads turn with
  | none =>
    rw [checkpoint_unmoved taken paged]
    rfl
  | some read =>
    obtain ⟨walk, cursor⟩ := read
    obtain ⟨rfl, rfl, _⟩ := pageOf_some paged
    have committed := page_committed sound taken paged
    simp only [staysInSegment, paged, Option.all_some, decide_eq_true_eq] at stays
    rw [committed.read, committed.written]
    simp only [Option.map_some, Option.any_some, List.contains_eq_mem, decide_eq_true_eq]
    have passes := @Keyset.page_passes _ _ cursor _ _ sweepPageSize _ (by decide)
      (threads.shared.members.distinct walk.flow.workspaceId walk.definition) stays
    exact passes

end Pages

/-- Every contact that stays in the segment is on one page of each full walk, and on one of the walk under way
if its cursor has passed it. -/
theorem segment_sweep_walks {origin start final : MembershipThreads} {before turns : List (Turn WorkerTurn MembershipEvent)}
    {workspaceId : WorkspaceId} {flowId : FlowId} {contactId : ContactId} (quiet : ∀ id, (origin.own id).sweepOf = none)
    (reached : run membershipStep origin before = some start)
    (begins : start.shared.loadSweepCheckpoint workspaceId flowId = none)
    (stays : Along membershipStep (fun threads turn _ => staysInSegment workspaceId flowId contactId threads turn = true)
      start turns)
    (ran : run membershipStep start turns = some final) :
    timesConsidered workspaceId flowId contactId start turns =
        fullWalks workspaceId flowId start turns + passed workspaceId flowId contactId final ∧
      Along membershipStep (WalksWhole workspaceId flowId) start turns := by
  have rest : SweepsSound origin := by
    constructor
    · intro id walk swept
      cases (quiet id).symm.trans swept
    · intro id other walk otherWalk swept
      cases (quiet id).symm.trans swept
    · intro id walk cursor going
      have swept : (origin.own id).sweepOf = some walk := by rw [going]; rfl
      cases (quiet id).symm.trans swept
  have sound : SweepsSound start :=
    invariant_of_every_run (fun _ _ _ sound taken => sweepsSound_step sound taken) rest reached
  constructor
  · have unpassed : passed workspaceId flowId contactId start = 0 := by
      unfold passed
      rw [begins]
      rfl
    have balance : timesConsidered workspaceId flowId contactId start turns + passed workspaceId flowId contactId start =
        fullWalks workspaceId flowId start turns + passed workspaceId flowId contactId final := by
      apply totalAlong_balance _ _ sound stays ran
      · intro threads turn next sound _ taken
        exact sweepsSound_step sound taken
      · intro threads turn next sound stays taken
        exact passed_step sound stays taken
    rw [unpassed] at balance
    exact balance
  · exact along_of_invariant (fun _ _ _ sound taken => sweepsSound_step sound taken)
      (fun _ _ _ sound taken => walksWhole_step sound taken) sound turns

section Traces

def sweepTurns (id : Nat) (turns : List SweepTurn) : List (Turn WorkerTurn MembershipEvent) :=
  .thread id (.sweepJob 1 7) :: turns.map fun turn => .thread id (.sweep turn)

def publishedFlowTurns : List (Turn WorkerTurn MembershipEvent) := createFlowTurns ++ publishWith 2 10

def crashedSweep : List (Turn WorkerTurn MembershipEvent) :=
  sweepTurns 1 [.deleteStale [], .loadCheckpoint, .page entries, .crash] ++
    sweepTurns 2 [.deleteStale [], .loadCheckpoint, .page entries]

theorem crashed_sweep_walks : ∃ start final, run membershipStep twoSegments publishedFlowTurns = some start ∧
    run membershipStep start crashedSweep = some final ∧ fullWalks 1 7 start crashedSweep = 1 ∧
    timesConsidered 1 7 3 start crashedSweep = 1 + passed 1 7 3 final ∧
    Along membershipStep (WalksWhole 1 7) start crashedSweep := by
  have runs : (run membershipStep twoSegments publishedFlowTurns).any (fun start =>
      decide (start.shared.loadSweepCheckpoint 1 7 = none) && decide (fullWalks 1 7 start crashedSweep = 1) &&
        checkAlong membershipStep (staysInSegment 1 7 3) start crashedSweep &&
        (run membershipStep start crashedSweep).isSome) = true := by
    decide +kernel
  obtain ⟨start, reached, checked⟩ := Option.any_eq_true _ _ |>.mp runs
  simp only [Bool.and_eq_true, decide_eq_true_eq] at checked
  obtain ⟨⟨⟨begins, walked⟩, stays⟩, ends⟩ := checked
  obtain ⟨final, ran⟩ := Option.isSome_iff_exists.mp ends
  have whole := segment_sweep_walks (fun _ => rfl) reached begins (along_of_check stays) ran
  rw [walked] at whole
  exact ⟨start, final, reached, ran, walked, whole⟩

end Traces

end LocalCrm.Flows
