import LocalCrm.Purge.Turns

/-! Announce before acting. -/

set_option autoImplicit false

namespace LocalCrm.Purge

open Library

section Order

variable {event other : PurgeEvent} {fresh history : List PurgeEvent}

def laterThan (event : PurgeEvent) (history : List PurgeEvent) : List PurgeEvent :=
  history.takeWhile fun listed => decide (listed ≠ event)

def earlierThan (event : PurgeEvent) (history : List PurgeEvent) : List PurgeEvent :=
  (history.dropWhile fun listed => decide (listed ≠ event)).tail

theorem laterThan_append (absent : event ∉ fresh) :
    laterThan event (fresh ++ history) = fresh ++ laterThan event history := by
  unfold laterThan
  rw [List.takeWhile_append_of_pos]
  intro listed member
  exact decide_eq_true fun same => absent (same ▸ member)

theorem earlierThan_append (absent : event ∉ fresh) :
    earlierThan event (fresh ++ history) = earlierThan event history := by
  unfold earlierThan
  rw [List.dropWhile_append_of_pos]
  intro listed member
  exact decide_eq_true fun same => absent (same ▸ member)

theorem laterThan_cons_self : laterThan event (event :: history) = [] := by
  simp [laterThan]

theorem earlierThan_cons_self : earlierThan event (event :: history) = history := by
  simp [earlierThan]

theorem mem_of_earlierThan (listed : other ∈ earlierThan event history) : other ∈ history :=
  (List.dropWhile_sublist _).subset (List.mem_of_mem_tail listed)

theorem mem_of_laterThan (listed : other ∈ laterThan event history) : other ∈ history :=
  (List.takeWhile_sublist _).subset listed

end Order

/-- The tick's deletion of rows was announced: the retention is over, and before it another tick reported this
deletion of the workspace and destroyed nothing. -/
def Announced (settings : PurgeSettings) (store : PurgeStore) (tick : Nat) (workspaceId : WorkspaceId) : Prop :=
  ∃ deletedAt startedAt reporter,
    readOrganizationDeletedAt store workspaceId = some deletedAt ∧
    .started tick startedAt ∈ store.history ∧ deletedAt + settings.retention ≤ startedAt ∧ reporter ≠ tick ∧
    .reported reporter workspaceId ∈ earlierThan (.started tick startedAt) store.history ∧
    .selected reporter ∈ store.history ∧
    .reported reporter workspaceId ∈ laterThan (.selected reporter) store.history ∧
    .deleted workspaceId ∉ laterThan (.selected reporter) store.history ∧
    ∀ table row, .destroyed reporter workspaceId table row ∉ store.history

def StillReported (store : PurgeStore) (workspaceId : WorkspaceId) : Prop :=
  ∃ record, store.purgeRecords.find? workspaceId = some record ∧
    readOrganizationDeletedAt store workspaceId = some record.softDeletedAt

def Takes (before after : PurgeWorld) (tick : Nat) (workspaceId : WorkspaceId) : Prop :=
  ∃ fresh table row, after.shared.history = fresh ++ before.shared.history ∧
    .destroyed tick workspaceId table row ∈ fresh

/-- The reporter selected the workspace past its retention; whether under the current deletion shows in
`deletedAt`. -/
structure Selected (settings : PurgeSettings) (store : PurgeStore) (reporter : Nat) (workspaceId : WorkspaceId)
    (deletedAt : Timestamp) : Prop where
  selected : .selected reporter ∈ store.history
  retained : deletedAt + settings.retention ≤ store.now
  current : ∀ now, readOrganizationDeletedAt store workspaceId = some now →
    (now = deletedAt ↔ .deleted workspaceId ∉ laterThan (.selected reporter) store.history)

def Due (settings : PurgeSettings) (store : PurgeStore) (tick : Nat) (workspaceId : WorkspaceId) : Prop :=
  ∃ startedAt reporter deletedAt, .started tick startedAt ∈ store.history ∧
    .reported reporter workspaceId ∈ earlierThan (.started tick startedAt) store.history ∧
    reportedFor store workspaceId = some deletedAt ∧ deletedAt + settings.retention ≤ startedAt

/-- How records, reports and ticks of the history belong together. -/
structure Announcements (settings : PurgeSettings) (store : PurgeStore) : Prop where
  recorded : ∀ workspaceId deletedAt, reportedFor store workspaceId = some deletedAt →
    ∃ reporter, .reported reporter workspaceId ∈ laterThan (.selected reporter) store.history ∧
      Selected settings store reporter workspaceId deletedAt
  reports : ∀ reporter workspaceId, .reported reporter workspaceId ∈ store.history →
    (reportedFor store workspaceId).isSome
  once : ∀ first second workspaceId, .reported first workspaceId ∈ store.history →
    .reported second workspaceId ∈ store.history → first = second
  own : ∀ tick startedAt workspaceId, .started tick startedAt ∈ store.history →
    .reported tick workspaceId ∉ earlierThan (.started tick startedAt) store.history
  destroyed : ∀ tick workspaceId table row, .destroyed tick workspaceId table row ∈ store.history →
    Due settings store tick workspaceId

structure Expects (settings : PurgeSettings) (thread : Nat) (store : PurgeStore) (process : Process) : Prop where
  unstarted : process = .unstarted → ∀ event ∈ store.history, event.thread? ≠ some thread
  queue : ∀ workspaceId ∈ process.queue, Due settings store thread workspaceId
  candidates : ∀ candidate ∈ process.candidates, Selected settings store thread candidate.1 candidate.2
  selects : process.selects = true → .selected thread ∉ store.history

def Outlives (thread : Nat) (before after : PurgeStore) : Prop :=
  ∃ fresh, Ages before after fresh ∧ (∀ event ∈ fresh, event.thread? ≠ some thread) ∧
    ∀ workspaceId deletedAt, reportedFor before workspaceId = some deletedAt →
      reportedFor after workspaceId = some deletedAt

section Aging

variable {settings : PurgeSettings} {before after : PurgeStore} {fresh : List PurgeEvent} {reporter tick : Nat}
  {workspaceId : WorkspaceId} {deletedAt : Timestamp}

theorem Selected.aged (selected : Selected settings before reporter workspaceId deletedAt)
    (ages : Ages before after fresh) (other : .selected reporter ∉ fresh) :
    Selected settings after reporter workspaceId deletedAt where
  selected := by
    rw [ages.history]
    exact List.mem_append_right _ selected.selected
  retained := Int.le_trans selected.retained ages.now
  current := by
    intro now read
    rw [ages.history, laterThan_append other]
    rcases ages.deleted workspaceId now read with ⟨silent, old⟩ | ⟨deleted, later⟩
    · rw [selected.current now old, List.mem_append, not_or]
      constructor
      · intro quiet
        exact ⟨silent, quiet⟩
      · intro both
        exact both.2
    · have strictly : deletedAt < now :=
        calc deletedAt < deletedAt + settings.retention := Int.lt_add_of_pos_right _ settings.retention_pos
          _ ≤ before.now := selected.retained
          _ ≤ now := later
      constructor
      · intro same
        exact absurd same (ne_of_gt strictly)
      · intro quiet
        exact absurd (List.mem_append_left _ deleted) quiet

theorem Due.aged (due : Due settings before tick workspaceId) (ages : Ages before after fresh)
    (other : ∀ startedAt, .started tick startedAt ∈ before.history → .started tick startedAt ∉ fresh)
    (kept : ∀ workspaceId deletedAt, reportedFor before workspaceId = some deletedAt →
      reportedFor after workspaceId = some deletedAt) : Due settings after tick workspaceId := by
  obtain ⟨startedAt, reporter, deletedAt, started, reported, recorded, retained⟩ := due
  refine ⟨startedAt, reporter, deletedAt, ?_, ?_, kept workspaceId deletedAt recorded, retained⟩
  · rw [ages.history]
    exact List.mem_append_right _ started
  · rw [ages.history, earlierThan_append (other startedAt started)]
    exact reported

theorem expects_stable {thread : Nat} {process : Process} (expects : Expects settings thread before process)
    (outlives : Outlives thread before after) : Expects settings thread after process := by
  obtain ⟨fresh, ages, others, kept⟩ := outlives
  constructor
  · intro idle event listed
    rw [ages.history] at listed
    rcases List.mem_append.mp listed with new | old
    · exact others event new
    · exact expects.unstarted idle event old
  · intro workspaceId queued
    exact (expects.queue workspaceId queued).aged ages (fun _ _ listed => others _ listed rfl) kept
  · intro candidate listed
    exact (expects.candidates candidate listed).aged ages fun new => others _ new rfl
  · intro selects listed
    rw [ages.history] at listed
    rcases List.mem_append.mp listed with new | old
    · exact others _ new rfl
    · exact expects.selects selects old

/-- New events that report nothing keep every announcement, provided each destruction is due. -/
theorem Announcements.grown (announcements : Announcements settings before) (ages : Ages before after fresh)
    (records : ∀ workspaceId, reportedFor after workspaceId = reportedFor before workspaceId)
    (starts : ∀ tick startedAt, .started tick startedAt ∈ before.history → .started tick startedAt ∉ fresh)
    (opens : ∀ tick startedAt workspaceId, .started tick startedAt ∈ fresh →
      .reported tick workspaceId ∉ earlierThan (.started tick startedAt) after.history)
    (selects : ∀ tick, .selected tick ∈ before.history → .selected tick ∉ fresh)
    (reports : ∀ tick workspaceId, .reported tick workspaceId ∉ fresh)
    (due : ∀ tick workspaceId table row, .destroyed tick workspaceId table row ∈ fresh →
      Due settings before tick workspaceId ∧ ∀ startedAt, .started tick startedAt ∉ fresh) :
    Announcements settings after := by
  have kept : ∀ workspaceId deletedAt, reportedFor before workspaceId = some deletedAt →
      reportedFor after workspaceId = some deletedAt := fun workspaceId _ found => (records workspaceId).trans found
  have old : ∀ tick workspaceId, .reported tick workspaceId ∈ after.history →
      .reported tick workspaceId ∈ before.history := by
    intro tick workspaceId listed
    rw [ages.history] at listed
    exact (List.mem_append.mp listed).resolve_left (reports tick workspaceId)
  constructor
  · intro workspaceId deletedAt found
    rw [records] at found
    obtain ⟨reporter, reported, selected⟩ := announcements.recorded workspaceId deletedAt found
    have other := selects reporter selected.selected
    refine ⟨reporter, ?_, selected.aged ages other⟩
    rw [ages.history, laterThan_append other]
    exact List.mem_append_right _ reported
  · intro reporter workspaceId listed
    rw [records]
    exact announcements.reports reporter workspaceId (old reporter workspaceId listed)
  · intro first second workspaceId one two
    exact announcements.once first second workspaceId (old first workspaceId one) (old second workspaceId two)
  · intro tick startedAt workspaceId started
    rw [ages.history] at started
    rcases List.mem_append.mp started with new | earlier
    · exact opens tick startedAt workspaceId new
    · rw [ages.history, earlierThan_append (starts tick startedAt earlier)]
      exact announcements.own tick startedAt workspaceId earlier
  · intro tick workspaceId table row listed
    rw [ages.history] at listed
    rcases List.mem_append.mp listed with new | earlier
    · obtain ⟨was, unstarted⟩ := due tick workspaceId table row new
      exact was.aged ages (fun startedAt _ => unstarted startedAt) kept
    · exact (announcements.destroyed tick workspaceId table row earlier).aged ages (starts tick) kept

end Aging

section Turns

variable {settings : PurgeSettings} {thread : Nat} {before after : PurgeStore} {process next : Process}

theorem ages_noted {store : PurgeStore} {event : PurgeEvent} (silent : ∀ workspaceId, event ≠ .deleted workspaceId) :
    Ages store { store with history := event :: store.history } [event] where
  now := Int.le_refl _
  history := rfl
  deleted workspaceId deletedAt read := by
    refine Or.inl ⟨?_, read⟩
    intro listed
    exact silent workspaceId (List.mem_singleton.mp listed).symm

theorem due_of_started (announcements : Announcements settings before)
    (noted : after = { before with history := .started thread before.now :: before.history }) {workspaceId : WorkspaceId}
    (loaded : workspaceId ∈ loadDestructiblePurgeRecords before) : Due settings after thread workspaceId := by
  obtain ⟨record, listed, rfl⟩ := List.mem_map.mp loaded
  have found := Table.find?_of_mem (List.mem_filter.mp listed).1
  have recorded : reportedFor before record.workspaceId = some record.softDeletedAt := by
    rw [reportedFor, found]
    rfl
  obtain ⟨reporter, reported, selected⟩ := announcements.recorded _ _ recorded
  subst noted
  refine ⟨before.now, reporter, record.softDeletedAt, List.mem_cons_self, ?_, recorded, selected.retained⟩
  rw [earlierThan_cons_self]
  exact mem_of_laterThan reported

theorem announcements_started (announcements : Announcements settings before)
    (idle : ∀ event ∈ before.history, event.thread? ≠ some thread)
    (noted : after = { before with history := .started thread before.now :: before.history }) :
    Announcements settings after := by
  subst noted
  refine announcements.grown (ages_noted (by simp)) (fun _ => rfl) ?_ ?_ (by simp) (by simp) (by simp)
  · intro tick startedAt listed new
    cases List.mem_singleton.mp new
    exact idle _ listed rfl
  · -- nothing of the thread is older than its start
    intro tick startedAt workspaceId new listed
    cases List.mem_singleton.mp new
    rw [earlierThan_cons_self] at listed
    exact idle _ listed rfl

theorem announcements_selected (announcements : Announcements settings before)
    (fresh : .selected thread ∉ before.history)
    (noted : after = { before with history := .selected thread :: before.history }) :
    Announcements settings after := by
  subst noted
  refine announcements.grown (ages_noted (by simp)) (fun _ => rfl) (by simp) (by simp) ?_ (by simp) (by simp)
  intro tick listed new
  cases List.mem_singleton.mp new
  exact fresh listed

theorem selected_of_eligible
    (noted : after = { before with history := .selected thread :: before.history })
    {candidate : WorkspaceId × Timestamp} (eligible : candidate ∈ findEligibleWorkspaces settings before) :
    Selected settings after thread candidate.1 candidate.2 := by
  obtain ⟨organization, stored, chosen⟩ := List.mem_filterMap.mp eligible
  obtain ⟨deletedAt, deleted, past⟩ := Option.bind_eq_some_iff.mp chosen
  split at past
  · next retained =>
    cases past
    subst noted
    refine ⟨List.mem_cons_self, ?_, ?_⟩
    · exact Int.add_le_of_le_sub_right retained
    · intro now read
      have same : readOrganizationDeletedAt before organization.id = some deletedAt := by
        rw [readOrganizationDeletedAt, Table.find?_of_mem stored]
        exact deleted
      rw [laterThan_cons_self]
      constructor
      · intro _
        exact List.not_mem_nil
      · intro _
        exact Option.some.inj (read.symm.trans same)
  · cases past

theorem insertReport_present {store : PurgeStore} {workspaceId : WorkspaceId} {deletedAt : Timestamp}
    {counts : TableCounts} (present : (reportedFor store workspaceId).isSome) :
    insertReport settings store thread workspaceId deletedAt counts = store := by
  unfold insertReport
  cases found : store.purgeRecords.find? workspaceId with
  | some record => rfl
  | none =>
    rw [reportedFor, found] at present
    cases present

theorem insertReport_absent {store : PurgeStore} {workspaceId : WorkspaceId} {deletedAt : Timestamp}
    {counts : TableCounts} (absent : reportedFor store workspaceId = none) :
    let after := insertReport settings store thread workspaceId deletedAt counts
    Ages store after [.reported thread workspaceId] ∧ reportedFor after workspaceId = some deletedAt ∧
      ∀ other, other ≠ workspaceId → reportedFor after other = reportedFor store other := by
  have none : store.purgeRecords.find? workspaceId = none := Option.map_eq_none_iff.mp absent
  simp only [insertReport, none]
  refine ⟨⟨Int.le_refl _, rfl, ?_⟩, ?_, ?_⟩
  · intro other deletedAt read
    exact Or.inl ⟨by simp, read⟩
  · simp [reportedFor, Table.find?_insert, none, reportedRecord]
  · intro other differs
    have apart : ¬ workspaceId = other := fun same => differs same.symm
    simp [reportedFor, Table.find?_insert, reportedRecord, apart]

theorem announcements_reported (announcements : Announcements settings before) {workspaceId : WorkspaceId}
    {deletedAt : Timestamp} {counts : TableCounts} (selected : Selected settings before thread workspaceId deletedAt) :
    Announcements settings (insertReport settings before thread workspaceId deletedAt counts) := by
  cases found : reportedFor before workspaceId with
  | some recorded =>
    rw [insertReport_present (by rw [found]; rfl)]
    exact announcements
  | none =>
    obtain ⟨ages, own, others⟩ := @insertReport_absent settings thread before workspaceId deletedAt counts found
    have apart : ∀ other was, reportedFor before other = some was → other ≠ workspaceId := by
      intro other was recorded same
      rw [same, found] at recorded
      cases recorded
    have fresh : ∀ reporter, .reported reporter workspaceId ∉ before.history := by
      intro reporter listed
      have present := announcements.reports reporter workspaceId listed
      rw [found] at present
      cases present
    constructor
    · intro other was recorded
      by_cases same : other = workspaceId
      · subst same
        obtain rfl := Option.some.inj (own.symm.trans recorded)
        have quiet : PurgeEvent.selected thread ∉ [PurgeEvent.reported thread other] := by simp
        refine ⟨thread, ?_, selected.aged ages quiet⟩
        rw [ages.history, laterThan_append quiet]
        exact List.mem_cons_self
      · rw [others other same] at recorded
        obtain ⟨reporter, reported, earlier⟩ := announcements.recorded other was recorded
        have quiet : PurgeEvent.selected reporter ∉ [PurgeEvent.reported thread workspaceId] := by simp
        refine ⟨reporter, ?_, earlier.aged ages quiet⟩
        rw [ages.history, laterThan_append quiet]
        exact List.mem_cons_of_mem _ reported
    · intro reporter other listed
      by_cases same : other = workspaceId
      · rw [same, own]
        rfl
      · rw [others other same]
        rw [ages.history] at listed
        rcases List.mem_cons.mp listed with new | old
        · cases new
          exact absurd rfl same
        · exact announcements.reports reporter other old
    · intro first second other one two
      rw [ages.history] at one two
      rcases List.mem_cons.mp one with new | old
      · rcases List.mem_cons.mp two with also | earlier
        · cases new
          cases also
          rfl
        · cases new
          exact absurd earlier (fresh second)
      · rcases List.mem_cons.mp two with also | earlier
        · cases also
          exact absurd old (fresh first)
        · exact announcements.once first second other old earlier
    · intro tick startedAt other started
      rw [ages.history] at started ⊢
      exact announcements.own tick startedAt other ((List.mem_append.mp started).resolve_left (by simp))
    · intro tick other table row listed
      rw [ages.history] at listed
      have earlier : PurgeEvent.destroyed tick other table row ∈ before.history :=
        (List.mem_append.mp listed).resolve_left (by simp)
      apply (announcements.destroyed tick other table row earlier).aged ages
      · simp
      · intro named was recorded
        rw [others named (apart named was recorded)]
        exact recorded

theorem expects_selected (past : next.selects = false) (queue : next.queue = [])
    (candidates : ∀ candidate ∈ next.candidates, Selected settings after thread candidate.1 candidate.2) :
    Expects settings thread after next where
  unstarted := by
    intro same
    rw [same] at past
    cases past
  queue := by
    intro workspaceId queued
    rw [queue] at queued
    cases queued
  candidates := candidates
  selects := by
    intro selects
    rw [past] at selects
    cases selects

theorem outlives_noted {event : PurgeEvent} {other : Nat} (own : event.thread? = some thread)
    (silent : ∀ workspaceId, event ≠ .deleted workspaceId) (differs : other ≠ thread) :
    Outlives other before { before with history := event :: before.history } := by
  refine ⟨[event], ages_noted silent, ?_, fun _ _ found => found⟩
  intro noted listed same
  rw [List.mem_singleton.mp listed, own] at same
  exact differs (Option.some.inj same).symm

/-- A turn of the thread, in one statement. -/
theorem turn_announced (announcements : Announcements settings before)
    (expects : Expects settings thread before process) (turned : Turned settings thread before after process next) :
    Announcements settings after ∧ Expects settings thread after next ∧
      ∀ other, other ≠ thread → Outlives other before after := by
  cases turned with
  | started fresh noted queue candidates running =>
    have idle := expects.unstarted fresh
    refine ⟨announcements_started announcements idle noted, ?_, ?_⟩
    · constructor
      · intro same
        exact absurd same running
      · intro workspaceId queued
        rw [queue] at queued
        exact due_of_started announcements noted queued
      · intro candidate listed
        rw [candidates] at listed
        cases listed
      · intro _ listed
        subst noted
        rcases List.mem_cons.mp listed with same | old
        · cases same
        · exact idle _ old rfl
    · intro other differs
      rw [noted]
      exact outlives_noted rfl (by intro workspaceId same; cases same) differs
  | selected ready noted queue candidates past =>
    refine ⟨announcements_selected announcements (expects.selects ready) noted, ?_, ?_⟩
    · apply expects_selected past queue
      intro candidate listed
      exact selected_of_eligible noted (candidates candidate listed)
    · intro other differs
      rw [noted]
      exact outlives_noted rfl (by intro workspaceId same; cases same) differs
  | reported workspaceId deletedAt counts listed inserted queue candidates past =>
    subst inserted
    have chosen := expects.candidates _ listed
    cases found : reportedFor before workspaceId with
    | some recorded =>
      -- the workspace was announced before, and its record stays as it is
      rw [insertReport_present (by rw [found]; rfl)]
      refine ⟨announcements, ?_, fun other _ => ⟨[], Ages.refl before, by simp, fun _ _ found => found⟩⟩
      apply expects_selected past queue
      intro candidate still
      exact expects.candidates candidate (candidates candidate still)
    | none =>
      obtain ⟨ages, own, others⟩ := @insertReport_absent settings thread before workspaceId deletedAt counts found
      refine ⟨announcements_reported announcements chosen, ?_, ?_⟩
      · apply expects_selected past queue
        intro candidate still
        exact (expects.candidates candidate (candidates candidate still)).aged ages (by simp)
      · intro other differs
        refine ⟨_, ages, ?_, ?_⟩
        · intro event new same
          cases List.mem_singleton.mp new
          exact differs (Option.some.inj same).symm
        · intro named was recorded
          rw [others named]
          · exact recorded
          · intro same
            rw [same, found] at recorded
            cases recorded
  | quiet fresh ages events records queue candidates selects running =>
    have silent : ∀ event ∈ fresh, (∀ tick startedAt, event ≠ .started tick startedAt) ∧
        (∀ tick, event ≠ .selected tick) ∧ ∀ tick workspaceId, event ≠ .reported tick workspaceId := by
      intro event listed
      rcases events event listed with ⟨workspaceId, table, row, rfl, -⟩ | ⟨workspaceId, rfl⟩
      · simp
      · simp
    have kept : ∀ workspaceId deletedAt, reportedFor before workspaceId = some deletedAt →
        reportedFor after workspaceId = some deletedAt := fun workspaceId _ found => (records workspaceId).trans found
    refine ⟨?_, ?_, ?_⟩
    · have unstarted : ∀ tick startedAt, .started tick startedAt ∉ fresh := by
        intro tick startedAt listed
        exact (silent _ listed).1 tick startedAt rfl
      refine announcements.grown ages records (fun tick startedAt _ => unstarted tick startedAt)
        (fun tick startedAt _ new => absurd new (unstarted tick startedAt)) ?_ ?_ ?_
      · intro tick _ listed
        exact (silent _ listed).2.1 tick rfl
      · intro tick workspaceId listed
        exact (silent _ listed).2.2 tick workspaceId rfl
      · -- only what the thread has loaded is destroyed
        intro tick workspaceId table row listed
        rcases events _ listed with ⟨walked, taken, gone, same, queued⟩ | ⟨walked, same⟩
        · cases same
          exact ⟨expects.queue _ queued, unstarted _⟩
        · cases same
    · constructor
      · intro same
        exact absurd same running
      · intro workspaceId queued
        apply (expects.queue workspaceId (queue workspaceId queued)).aged ages _ kept
        intro startedAt _ listed
        exact (silent _ listed).1 thread startedAt rfl
      · intro candidate listed
        apply (expects.candidates candidate (candidates candidate listed)).aged ages
        intro new
        exact (silent _ new).2.1 thread rfl
      · intro ready listed
        rw [ages.history] at listed
        rcases List.mem_append.mp listed with new | old
        · exact (silent _ new).2.1 thread rfl
        · exact expects.selects (selects ready) old
    · intro other differs
      refine ⟨fresh, ages, ?_, kept⟩
      intro event listed same
      rcases events event listed with ⟨workspaceId, table, row, rfl, -⟩ | ⟨workspaceId, rfl⟩
      · exact differs (Option.some.inj same).symm
      · cases same

end Turns

section Outside

variable {settings : PurgeSettings} {store next : PurgeStore} {event : Event}

theorem ages_softDelete {workspaceId : WorkspaceId} :
    Ages store (softDelete store workspaceId) [.deleted workspaceId] where
  now := Int.le_refl _
  history := rfl
  deleted other deletedAt read := by
    rw [readOrganizationDeletedAt, softDelete, Table.find?_update] at read
    cases found : store.organizations.find? other with
    | none =>
      rw [found] at read
      cases read
    | some organization =>
      have named := Table.key_of_find? found
      rw [found, Option.map_some, Option.bind_some] at read
      split at read
      · next same =>
        obtain rfl : organization.id = workspaceId := eq_of_beq same
        rw [← named]
        exact Or.inr ⟨List.mem_cons_self, Int.le_of_eq (Option.some.inj read)⟩
      · next differs =>
        refine Or.inl ⟨?_, by rw [readOrganizationDeletedAt, found]; exact read⟩
        intro listed
        cases List.mem_singleton.mp listed
        exact differs (beq_iff_eq.mpr named)

theorem outside_ages (happened : outside store event = some next) :
    ∃ fresh, Ages store next fresh ∧ (∀ noted ∈ fresh, ∃ workspaceId, noted = .deleted workspaceId) ∧
      ∀ workspaceId, reportedFor next workspaceId = reportedFor store workspaceId := by
  cases event with
  | elapse milliseconds =>
    cases happened
    refine ⟨[], ⟨?_, rfl, fun _ _ read => Or.inl ⟨List.not_mem_nil, read⟩⟩, by simp, fun _ => rfl⟩
    exact Int.le_add_of_nonneg_right (Int.natCast_nonneg milliseconds)
  | deleteWorkspace workspaceId =>
    cases happened
    refine ⟨[.deleted workspaceId], ages_softDelete, ?_, fun _ => rfl⟩
    intro noted listed
    exact ⟨workspaceId, List.mem_singleton.mp listed⟩
  | insertRow table row =>
    simp only [outside] at happened
    split at happened
    · cases happened
      exact ⟨[], Ages.of_same rfl rfl rfl, by simp, fun _ => rfl⟩
    · cases happened
  | removeRows table workspaceId ids =>
    obtain ⟨⟨left, removed⟩, -, same⟩ := Option.map_eq_some_iff.mp happened
    cases same
    exact ⟨[], Ages.of_same rfl rfl rfl, by simp, fun _ => rfl⟩
  | resumePurge workspaceId =>
    cases happened
    exact ⟨[], Ages.of_same rfl rfl rfl, by simp, reportedFor_updateRecord fun _ => rfl⟩

theorem outside_announced (announcements : Announcements settings store) (happened : outside store event = some next) :
    Announcements settings next ∧ ∀ thread, Outlives thread store next := by
  obtain ⟨fresh, ages, deletions, records⟩ := outside_ages happened
  constructor
  · have others : ∀ noted, (∀ workspaceId, noted ≠ .deleted workspaceId) → noted ∉ fresh := by
      intro noted differs listed
      obtain ⟨workspaceId, same⟩ := deletions noted listed
      exact differs workspaceId same
    apply announcements.grown ages records
    · exact fun _ _ _ => others _ (by simp)
    · exact fun _ _ _ new => absurd new (others _ (by simp))
    · exact fun _ _ => others _ (by simp)
    · exact fun _ _ => others _ (by simp)
    · exact fun _ _ _ _ new => absurd new (others _ (by simp))
  · intro thread
    refine ⟨fresh, ages, ?_, fun workspaceId deletedAt found => (records workspaceId).trans found⟩
    intro noted listed same
    obtain ⟨workspaceId, rfl⟩ := deletions noted listed
    cases same

end Outside

section Runs

variable {settings : PurgeSettings} {initial : PurgeWorld}

theorem announced_step (before : PurgeWorld) (turn : Turn Choice Event) (after : PurgeWorld)
    (sound : Threads.Sound (Announcements settings) (Expects settings) before)
    (taken : purgeStep settings before turn = some after) :
    Threads.Sound (Announcements settings) (Expects settings) after := by
  refine @sound_interleave _ _ _ _ (act settings) outside (Announcements settings) (Expects settings) Outlives ?_ ?_ ?_
    before turn after sound taken
  · intro thread store process choice next after announcements expects acted
    exact turn_announced announcements expects (act_turned acted)
  · intro store event next announcements happened
    exact outside_announced announcements happened
  · intro thread store next process expects outlives
    exact expects_stable expects outlives

theorem announced_initial (fresh : Initial initial) :
    Threads.Sound (Announcements settings) (Expects settings) initial := by
  have empty : ∀ event, event ∉ initial.shared.history := by
    intro event listed
    rw [fresh.history] at listed
    cases listed
  constructor
  · constructor
    · intro workspaceId deletedAt recorded
      rw [reportedFor, fresh.purgeRecords] at recorded
      cases recorded
    · intro reporter workspaceId listed
      exact absurd listed (empty _)
    · intro first second workspaceId listed
      exact absurd listed (empty _)
    · intro tick startedAt workspaceId listed
      exact absurd listed (empty _)
    · intro tick workspaceId table row listed
      exact absurd listed (empty _)
  · intro thread
    rw [fresh.unstarted]
    constructor
    · intro _ event listed
      exact absurd listed (empty _)
    · intro workspaceId queued
      cases queued
    · intro candidate listed
      cases listed
    · intro _
      exact empty _

theorem queued_of_takes {before after : PurgeWorld} {turn : Turn Choice Event} {tick : Nat} {workspaceId : WorkspaceId}
    (taken : purgeStep settings before turn = some after) (takes : Takes before after tick workspaceId) :
    workspaceId ∈ (before.own tick).queue := by
  obtain ⟨fresh, table, row, extended, listed⟩ := takes
  have new : ∀ others, after.shared.history = others ++ before.shared.history →
      .destroyed tick workspaceId table row ∈ others := by
    intro others same
    obtain rfl := List.append_cancel_right (extended.symm.trans same)
    exact listed
  cases turn with
  | outside event =>
    obtain ⟨shared, happened, rfl⟩ := interleave_outside.mp taken
    obtain ⟨noted, ages, deletions, -⟩ := outside_ages happened
    obtain ⟨other, same⟩ := deletions _ (new noted ages.history)
    cases same
  | thread id choice =>
    obtain ⟨shared, own, acted, rfl⟩ := interleave_thread.mp taken
    cases act_turned acted with
    | started idle noted queue candidates running =>
      have impossible := new [.started id before.shared.now] (by rw [noted]; rfl)
      cases List.mem_singleton.mp impossible
    | selected ready noted queue candidates past =>
      have impossible := new [.selected id] (by rw [noted]; rfl)
      cases List.mem_singleton.mp impossible
    | reported other deletedAt counts chosen inserted queue candidates past =>
      cases found : reportedFor before.shared other with
      | some recorded =>
        have impossible := new [] (by rw [inserted, insertReport_present (by rw [found]; rfl)]; rfl)
        cases impossible
      | none =>
        obtain ⟨ages, -, -⟩ := @insertReport_absent settings id before.shared other deletedAt counts found
        have impossible := new [.reported id other] (by rw [inserted]; exact ages.history)
        cases List.mem_singleton.mp impossible
    | quiet noted ages events records queue candidates selects running =>
      rcases events _ (new noted ages.history) with ⟨walked, taken, gone, same, queued⟩ | ⟨walked, same⟩
      · cases same
        exact queued
      · cases same

/-- A tick acts on an announcement exactly when the workspace is still deleted since the moment its record
names. -/
theorem announced_iff {store : PurgeStore} {tick : Nat} {workspaceId : WorkspaceId}
    (announcements : Announcements settings store) (due : Due settings store tick workspaceId) :
    Announced settings store tick workspaceId ↔ StillReported store workspaceId := by
  obtain ⟨startedAt, reporter, recordedAt, started, reported, recorded, retained⟩ := due
  obtain ⟨chosen, listed, selected⟩ := announcements.recorded workspaceId recordedAt recorded
  obtain rfl := announcements.once chosen reporter workspaceId (mem_of_laterThan listed) (mem_of_earlierThan reported)
  obtain ⟨record, found, names⟩ := Option.map_eq_some_iff.mp recorded
  constructor
  · rintro ⟨deletedAt, began, other, deleted, -, -, -, earlier, -, -, untouched, -⟩
    obtain rfl := announcements.once other chosen workspaceId (mem_of_earlierThan earlier) (mem_of_laterThan listed)
    have same := (selected.current deletedAt deleted).mpr untouched
    exact ⟨record, found, by rw [names, ← same]; exact deleted⟩
  · rintro ⟨other, stored, deleted⟩
    rw [found] at stored
    cases stored
    rw [names] at deleted
    refine ⟨recordedAt, startedAt, chosen, deleted, started, retained, ?_, reported, selected.selected, listed,
      (selected.current recordedAt deleted).mp rfl, ?_⟩
    · -- a tick cannot have reported before it started
      rintro rfl
      exact announcements.own chosen startedAt workspaceId started reported
    · intro table row destroyed
      obtain ⟨began, first, -, start, earlier, -⟩ := announcements.destroyed chosen workspaceId table row destroyed
      obtain rfl := announcements.once first chosen workspaceId (mem_of_earlierThan earlier) (mem_of_laterThan listed)
      exact announcements.own first began workspaceId start earlier

theorem destroys_only_announced_iff (settings : PurgeSettings) (initial : PurgeWorld) (turns : List (Turn Choice Event))
    (fresh : Initial initial) :
    Along (purgeStep settings) (fun before _ after => ∀ tick workspaceId, Takes before after tick workspaceId →
        Announced settings before.shared tick workspaceId) initial turns ↔
      Along (purgeStep settings) (fun before _ after => ∀ tick workspaceId, Takes before after tick workspaceId →
        StillReported before.shared workspaceId) initial turns := by
  apply along_congr announced_step _ (announced_initial fresh) turns
  intro before turn after sound taken
  have agree : ∀ tick workspaceId, Takes before after tick workspaceId →
      (Announced settings before.shared tick workspaceId ↔ StillReported before.shared workspaceId) := by
    intro tick workspaceId takes
    exact announced_iff sound.shared ((sound.own tick).queue workspaceId (queued_of_takes taken takes))
  constructor
  · intro announced tick workspaceId takes
    exact (agree tick workspaceId takes).mp (announced tick workspaceId takes)
  · intro reported tick workspaceId takes
    exact (agree tick workspaceId takes).mpr (reported tick workspaceId takes)

theorem destroys_only_announced_iff_purged :
    Along (purgeStep weekSettings) (fun before _ after => ∀ tick workspaceId, Takes before after tick workspaceId →
        Announced weekSettings before.shared tick workspaceId) closedWorld (reporting ++ working 1 .tick 91) ↔
      Along (purgeStep weekSettings) (fun before _ after => ∀ tick workspaceId, Takes before after tick workspaceId →
        StillReported before.shared workspaceId) closedWorld (reporting ++ working 1 .tick 91) :=
  destroys_only_announced_iff weekSettings closedWorld _ closedWorld_initial

def deletedAgain : List (Turn Choice Event) :=
  reporting ++ working 1 (.restore 1) 3 ++ .outside (.deleteWorkspace 1) :: working 2 .tick 5

/-- The record of the first deletion survives the restore, so the second is acted on at once. -/
theorem second_deletion_unannounced :
    ¬ ∀ (settings : PurgeSettings) (initial : PurgeWorld) (turns : List (Turn Choice Event)), Initial initial →
      Along (purgeStep settings) (fun before _ after => ∀ tick workspaceId, Takes before after tick workspaceId →
        Announced settings before.shared tick workspaceId) initial turns := by
  intro always
  have along := always weekSettings closedWorld (deletedAgain ++ [.thread 2 (.proceed [1])]) closedWorld_initial
  have reached : (run (purgeStep weekSettings) closedWorld deletedAgain).any (fun before =>
      (purgeStep weekSettings before (.thread 2 (.proceed [1]))).any fun after =>
        decide (after.shared.history =
          .destroyed 2 1 (.purged .sendEvents) { id := 1, workspaceId := 1 } :: before.shared.history) &&
        decide (readOrganizationDeletedAt before.shared 1 = some (7 * millisecondsPerDay)) &&
        before.shared.history.all fun event =>
          event.thread? != some 2 || event == .started 2 (7 * millisecondsPerDay)) = true := by
    decide +kernel
  obtain ⟨before, ran, seen⟩ := Option.any_eq_true _ _ |>.mp reached
  obtain ⟨after, taken, shown⟩ := Option.any_eq_true _ _ |>.mp seen
  simp only [Bool.and_eq_true, decide_eq_true_eq, List.all_eq_true] at shown
  obtain ⟨⟨extended, deleted⟩, onlyStart⟩ := shown
  have takes : Takes before after 2 1 :=
    ⟨[.destroyed 2 1 (.purged .sendEvents) { id := 1, workspaceId := 1 }], _, _, extended, List.mem_cons_self⟩
  obtain ⟨deletedAt, startedAt, reporter, read, started, retained, -⟩ := along_last along ran taken 2 1 takes
  -- the tick started at the moment of the second deletion
  obtain rfl := Option.some.inj (deleted.symm.trans read)
  have start := onlyStart _ started
  simp only [PurgeEvent.thread?, bne_self_eq_false, Bool.false_or, beq_iff_eq, PurgeEvent.started.injEq,
    true_and] at start
  rw [start] at retained
  exact absurd retained (by decide)

end Runs

end LocalCrm.Purge
