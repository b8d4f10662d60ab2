import LocalCrm.Library.Transition
import LocalCrm.Webhooks.Books
import LocalCrm.Webhooks.Replay

/-! When the incremental daily rollup agrees with a recount. -/

set_option autoImplicit false

namespace LocalCrm.Webhooks

open Library Analytics Delivery

def streakReached (db : Database) (contactId : ContactId) : Bool :=
  softBounceStreak (setSoftBounceStreak db contactId (· + 1)) contactId ≥ softBounceSuppressThreshold

def writtenColumn (reached : Bool) : NormalizedEventType → Option FactColumn
  | .delivered => some .deliveredAt
  | .open => some .firstOpenedAt
  | .click => some .firstClickedAt
  | .bounceHard => some .bouncedAt
  | .bounceSoft => if reached then some .bouncedAt else none
  | .dropped => some .droppedAt
  | .spamReport => some .spamReportedAt
  | .unsubscribe | .groupUnsubscribe => some .unsubscribedAt

def dropUnsubscribes (event : AppliedEvent) (facts : SendFacts) : Bool :=
  event.normalizedType == .dropped && facts.droppedAt.isNone &&
    (resolveSuppression .dropped event.reason).any (·.status == .unsubscribed)

def postedBy (reached : Bool) (event : AppliedEvent) (facts : SendFacts) (day : Day) (metric : EngagementMetric) : Nat :=
  ((writtenColumn reached event.normalizedType).map fun column =>
    postedFor column event.occurredAt facts day metric).getD 0

def owedBy (reached : Bool) (event : AppliedEvent) (facts : SendFacts) (day : Day) (metric : EngagementMetric) : Nat :=
  ((writtenColumn reached event.normalizedType).map fun column =>
    owedFor column event.occurredAt facts day metric).getD 0 +
    if dropUnsubscribes event facts then owedFor .unsubscribedAt event.occurredAt facts day metric else 0

/-- A further terminal is set on a day the send counts on already, and a drop that unsubscribes finds the
unsubscription recorded. -/
structure Harmless (reached : Bool) (event : AppliedEvent) (facts : SendFacts) : Prop where
  terminal : ∀ column, writtenColumn reached event.normalizedType = some column → column.metric = .bounced →
    column.read facts = none → noTerminal facts ∨ countsOn (utcDay event.occurredAt) .bounced facts = true
  unsubscribed : dropUnsubscribes event facts = true → facts.unsubscribedAt.isSome = true

section Facts

variable {reached : Bool} {event : AppliedEvent} {facts : SendFacts} {column : FactColumn} {occurredAt : Timestamp}

theorem countsOn_noTerminal (none : noTerminal facts) (day : Day) : countsOn day .bounced facts = false := by
  obtain ⟨bounced, dropped, spam⟩ := none
  simp [countsOn, onDay, bounced, dropped, spam]

theorem countsOn_unset (unset : column.read facts = none) (engaged : column.metric ≠ .bounced) (day : Day) :
    countsOn day column.metric facts = false := by
  cases column <;> simp_all [FactColumn.metric, FactColumn.read, countsOn, onDay]

theorem postedFor_le_owedFor (day : Day) (metric : EngagementMetric) :
    postedFor column occurredAt facts day metric ≤ owedFor column occurredAt facts day metric := by
  unfold postedFor owedFor
  split
  · next posted =>
    have uncounted : countsOn day column.metric facts = false := by
      by_cases terminal : column.metric = .bounced
      · rw [terminal]
        exact countsOn_noTerminal (posted.2 terminal) day
      · exact countsOn_unset posted.1 terminal day
    rw [if_pos ⟨posted.1, uncounted⟩]
  · exact Nat.zero_le _

theorem postedBy_le_owedBy (day : Day) (metric : EngagementMetric) :
    postedBy reached event facts day metric ≤ owedBy reached event facts day metric := by
  unfold postedBy owedBy
  apply Nat.le_add_right_of_le
  cases writtenColumn reached event.normalizedType with
  | none => exact Nat.le_refl _
  | some column => exact postedFor_le_owedFor day metric

theorem postedFor_eq_owedFor_iff :
    (∀ day metric, postedFor column occurredAt facts day metric = owedFor column occurredAt facts day metric) ↔
      (column.metric = .bounced → column.read facts = none →
        noTerminal facts ∨ countsOn (utcDay occurredAt) .bounced facts = true) := by
  constructor
  · intro same terminal unset
    by_contra neither
    obtain ⟨further, apart⟩ := not_or.mp neither
    have equal := same (utcDay occurredAt) .bounced
    have uncounted := Bool.eq_false_of_not_eq_true apart
    rw [postedFor, if_neg (fun both => further (both.2 terminal)), owedFor, terminal, if_pos ⟨unset, uncounted⟩,
      oneOn, if_pos ⟨rfl, rfl⟩] at equal
    cases equal
  · intro covered day metric
    unfold postedFor owedFor
    by_cases unset : column.read facts = none
    · by_cases terminal : column.metric = .bounced
      · rcases covered terminal unset with none | counted
        · rw [if_pos ⟨unset, fun _ => none⟩, terminal, if_pos ⟨unset, countsOn_noTerminal none day⟩]
        · have further : ¬ noTerminal facts := by
            intro none
            rw [countsOn_noTerminal none] at counted
            cases counted
          rw [if_neg (fun both => further (both.2 terminal)), terminal]
          split
          · next other =>
            rw [oneOn, if_neg]
            rintro ⟨rfl, _⟩
            rw [counted] at other
            cases other.2
          · rfl
      · rw [if_pos ⟨unset, fun bounced => absurd bounced terminal⟩, if_pos ⟨unset, countsOn_unset unset terminal day⟩]
    · rw [if_neg (fun both => unset both.1), if_neg (fun both => unset both.1)]

theorem owedFor_eq_zero_iff :
    (∀ day metric, owedFor .unsubscribedAt occurredAt facts day metric = 0) ↔ facts.unsubscribedAt.isSome = true := by
  constructor
  · intro zero
    by_contra unset
    have empty : facts.unsubscribedAt = none := Option.not_isSome_iff_eq_none.mp unset
    have one := zero (utcDay occurredAt) .unsubscribed
    rw [owedFor, if_pos ⟨empty, by simp [FactColumn.metric, countsOn, onDay, empty]⟩, oneOn, if_pos ⟨rfl, rfl⟩] at one
    cases one
  · intro set day metric
    apply if_neg
    rintro ⟨unset, _⟩
    have empty : facts.unsubscribedAt = none := unset
    rw [empty] at set
    cases set

theorem harmless_iff :
    (∀ day metric, postedBy reached event facts day metric = owedBy reached event facts day metric) ↔
      Harmless reached event facts := by
  have column : (∀ column, writtenColumn reached event.normalizedType = some column → ∀ day metric,
      postedFor column event.occurredAt facts day metric = owedFor column event.occurredAt facts day metric) ↔
      ∀ column, writtenColumn reached event.normalizedType = some column → column.metric = .bounced →
        column.read facts = none → noTerminal facts ∨ countsOn (utcDay event.occurredAt) .bounced facts = true :=
    forall₂_congr fun column _ => postedFor_eq_owedFor_iff
  have split : (∀ day metric, postedBy reached event facts day metric = owedBy reached event facts day metric) ↔
      (∀ column, writtenColumn reached event.normalizedType = some column → ∀ day metric,
        postedFor column event.occurredAt facts day metric = owedFor column event.occurredAt facts day metric) ∧
      (dropUnsubscribes event facts = true →
        ∀ day metric, owedFor .unsubscribedAt event.occurredAt facts day metric = 0) := by
    have bounded : ∀ column day metric, postedFor column event.occurredAt facts day metric ≤
        owedFor column event.occurredAt facts day metric := fun _ => postedFor_le_owedFor
    unfold postedBy owedBy
    constructor
    · intro same
      constructor
      · intro column written day metric
        have equal := same day metric
        have least := bounded column day metric
        simp only [written, Option.map_some, Option.getD_some] at equal
        omega
      · intro drops day metric
        have equal := same day metric
        rw [if_pos drops] at equal
        cases written : writtenColumn reached event.normalizedType with
        | none => simpa [written] using equal.symm
        | some column =>
          have least := bounded column day metric
          simp only [written, Option.map_some, Option.getD_some] at equal
          omega
    · rintro ⟨columns, drops⟩ day metric
      have rest : (if dropUnsubscribes event facts then
          owedFor .unsubscribedAt event.occurredAt facts day metric else 0) = 0 := by
        split
        · next drop => exact drops drop day metric
        · rfl
      rw [rest, Nat.add_zero]
      cases written : writtenColumn reached event.normalizedType with
      | none => rfl
      | some column => simpa [written] using columns column written day metric
  rw [split, column, owedFor_eq_zero_iff]
  constructor
  · rintro ⟨terminal, unsubscribed⟩
    exact ⟨terminal, unsubscribed⟩
  · rintro ⟨terminal, unsubscribed⟩
    exact ⟨terminal, unsubscribed⟩

end Facts

section Events

variable {platform : Platform} {now : Timestamp} {workspaceId : WorkspaceId} {db : Database} {send : ResolvedSend}
  {row : Send} {event : AppliedEvent}

theorem books_of_column {next : Database} {reached : Bool} {facts : SendFacts} {column : FactColumn}
    (written : writtenColumn reached event.normalizedType = some column) (kept : dropUnsubscribes event facts = false)
    (books : Books workspaceId db next (postedFor column event.occurredAt facts) (owedFor column event.occurredAt facts)) :
    Books workspaceId db next (postedBy reached event facts) (owedBy reached event facts) := by
  apply books.of_eq
  · intro day metric
    rw [postedBy, written]
    rfl
  · intro day metric
    rw [owedBy, written, kept, if_neg Bool.false_ne_true]
    rfl

theorem kept_of_other {facts : SendFacts} (other : event.normalizedType ≠ .dropped) :
    dropUnsubscribes event facts = false := by
  simp [dropUnsubscribes, other]

theorem books_countRepeat {set : SendFacts → SendFacts}
    (uncounted : ∀ facts day metric, countsOn day metric (set facts) = countsOn day metric facts) (sendId : SendId) :
    Books workspaceId db (countRepeat platform.sendIds db sendId set) nothing nothing := by
  refine ⟨fun _ _ => rfl, ?_⟩
  intro day metric
  unfold countRepeat recountMetric updateFacts Table.count Table.update
  rw [List.countP_map]
  apply List.countP_congr
  intro row _
  simp only [Function.comp_apply]
  split
  · simp [uncounted]
  · rfl

theorem justSet_recordTerminal {column : FactColumn} {reasonWrite : Option ReasonWrite} {occurredAt : Timestamp}
    (located : Locates platform.sendIds db.sends send.id row) :
    (recordTerminal platform.sendIds now db workspaceId send column occurredAt reasonWrite).1 =
      (column.read row.facts).isNone := by
  unfold recordTerminal
  simp only
  split <;> exact @justSet_of_located _ _ _ _ located column occurredAt reasonWrite

theorem sends_recordTerminal {column : FactColumn} {reasonWrite : Option ReasonWrite} {occurredAt : Timestamp} :
    (recordTerminal platform.sendIds now db workspaceId send column occurredAt reasonWrite).2.sends =
      (setFactColumnOnce platform.sendIds db.sends send.id column occurredAt reasonWrite).2 := by
  unfold recordTerminal
  simp only
  split
  · cases send.campaignId <;> rfl
  · rfl

theorem books_applyEventSideEffects (located : Locates platform.sendIds db.sends send.id row)
    (own : row.intent.workspaceId = workspaceId) (contact : send.contactId = row.contactId) :
    Books workspaceId db (applyEventSideEffects platform now db workspaceId send event)
      (postedBy (streakReached db row.contactId) event row.facts)
      (owedBy (streakReached db row.contactId) event row.facts) := by
  unfold applyEventSideEffects
  cases type : event.normalizedType with
  | delivered =>
    apply books_of_column (by rw [type]; rfl) (kept_of_other (by rw [type]; decide))
    have recorded : Books workspaceId db (recordEngagement platform.sendIds now db workspaceId send .deliveredAt
        event.occurredAt .delivered).2 _ _ := books_recordEngagement located own rfl (by decide)
    simp only
    split
    · exact recorded.idle rfl rfl
    · exact recorded
  | «open» =>
    apply books_of_column (by rw [type]; rfl) (kept_of_other (by rw [type]; decide))
    have recorded : Books workspaceId db (recordEngagement platform.sendIds now db workspaceId send .firstOpenedAt
        event.occurredAt .opened).2 _ _ := books_recordEngagement located own rfl (by decide)
    exact recorded.comp (books_countRepeat (fun _ _ metric => by cases metric <;> rfl) send.id)
  | click =>
    apply books_of_column (by rw [type]; rfl) (kept_of_other (by rw [type]; decide))
    have recorded : Books workspaceId db (recordEngagement platform.sendIds now db workspaceId send .firstClickedAt
        event.occurredAt .clicked).2 _ _ := books_recordEngagement located own rfl (by decide)
    exact recorded.comp (books_countRepeat (fun _ _ metric => by cases metric <;> rfl) send.id)
  | bounceHard =>
    apply books_of_column (by rw [type]; rfl) (kept_of_other (by rw [type]; decide))
    have recorded : Books workspaceId db (recordTerminal platform.sendIds now db workspaceId send .bouncedAt
        event.occurredAt (some (.bounceReason (some "hard_bounce")))).2 _ _ := books_recordTerminal located own rfl _
    simp only
    split
    · exact recorded.comp (books_applySuppression _)
    · exact recorded
  | spamReport =>
    apply books_of_column (by rw [type]; rfl) (kept_of_other (by rw [type]; decide))
    have recorded : Books workspaceId db (recordTerminal platform.sendIds now db workspaceId send .spamReportedAt
        event.occurredAt none).2 _ _ := books_recordTerminal located own rfl _
    simp only
    split
    · exact recorded.comp (books_applySuppression _)
    · exact recorded
  | bounceSoft =>
    -- the streak is raised first, and decides whether a column is written at all
    have raised : Books workspaceId db (setSoftBounceStreak db row.contactId (· + 1)) nothing nothing :=
      books_of_kept rfl rfl
    simp only [contact]
    split
    · next reached =>
      have decided : streakReached db row.contactId = true := decide_eq_true reached
      rw [decided]
      apply books_of_column (by rw [type]; rfl) (kept_of_other (by rw [type]; decide))
      have still : Locates platform.sendIds (setSoftBounceStreak db row.contactId (· + 1)).sends send.id row := located
      have recorded : Books workspaceId (setSoftBounceStreak db row.contactId (· + 1))
          (recordTerminal platform.sendIds now (setSoftBounceStreak db row.contactId (· + 1)) workspaceId send
            .bouncedAt event.occurredAt (some (.bounceReason (some "soft_bounce_streak")))).2 _ _ :=
        books_recordTerminal still own rfl _
      split
      · exact (recorded.comp (books_applySuppression _)).after rfl rfl
      · exact recorded.after rfl rfl
    · next below =>
      have decided : streakReached db row.contactId = false := decide_eq_false below
      have unwritten : writtenColumn (streakReached db row.contactId) event.normalizedType = none := by
        rw [decided, type]
        rfl
      apply raised.of_eq
      · intro day metric
        rw [postedBy, unwritten]
        rfl
      · intro day metric
        rw [owedBy, unwritten, kept_of_other (by rw [type]; decide)]
        rfl
  | dropped =>
    have recorded : Books workspaceId db (recordTerminal platform.sendIds now db workspaceId send .droppedAt
        event.occurredAt (some (.dropReason event.reason))).2 (postedFor .droppedAt event.occurredAt row.facts)
        (owedFor .droppedAt event.occurredAt row.facts) := books_recordTerminal located own rfl _
    have column : writtenColumn (streakReached db row.contactId) event.normalizedType = some .droppedAt := by
      rw [type]
      rfl
    simp only [justSet_recordTerminal located]
    -- a drop has effects of its own only where it is the first
    cases unset : (FactColumn.droppedAt.read row.facts).isNone with
    | false =>
      have empty : row.facts.droppedAt.isNone = false := unset
      exact books_of_column column (by simp [dropUnsubscribes, empty]) recorded
    | true =>
      have empty : row.facts.droppedAt.isNone = true := unset
      rw [if_pos rfl]
      cases outcome : resolveSuppression .dropped event.reason with
      | none => exact books_of_column column (by simp [dropUnsubscribes, outcome]) recorded
      | some verdict =>
        obtain ⟨status, reason⟩ := verdict
        cases status with
        | subscribed => exact books_of_column column (by simp [dropUnsubscribes, outcome]) recorded
        | suppressed =>
          exact books_of_column column (by simp [dropUnsubscribes, outcome]) (recorded.comp (books_applySuppression _))
        | unsubscribed =>
          -- the one case with a second column, which nothing posts
          have drops : dropUnsubscribes event row.facts = true := by
            simp [dropUnsubscribes, type, empty, outcome]
          have dropped : Locates platform.sendIds
              (recordTerminal platform.sendIds now db workspaceId send .droppedAt event.occurredAt
                (some (.dropReason event.reason))).2.sends send.id
              { row with facts := firstWrite .droppedAt event.occurredAt (some (.dropReason event.reason)) row.facts } := by
            rw [sends_recordTerminal]
            exact located_updateFacts located unset
          have unsubscribed : Books workspaceId
              (recordTerminal platform.sendIds now db workspaceId send .droppedAt event.occurredAt
                (some (.dropReason event.reason))).2
              (applyUnsubscribeWithSendFact platform.sendIds
                (recordTerminal platform.sendIds now db workspaceId send .droppedAt event.occurredAt
                  (some (.dropReason event.reason))).2 workspaceId send.contactId send.id event.occurredAt
                "webhook_unsubscribe").2.2
              nothing (owedFor .unsubscribedAt event.occurredAt row.facts) :=
            (books_applyUnsubscribe dropped own send.contactId event.occurredAt "webhook_unsubscribe").2
          have both := (recorded.comp unsubscribed).of_eq
            (fun day metric => show _ = postedBy (streakReached db row.contactId) event row.facts day metric by
              rw [postedBy, column]
              rfl)
            (fun day metric => show _ = owedBy (streakReached db row.contactId) event row.facts day metric by
              rw [owedBy, column, if_pos drops]
              rfl)
          simp only
          split
          · exact both.comp (books_countForCampaign _ _)
          · exact both
  | unsubscribe | groupUnsubscribe =>
    apply books_of_column (by rw [type]; rfl) (kept_of_other (by rw [type]; decide))
    obtain ⟨flag, books⟩ := books_applyUnsubscribe located own send.contactId event.occurredAt "webhook_unsubscribe"
    simp only [flag]
    -- only the first unsubscribe is posted
    cases unset : row.facts.unsubscribedAt.isNone with
    | false => exact books.of_eq (@postedFor_set _ .unsubscribedAt _ unset) fun _ _ => rfl
    | true =>
      exact (books.comp (books_counted _ .unsubscribed)).of_eq
        (@postedFor_first _ .unsubscribedAt _ unset fun impossible => by cases impossible) fun _ _ => rfl

end Events

def Balanced (platform : Platform) (workspaceId : WorkspaceId) (db : Database) (row : ExtractedEvent) : Prop :=
  row.isTest = false → ∀ type, row.normalizedType = some type → ∀ send ∈ db.sends.rows,
    send.intent.workspaceId = workspaceId → denotes platform row send = true →
    Harmless (streakReached db send.contactId)
      { normalizedType := type, reason := row.reason, occurredAt := row.occurredAt } send.facts

/-- Each day's rollup holds what its recount would write. -/
def RollupAgrees (workspaceId : WorkspaceId) (db : Database) : Prop :=
  ∀ day metric, rolledCount db.dailyRollups workspaceId day metric =
    rolledCount (reconcileWorkspaceDay db.sends db.dailyRollups workspaceId day) workspaceId day metric

def RollupBehind (workspaceId : WorkspaceId) (db : Database) : Prop :=
  ∀ day metric, rolledCount db.dailyRollups workspaceId day metric ≤ recountMetric db.sends workspaceId day metric

def applyStep (platform : Platform) (workspaceId : WorkspaceId) (db : Database)
    (applied : Timestamp × ExtractedEvent) : Option Database :=
  some (applyNewRow platform applied.1 workspaceId db applied.2)

/-- No mail has been reacted to, and no rollup row exists. -/
def unengaged (db : Database) : Database :=
  { db with
    sends := db.sends.update (fun _ => true) fun row => { row with facts := {} }
    dailyRollups := .empty }

section Runs

variable {platform : Platform} {now : Timestamp} {workspaceId : WorkspaceId} {db next : Database} {row : ExtractedEvent}

theorem rolledCount_reconcileWorkspaceDay (sends : Sends) (rollups : Rollups) (day : Day) (metric : EngagementMetric) :
    rolledCount (reconcileWorkspaceDay sends rollups workspaceId day) workspaceId day metric =
      recountMetric sends workspaceId day metric := by
  have found : ∃ rollup, (reconcileWorkspaceDay sends rollups workspaceId day).find? (workspaceId, day) =
      some (recountedRollup sends workspaceId day rollup) := by
    refine ⟨(rollups.find? (workspaceId, day)).getD { workspaceId, day }, ?_⟩
    apply Table.find?_upsert.trans
    refine (if_pos rfl).trans ?_
    cases rollups.find? (workspaceId, day) <;> rfl
  obtain ⟨rollup, found⟩ := found
  rw [rolledCount, found, Option.map_some, Option.getD_some, recountedRollup, read_recountEngagement]

theorem rollupAgrees_iff : RollupAgrees workspaceId db ↔ ∀ day metric,
    rolledCount db.dailyRollups workspaceId day metric = recountMetric db.sends workspaceId day metric := by
  simp only [RollupAgrees, rolledCount_reconcileWorkspaceDay]

/-- A rollup agrees after a step exactly when it agreed before and the step posted all it owed. -/
theorem rollupAgrees_books {posted owed : Day → EngagementMetric → Nat} (books : Books workspaceId db next posted owed)
    (least : ∀ day metric, posted day metric ≤ owed day metric) (behind : RollupBehind workspaceId db) :
    RollupBehind workspaceId next ∧
      (RollupAgrees workspaceId next ↔
        RollupAgrees workspaceId db ∧ ∀ day metric, posted day metric = owed day metric) := by
  constructor
  · intro day metric
    rw [books.rolled, books.recounted]
    exact Nat.add_le_add (behind day metric) (least day metric)
  · simp only [rollupAgrees_iff, ← forall_and]
    apply forall₂_congr
    intro day metric
    have kept := behind day metric
    have few := least day metric
    rw [books.rolled, books.recounted]
    omega

theorem books_applyNewRow (platform : Platform) (now : Timestamp) (workspaceId : WorkspaceId) (db : Database)
    (row : ExtractedEvent) :
    ∃ posted owed, Books workspaceId db (applyNewRow platform now workspaceId db row) posted owed ∧
      (∀ day metric, posted day metric ≤ owed day metric) ∧
      ((∀ day metric, posted day metric = owed day metric) ↔ Balanced platform workspaceId db row) := by
  have idle : applyNewRow platform now workspaceId db row = db → Balanced platform workspaceId db row →
      ∃ posted owed, Books workspaceId db (applyNewRow platform now workspaceId db row) posted owed ∧
        (∀ day metric, posted day metric ≤ owed day metric) ∧
        ((∀ day metric, posted day metric = owed day metric) ↔ Balanced platform workspaceId db row) := by
    intro same balanced
    rw [same]
    exact ⟨nothing, nothing, books_of_kept rfl rfl, fun _ _ => Nat.le_refl _, fun _ => balanced, fun _ _ _ => rfl⟩
  cases test : row.isTest with
  | true =>
    apply idle
    · rw [applyNewRow, test, if_pos rfl]
    · intro real
      rw [test] at real
      cases real
  | false =>
    cases normalized : row.normalizedType with
    | none =>
      apply idle
      · simp [applyNewRow, test, normalized]
      · intro _ type typed
        rw [normalized] at typed
        cases typed
    | some type =>
      cases value : row.sendId.bind platform.uuidValue with
      | none =>
        apply idle
        · simp only [applyNewRow, test, normalized, value, Bool.false_eq_true, if_false]
        · intro _ _ _ send _ _ denoted
          rw [denotes, value] at denoted
          cases denoted
      | some sendId =>
        cases resolved : resolveSend platform.sendIds db.sends workspaceId sendId with
        | none =>
          apply idle
          · simp only [applyNewRow, test, normalized, value, resolved, Bool.false_eq_true, if_false]
          · intro _ _ _ send stored own denoted
            rw [denotes, value] at denoted
            have located : Locates platform.sendIds db.sends sendId send :=
              ⟨Table.find?_of_mem stored, (Option.some.inj (eq_of_beq denoted)).symm⟩
            rw [resolveSend_located located own] at resolved
            cases resolved
        | some send =>
          obtain ⟨found, located, own, same⟩ := locates_of_resolveSend resolved
          have whole := resolved
          rw [resolveSend_located located own] at whole
          have contact : send.contactId = found.contactId := by rw [← Option.some.inj whole]
          have applied : applyNewRow platform now workspaceId db row =
              applyEventSideEffects platform now db workspaceId send
                { normalizedType := type, reason := row.reason, occurredAt := row.occurredAt } := by
            simp only [applyNewRow, test, normalized, value, resolved, Bool.false_eq_true, if_false]
          rw [applied]
          refine ⟨_, _, books_applyEventSideEffects (same.symm ▸ located) own contact, postedBy_le_owedBy, ?_⟩
          rw [harmless_iff]
          constructor
          · intro harmless _ other typed sibling stored _ denoted
            rw [normalized] at typed
            obtain rfl := Option.some.inj typed
            rw [denotes, value] at denoted
            have equal := (Option.some.inj (eq_of_beq denoted)).symm.trans located.2.symm
            obtain rfl := Table.eq_of_find? located.1 stored (platform.sendIds.derive_eq.mp equal)
            exact harmless
          · intro balanced
            refine balanced test type normalized found (Table.mem_of_find? located.1) own ?_
            rw [denotes, value, located.2]
            exact beq_self_eq_true _

theorem unengaged_agrees (db : Database) :
    RollupBehind workspaceId (unengaged db) ∧ RollupAgrees workspaceId (unengaged db) := by
  have zero : ∀ day metric, recountMetric (unengaged db).sends workspaceId day metric = 0 := by
    intro day metric
    rw [recountMetric, Table.count, List.countP_eq_zero]
    intro row stored
    obtain ⟨original, _, rfl⟩ := List.mem_map.mp stored
    cases metric <;> simp [countsOn, onDay]
  have rolled : ∀ day metric, rolledCount (unengaged db).dailyRollups workspaceId day metric = 0 := fun _ _ => rfl
  constructor
  · intro day metric
    rw [rolled, zero]
  · rw [rollupAgrees_iff]
    intro day metric
    rw [rolled, zero]

/-- The incremental rollup agrees with the recount exactly when every applied row is harmless in the
state it is applied in. -/
theorem rollup_agrees_iff_balanced (platform : Platform) (workspaceId : WorkspaceId) (db : Database)
    (batches : List TimedBatch) :
    RollupAgrees workspaceId (processWebhookEventBatches platform workspaceId (unengaged db) batches) ↔
      Along (applyStep platform workspaceId) (fun db applied _ => Balanced platform workspaceId db applied.2)
        (withoutLogs (unengaged db)) (appliedRows platform workspaceId (unengaged db) batches) := by
  have step : ∀ db (applied : Timestamp × ExtractedEvent) next, RollupBehind workspaceId db →
      applyStep platform workspaceId db applied = some next → RollupBehind workspaceId next ∧
        (RollupAgrees workspaceId next ↔ RollupAgrees workspaceId db ∧ Balanced platform workspaceId db applied.2) := by
    intro db applied next behind taken
    cases taken
    obtain ⟨posted, owed, books, least, balanced⟩ := books_applyNewRow platform applied.1 workspaceId db applied.2
    rw [← balanced]
    exact rollupAgrees_books books least behind
  have ran : run (applyStep platform workspaceId) (withoutLogs (unengaged db))
      (appliedRows platform workspaceId (unengaged db) batches) =
      some (withoutLogs (processWebhookEventBatches platform workspaceId (unengaged db) batches)) := by
    rw [withoutLogs_batches]
    exact run_total _ _
  have behind : RollupBehind workspaceId (withoutLogs (unengaged db)) := (unengaged_agrees db).1
  have agrees : RollupAgrees workspaceId (withoutLogs (unengaged db)) := (unengaged_agrees db).2
  have decided := final_iff_along (fun db applied next holds taken => (step db applied next holds taken).1)
    (fun db applied next holds taken => (step db applied next holds taken).2) behind ran
  constructor
  · intro final
    exact (decided.mp final).2
  · intro along
    exact decided.mpr ⟨agrees, along⟩

end Runs

def terminalEvent (sgEventId event : String) (seconds : Rat) : JsonValue :=
  .object [("sg_event_id", .string sgEventId), ("event", .string event), ("timestamp", .number seconds),
    ("send_id", .string "00000000-0000-0000-0000-00000000000a")]

/-- A drop on one day and a complaint on the next: only a recount sees the second day. -/
theorem rollup_misses_second_terminal :
    ¬ ∀ (platform : Platform) (workspaceId : WorkspaceId) (db : Database) (batches : List TimedBatch),
      RollupAgrees workspaceId (processWebhookEventBatches platform workspaceId (unengaged db) batches) := by
  intro always
  have agrees := always uuidPlatform 1 bouncedDatabase
    [{ now := 86400000, events := [terminalEvent "e1" "dropped" 0, terminalEvent "e2" "spamreport" 86400] }] 1 .bounced
  revert agrees
  decide +kernel

end LocalCrm.Webhooks
