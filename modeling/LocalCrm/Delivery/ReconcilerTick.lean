import LocalCrm.Delivery.Reconciler
import LocalCrm.Library.Page
import Mathlib.Data.List.Sort

/-! One tick of the reconciler: a page of candidates, oldest first, each resolved in its own transaction.

The candidates are selected by status and age alone.
-/

set_option autoImplicit false

namespace LocalCrm.Delivery

open Library

def reconcilerBatchLimit : Nat := 500

section Tick

variable (ids : SendIdScheme) (now : Timestamp) (db : Database) (batchLimit : Nat)

/-- The `WHERE` of the discovery. -/
def isReconcilable (row : Send) : Bool :=
  row.status == .reconciling ||
    (row.status == .unknown && decide (now - reconcileRescanHorizonMs ≤ row.queuedAt)) ||
    (row.status == .dispatching && decide (row.queuedAt < now - staleDispatchingAgeMs))

def reconcilableSends : List Send :=
  (db.sends.rows.filter (isReconcilable now)).insertionSort fun left right => left.queuedAt ≤ right.queuedAt

def findReconcilableCandidates : List Send := (reconcilableSends now db).take batchLimit

def runReconcilerTick : Database :=
  (findReconcilableCandidates now db batchLimit).foldl
    (fun db row => resolveOneSend ids now db (ids.derive row.intent)) db

def verdictOf (row : Send) : ReconcileVerdict :=
  classifyReconcilableSend now row (hasEvidence db.sendEvents (ids.derive row.intent))

def isActionable (row : Send) : Bool := verdictOf ids now db row != .hold

def actionable : Nat := db.sends.count (isActionable ids now db)

def transitions : Nat :=
  db.sends.count fun row => statusOf (runReconcilerTick ids now db batchLimit).sends row.intent != some row.status

end Tick

section Resolution

variable {ids : SendIdScheme} {now : Timestamp} {db : Database}

def resolvedAs (now : Timestamp) (row : Send) : ReconcileVerdict → Send
  | .resolveSent => resolvedAsSent row
  | .resolveUnknown => resolvedAsUnknown row
  | .sweepToReconciling => sweptAt now row
  | .hold => row

theorem intent_resolvedAs (row : Send) (verdict : ReconcileVerdict) :
    (resolvedAs now row verdict).intent = row.intent := by
  cases verdict <;> rfl

theorem status_resolvedAs {row : Send} {evidence : Bool} :
    (resolvedAs now row (classifyReconcilableSend now row evidence)).status = row.status ↔
      classifyReconcilableSend now row evidence = .hold := by
  cases verdict : classifyReconcilableSend now row evidence with
  | resolveSent =>
    rcases classifyReconcilableSend_sent verdict with waiting | waiting <;>
      simp [resolvedAs, resolvedAsSent, waiting]
  | resolveUnknown => simp [resolvedAs, resolvedAsUnknown, classifyReconcilableSend_unknown verdict]
  | sweepToReconciling => simp [resolvedAs, sweptAt, classifyReconcilableSend_swept verdict]
  | hold => simp [resolvedAs]

theorem verdict_settled {row : Send} {evidence : Bool}
    (settled : row.status ∉ [SendStatus.reconciling, .unknown, .dispatching]) :
    classifyReconcilableSend now row evidence = .hold := by
  cases verdict : classifyReconcilableSend now row evidence with
  | resolveSent =>
    rcases classifyReconcilableSend_sent verdict with waiting | waiting <;> simp [waiting] at settled
  | resolveUnknown => simp [classifyReconcilableSend_unknown verdict] at settled
  | sweepToReconciling => simp [classifyReconcilableSend_swept verdict] at settled
  | hold => rfl

theorem sendEvents_resolveOneSend (sendId : SendId) :
    (resolveOneSend ids now db sendId).sendEvents = db.sendEvents := by
  have commits := resolveOneSend_commits ids now db sendId
  generalize resolveOneSend ids now db sendId = next at commits
  cases commits <;> rfl

theorem find?_resolveOneSend {row : Send} (stored : row ∈ db.sends.rows) (other : SendIntent) :
    (resolveOneSend ids now db (ids.derive row.intent)).sends.find? other =
      if other = row.intent then some (resolvedAs now row (verdictOf ids now db row))
      else db.sends.find? other := by
  have found : db.sends.find? row.intent = some row := Table.find?_of_mem stored
  rw [resolveOneSend]
  cases located : db.sends.rows.find? fun existing => ids.derive existing.intent == ids.derive row.intent &&
      existing.status ∈ [.reconciling, .unknown, .dispatching] with
  | none =>
    -- only settled rows are not found again, and they are held
    have skipped := List.find?_eq_none.mp located row stored
    rw [beq_self_eq_true, Bool.true_and, decide_eq_true_eq] at skipped
    simp only [verdictOf, verdict_settled skipped, resolvedAs]
    split
    · next same => rw [same, found]
    · rfl
  | some existing =>
    have matched := List.find?_some located
    rw [Bool.and_eq_true, beq_iff_eq] at matched
    have named : existing.intent = row.intent := ids.derive_eq.mp matched.1
    have same : existing = row := Table.eq_of_find? found (List.mem_of_find?_eq_some located) named
    subst same
    simp only
    rw [← verdictOf]
    cases verdict : verdictOf ids now db existing with
    | hold =>
      simp only [resolvedAs]
      split
      · next same => rw [same, found]
      · rfl
    | sweepToReconciling =>
      simp only [resolvedAs, find?_sweepStaleDispatchingSend]
      split
      · next same => simp [same, found, classifyReconcilableSend_swept verdict]
      · rfl
    | resolveUnknown =>
      simp only [resolvedAs, find?_resolveReconcilingSend]
      split
      · next same =>
        simp [same, found, awaitsReconciler, classifyReconcilableSend_unknown verdict, ResolveReconcilingVerdict.assign]
      · rfl
    | resolveSent =>
      -- a campaign's counter may be written too; the row is the same either way
      have waits : awaitsReconciler existing = true := by
        rcases classifyReconcilableSend_sent verdict with waiting | waiting <;> simp [awaitsReconciler, waiting]
      have moved : ((resolveReconcilingSend ids db.sends (ids.derive existing.intent) .resolveSent).2).find? other =
          if other = existing.intent then some (resolvedAsSent existing) else db.sends.find? other := by
        rw [find?_resolveReconcilingSend]
        split
        · next same =>
          rw [same, found, Option.map_some, if_pos waits]
          rfl
        · rfl
      simp only [resolvedAs]
      split
      · split <;> exact moved
      · exact moved

end Resolution

section Page

variable {ids : SendIdScheme} {now : Timestamp} {db : Database} {batchLimit : Nat}

theorem verdictOf_congr {next : Database} (same : next.sendEvents = db.sendEvents) (row : Send) :
    verdictOf ids now next row = verdictOf ids now db row := by
  rw [verdictOf, same, verdictOf]

/-- The transactions of one tick move each of their rows as its verdict at the start says, and no other row. -/
theorem find?_resolveEach {candidates : List Send} (distinct : (candidates.map Send.intent).Nodup)
    (stored : ∀ row ∈ candidates, row ∈ db.sends.rows) {row : Send} (held : row ∈ db.sends.rows) :
    (candidates.foldl (fun db row => resolveOneSend ids now db (ids.derive row.intent)) db).sends.find? row.intent =
      some (if row ∈ candidates then resolvedAs now row (verdictOf ids now db row) else row) := by
  induction candidates generalizing db row with
  | nil => simpa using Table.find?_of_mem held
  | cons first rest ih =>
    rw [List.map_cons, List.nodup_cons] at distinct
    have moved := @find?_resolveOneSend ids now db first (stored first List.mem_cons_self)
    have events := @sendEvents_resolveOneSend ids now db (ids.derive first.intent)
    generalize next_eq : resolveOneSend ids now db (ids.derive first.intent) = next at moved events
    have kept : ∀ other ∈ db.sends.rows, other.intent ≠ first.intent → other ∈ next.sends.rows := by
      intro other member differs
      have found := moved other.intent
      rw [if_neg differs, Table.find?_of_mem member] at found
      exact Table.mem_of_find? found
    have apart : ∀ other ∈ rest, other.intent ≠ first.intent := fun other member same =>
      distinct.1 (same ▸ List.mem_map_of_mem member)
    have later : ∀ other ∈ rest, other ∈ next.sends.rows := fun other member =>
      kept other (stored other (List.mem_cons_of_mem _ member)) (apart other member)
    rw [List.foldl_cons, next_eq]
    by_cases same : row.intent = first.intent
    · -- this row has moved, and nothing that follows is about it
      have chosen : row = first := Table.eq_of_find? (Table.find?_of_mem (stored first List.mem_cons_self)) held same
      subst chosen
      have found := moved row.intent
      rw [if_pos rfl] at found
      have whole := ih distinct.2 later (Table.mem_of_find? found)
      rw [intent_resolvedAs] at whole
      have absent : resolvedAs now row (verdictOf ids now db row) ∉ rest := fun member =>
        apart _ member (intent_resolvedAs row _)
      rw [whole, if_neg absent, if_pos List.mem_cons_self]
    · have differs : row ≠ first := fun equal => same (congrArg Send.intent equal)
      rw [ih distinct.2 later (kept row held same), verdictOf_congr events]
      simp only [List.mem_cons, differs, false_or]

theorem mem_reconcilableSends {row : Send} :
    row ∈ reconcilableSends now db ↔ row ∈ db.sends.rows ∧ isReconcilable now row = true := by
  rw [reconcilableSends, List.mem_insertionSort, List.mem_filter]

theorem nodup_reconcilableSends : ((reconcilableSends now db).map Send.intent).Nodup := by
  apply ((List.perm_insertionSort _ _).map _).nodup_iff.mpr
  exact db.sends.unique.sublist (List.Sublist.map _ List.filter_sublist)

theorem isReconcilable_of_actionable {row : Send} (acts : isActionable ids now db row = true) :
    isReconcilable now row = true := by
  have verdict : verdictOf ids now db row ≠ .hold := bne_iff_ne.mp acts
  simp only [isReconcilable, Bool.or_eq_true, Bool.and_eq_true, beq_iff_eq, decide_eq_true_eq]
  by_contra overlooked
  obtain ⟨waiting, dispatching⟩ := not_or.mp overlooked
  obtain ⟨reconciling, unknown⟩ := not_or.mp waiting
  apply verdict
  rw [verdictOf, classifyReconcilableSend, if_neg, if_neg, if_neg, if_neg]
  · rintro ⟨status, _, recent⟩
    exact unknown ⟨status, Int.sub_left_le_of_le_add (Int.le_add_of_sub_right_le recent)⟩
  · exact fun both => reconciling both.1
  · exact fun both => reconciling both.1
  · rintro ⟨status, old⟩
    exact dispatching ⟨status, Int.lt_sub_left_of_add_lt (Int.add_lt_of_lt_sub_right old)⟩

theorem actionable_eq : actionable ids now db = (reconcilableSends now db).countP (isActionable ids now db) := by
  rw [reconcilableSends, (List.perm_insertionSort _ _).countP_eq, List.countP_filter, actionable, Table.count]
  apply List.countP_congr
  intro row _
  rw [Bool.and_eq_true]
  exact ⟨fun acts => ⟨acts, isReconcilable_of_actionable acts⟩, And.left⟩

theorem transitions_eq : transitions ids now db batchLimit =
    ((reconcilableSends now db).take batchLimit).countP (isActionable ids now db) := by
  have within : List.Sublist ((reconcilableSends now db).take batchLimit) (reconcilableSends now db) :=
    List.take_sublist _ _
  have distinct : (((reconcilableSends now db).take batchLimit).map Send.intent).Nodup :=
    nodup_reconcilableSends.sublist (within.map _)
  have stored : ∀ row ∈ (reconcilableSends now db).take batchLimit, row ∈ db.sends.rows := fun row member =>
    (mem_reconcilableSends.mp (within.subset member)).1
  have moved : ∀ row ∈ db.sends.rows,
      (statusOf (runReconcilerTick ids now db batchLimit).sends row.intent != some row.status) = true ↔
        (decide (row ∈ (reconcilableSends now db).take batchLimit) && isActionable ids now db row) = true := by
    intro row held
    have found := @find?_resolveEach ids now db _ distinct stored row held
    rw [statusOf, runReconcilerTick, findReconcilableCandidates, found, Option.map_some, bne_iff_ne, Ne,
      Option.some_inj, Bool.and_eq_true, decide_eq_true_eq, isActionable, bne_iff_ne]
    by_cases listed : row ∈ (reconcilableSends now db).take batchLimit
    · rw [if_pos listed, verdictOf, status_resolvedAs]
      simp only [listed, true_and]
    · simp [listed]
  -- counting over the table is counting over the page, whose rows are distinct
  have same : (db.sends.rows.filter fun row => decide (row ∈ (reconcilableSends now db).take batchLimit)).Perm
      ((reconcilableSends now db).take batchLimit) := by
    apply (List.perm_ext_iff_of_nodup _ distinct.of_map).mpr
    · intro row
      rw [List.mem_filter, decide_eq_true_eq]
      exact ⟨And.right, fun member => ⟨stored row member, member⟩⟩
    · exact db.sends.unique.of_map.filter _
  rw [transitions, Table.count, List.countP_congr moved, ← same.countP_eq, List.countP_filter]
  apply List.countP_congr
  intro row _
  rw [Bool.and_comm]

/-- A tick moves as many rows with a verdict as its page admits exactly where none of them stands behind a row
that can only be held. -/
theorem reconciler_tick_progresses_iff (ids : SendIdScheme) (now : Timestamp) (db : Database) (batchLimit : Nat) :
    ((∀ row ∈ db.sends.rows, isActionable ids now db row = true → isReconcilable now row = true) ∧
        transitions ids now db batchLimit = min batchLimit (actionable ids now db)) ↔
      ServesPage (isActionable ids now db) batchLimit (reconcilableSends now db) := by
  rw [transitions_eq, actionable_eq, countP_page_iff]
  exact and_iff_right fun row _ acts => isReconcilable_of_actionable acts

end Page

section Starvation

def inertSend (contactId : ContactId) : Send where
  intent := .flow 1 1 contactId
  contactId
  status := .unknown
  queuedAt := -2 * millisecondsPerDay

def confirmedSend : Send where
  intent := .flow 1 1 reconcilerBatchLimit
  contactId := reconcilerBatchLimit
  status := .reconciling
  queuedAt := -millisecondsPerHour

def confirmation : SendEvent where
  workspaceId := 1
  sgEventId := "delivered"
  sendId := some (pairedSendIds.derive confirmedSend.intent)
  eventType := "delivered"
  reason := none
  isTest := false
  occurredAt := 0

theorem intents_starved : ((List.range reconcilerBatchLimit).map inertSend ++ [confirmedSend]).map Send.intent =
    (List.range (reconcilerBatchLimit + 1)).map (SendIntent.flow 1 1) := by
  rw [List.map_append, List.map_map, List.range_succ, List.map_append]
  rfl

def starvedSends : Database where
  sends :=
    { rows := (List.range reconcilerBatchLimit).map inertSend ++ [confirmedSend]
      unique := by
        rw [intents_starved]
        apply List.nodup_range.map
        intro left right same
        exact (SendIntent.flow.inj same).2.2 }
  sendEvents := [confirmation]

theorem confirmed_send_starves :
    transitions pairedSendIds 0 starvedSends reconcilerBatchLimit = 0 ∧
      min reconcilerBatchLimit (actionable pairedSendIds 0 starvedSends) = 1 := by
  rw [transitions_eq]
  decide +kernel

end Starvation

end LocalCrm.Delivery
