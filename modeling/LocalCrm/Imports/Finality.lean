import LocalCrm.Imports.Machine

/-! Rows that are dealt with, and imports that failed, over every run of an import. -/

set_option autoImplicit false

namespace LocalCrm.Imports

open Library Contacts

section Conditions

variable (threads : ImportThreads)

def overwritten : ImportTurn → Option Nat
  | .thread id .classify =>
    match threads.own id with
    | .classifying _ _ row _ => some row.rowNumber
    | _ => none
  | .thread id (.markError true) =>
    match threads.own id with
    | .marking _ _ row _ => some row.rowNumber
    | _ => none
  | _ => none

def overwritesSettled (turn : ImportTurn) : Bool :=
  (overwritten threads turn).any (settledIn threads.shared.store.rows)

def revivesFailed : ImportTurn → Bool
  | .thread _ .save => threads.shared.store.csvImport.status == .failed
  | _ => false

/-- No write without a guard meets a row that is dealt with or an import that failed. -/
structure Careful (turn : ImportTurn) : Prop where
  rows : overwritesSettled threads turn = false
  failed : revivesFailed threads turn = false

end Conditions

section Effects

variable {site : Site} {threads next : ImportThreads} {turn : ImportTurn} {store after : ImportStore} {row : StagedRow}
  {config : CsvImport} {newId : ContactId} {rowNumber : Nat}

inductive Effect (site : Site) (threads : ImportThreads) (turn : ImportTurn) : SharedImport → Prop where
  | same : overwritten threads turn = none → Effect site threads turn threads.shared
  | contacts (db : Database) : overwritten threads turn = none →
      Effect site threads turn { threads.shared with store := { threads.shared.store with db } }
  | classified (rowNumber : Nat) (status : RowStatus) (reason : Option String) :
      overwritten threads turn = some rowNumber → status.settled = false →
      Effect site threads turn { threads.shared with store := { threads.shared.store with
        rows := setStagedRowClassification threads.shared.store.rows rowNumber status reason } }
  | stored (config : CsvImport) (newId : ContactId) (row : StagedRow) (after : ImportStore) :
      overwritten threads turn = none → applyStagedRow site config newId threads.shared.store row = .ok after →
      Effect site threads turn { threads.shared with
        store := after
        applied := countApplied threads.shared.applied threads.shared.store.rows after.rows }
  | saved (id : Nat) (request : DryRunRequest) (summary : CsvDryRunSummary) : turn = .thread id .save →
      Effect site threads turn { threads.shared with store := { threads.shared.store with
        csvImport := saveDryRunResult site.storage threads.shared.store.csvImport request.mapping
          request.duplicatePolicy request.defaultTimezone summary } }
  | marked : overwritten threads turn = none → Effect site threads turn { threads.shared with
      store := { threads.shared.store with csvImport := markCsvImportApplying threads.shared.store.csvImport } }
  | enqueued : overwritten threads turn = none → Effect site threads turn { threads.shared with enqueued := true }
  | recounted : overwritten threads turn = none →
      Effect site threads turn { threads.shared with store := recount threads.shared.store }

theorem effect_of_classify {id : Nat} {request : DryRunRequest} {summary : CsvDryRunSummary} {rest : List StagedRow}
    (stands : threads.own id = .classifying request summary row rest) :
    Effect site threads (.thread id .classify) (classifyTurn site threads.shared request summary row rest).1 := by
  have named : overwritten threads (.thread id .classify) = some row.rowNumber := by
    simp only [overwritten, stands]
  unfold classifyTurn
  cases applyCsvRowMapping site.boundary row.raw request.mapping request.defaultTimezone with
  | error error => exact .classified row.rowNumber .error (some error) named rfl
  | ok input => exact .classified row.rowNumber .pending none named rfl

theorem effect_of_store {id : Nat} {fate : Fate} {rest : List StagedRow} :
    Effect site threads (.thread id (.store newId fate))
      (storeTurn site threads.shared config newId fate row rest).1 := by
  unfold storeTurn
  cases applied : applyStagedRow site config newId threads.shared.store row with
  | error refusal => exact .same rfl
  | ok after =>
    cases fate with
    | committed | unacknowledged => exact .stored config newId row after rfl applied
    | rolledBack message => exact .same rfl

theorem effect_of_step (taken : importStep site threads turn = some next) : Effect site threads turn next.shared := by
  cases turn with
  | outside db =>
    obtain ⟨shared, happened, rfl⟩ := interleave_outside.mp taken
    obtain rfl := Option.some.inj happened
    exact .contacts db rfl
  | thread id choice =>
    obtain ⟨shared, own, acted, rfl⟩ := interleave_thread.mp taken
    show Effect site threads (.thread id choice) shared
    generalize stands : threads.own id = party at acted
    rw [partyTurn.eq_def] at acted
    split at acted
    -- requests, pages and the lookup of the dry-run write nothing
    case h_1 | h_2 | h_4 | h_6 | h_11 =>
      cases acted
      exact .same rfl
    case h_3 =>
      obtain rfl : _ = shared := congrArg Prod.fst (Option.some.inj acted)
      exact effect_of_classify stands
    case h_5 =>
      cases acted
      exact .saved id _ _ rfl
    -- the route and the job both mark the import as applying
    case h_7 | h_10 =>
      cases acted
      exact .marked rfl
    case h_8 =>
      cases acted
      exact .enqueued rfl
    case h_9 =>
      split at acted
      · cases acted
        exact .same rfl
      · cases acted
    case h_12 =>
      obtain rfl : _ = shared := congrArg Prod.fst (Option.some.inj acted)
      exact effect_of_store
    -- the write of the error may fail as well, and the job goes on
    case h_13 config message row rest reached =>
      cases reached with
      | false =>
        cases acted
        exact .same (by simp only [overwritten])
      | true =>
        cases acted
        exact .classified row.rowNumber .error (some message) (by simp only [overwritten, stands]) rfl
    case h_14 =>
      cases acted
      exact .recounted rfl
    case h_15 =>
      cases acted
      exact .same rfl
    case h_16 => cases acted

end Effects

section Rows

variable {site : Site} {rows : StagedRows} {store after : ImportStore} {row : StagedRow} {config : CsvImport}
  {newId : ContactId} {rowNumber other : Nat} {status : RowStatus} {reason : Option String}

theorem settledIn_setStagedRowClassification_of_ne (differs : other ≠ rowNumber) :
    settledIn (setStagedRowClassification rows rowNumber status reason) other = settledIn rows other := by
  rw [settledIn, find?_setStagedRowClassification, if_neg differs, settledIn]

theorem settledIn_setStagedRowClassification (open' : status.settled = false) :
    settledIn (setStagedRowClassification rows rowNumber status reason) rowNumber = false := by
  rw [settledIn, find?_setStagedRowClassification, if_pos rfl]
  cases rows.find? rowNumber with
  | none => rfl
  | some row => exact open'

theorem not_settled_of_pending (pending : pendingIn rows rowNumber = true) : settledIn rows rowNumber = false := by
  unfold pendingIn at pending
  unfold settledIn
  cases found : rows.find? rowNumber with
  | none => rfl
  | some row =>
    rw [found, Option.any_some, beq_iff_eq] at pending
    rw [Option.any_some, pending]
    rfl

theorem rows_applyStagedRow (applied : applyStagedRow site config newId store row = .ok after) :
    after.csvImport = store.csvImport ∧ after.rows.rows.length = store.rows.rows.length ∧
      (after.rows = store.rows ∨ pendingIn store.rows row.rowNumber = true ∧
        ∀ other, other ≠ row.rowNumber → after.rows.find? other = store.rows.find? other) := by
  unfold applyStagedRow at applied
  -- the job looks at the status again, with the row locked
  by_cases pending : (store.rows.find? row.rowNumber).map StagedRow.status = some .pending
  · rw [if_neg (not_not.mpr pending)] at applied
    have held : pendingIn store.rows row.rowNumber = true := by
      obtain ⟨stored, found, status⟩ := Option.map_eq_some_iff.mp pending
      rw [pendingIn, found, Option.any_some, status]
      rfl
    cases read : applyCsvRowMapping site.boundary row.raw (config.mapping.getD []) config.defaultTimezone with
    | error error =>
      rw [read] at applied
      cases applied
      refine ⟨rfl, List.length_map _, .inr ⟨held, ?_⟩⟩
      intro other differs
      rw [find?_setStagedRowClassification, if_neg differs]
    | ok input =>
      rw [read] at applied
      change (storeContact site store.db newId config.duplicatePolicy input).map _ = _ at applied
      cases stored : storeContact site store.db newId config.duplicatePolicy input with
      | error refusal =>
        rw [stored] at applied
        cases applied
      | ok written =>
        rw [stored] at applied
        cases applied
        refine ⟨rfl, List.length_map _, .inr ⟨held, ?_⟩⟩
        intro other differs
        show (setRowStatus _ _ _).find? other = _
        rw [find?_setRowStatus, if_neg differs]
  · rw [if_pos pending] at applied
    cases applied
    exact ⟨rfl, rfl, .inl rfl⟩

end Rows

section Steps

variable {site : Site} {threads next : ImportThreads} {turn : ImportTurn} {rowNumber : Nat}

def Counted (threads : ImportThreads) : Prop :=
  ∀ rowNumber, threads.shared.applied rowNumber = (settledIn threads.shared.store.rows rowNumber).toNat

theorem not_overwritten {written : Nat} (named : overwritten threads turn = some written)
    (careful : overwritesSettled threads turn = false) : settledIn threads.shared.store.rows written = false := by
  rw [overwritesSettled, named, Option.any_some] at careful
  exact careful

theorem settled_step (careful : overwritesSettled threads turn = false)
    (taken : importStep site threads turn = some next)
    (settled : settledIn threads.shared.store.rows rowNumber = true) :
    settledIn next.shared.store.rows rowNumber = true := by
  have effect := effect_of_step taken
  generalize next.shared = shared at effect ⊢
  cases effect with
  | same | contacts | saved | marked | enqueued | recounted => exact settled
  | classified written status reason named open' =>
    have differs : rowNumber ≠ written := by
      rintro rfl
      rw [not_overwritten named careful] at settled
      cases settled
    show settledIn (setStagedRowClassification _ _ _ _) rowNumber = true
    rw [settledIn_setStagedRowClassification_of_ne differs]
    exact settled
  | stored config newId row after _ applied =>
    show settledIn after.rows rowNumber = true
    obtain ⟨_, _, same | ⟨pending, others⟩⟩ := rows_applyStagedRow applied
    · rw [same]
      exact settled
    · have differs : rowNumber ≠ row.rowNumber := by
        rintro rfl
        rw [not_settled_of_pending pending] at settled
        cases settled
      rw [settledIn, others rowNumber differs]
      exact settled

theorem unsettled_step (overwrites : overwritesSettled threads turn = true)
    (taken : importStep site threads turn = some next) :
    ∃ rowNumber, settledIn threads.shared.store.rows rowNumber = true ∧
      settledIn next.shared.store.rows rowNumber = false := by
  obtain ⟨written, named, settled⟩ := (Option.any_eq_true _ _).mp overwrites
  refine ⟨written, settled, ?_⟩
  have effect := effect_of_step taken
  generalize next.shared = shared at effect ⊢
  cases effect with
  | same none | contacts db none | marked none | enqueued none | recounted none
  | stored config newId row after none _ =>
    rw [none] at named
    cases named
  | saved id request summary same =>
    rw [same] at named
    cases named
  | classified row status reason named' open' =>
    obtain rfl : written = row := Option.some.inj (named.symm.trans named')
    exact settledIn_setStagedRowClassification open'

theorem counted_step (counted : Counted threads) (careful : overwritesSettled threads turn = false)
    (taken : importStep site threads turn = some next) : Counted next := by
  intro rowNumber
  have before := counted rowNumber
  have effect := effect_of_step taken
  generalize next.shared = shared at effect ⊢
  cases effect with
  | same | contacts | saved | marked | enqueued | recounted => exact before
  | classified written status reason named open' =>
    show threads.shared.applied rowNumber = (settledIn (setStagedRowClassification _ _ _ _) rowNumber).toNat
    by_cases same : rowNumber = written
    · -- the row was open and stays so: it was never applied
      have unsettled := not_overwritten named careful
      rw [before, same, unsettled, settledIn_setStagedRowClassification open']
    · rw [settledIn_setStagedRowClassification_of_ne same]
      exact before
  | stored config newId row after _ applied =>
    show countApplied threads.shared.applied threads.shared.store.rows after.rows rowNumber =
      (settledIn after.rows rowNumber).toNat
    have apart : ∀ rows, (pendingIn rows rowNumber && settledIn rows rowNumber) = false := by
      intro rows
      cases pending : pendingIn rows rowNumber with
      | true => rw [not_settled_of_pending pending, Bool.and_false]
      | false => rw [Bool.false_and]
    unfold countApplied
    obtain ⟨_, _, same | ⟨pending, others⟩⟩ := rows_applyStagedRow applied
    · rw [same, apart, before]
      rfl
    · by_cases here : rowNumber = row.rowNumber
      · rw [before, here, pending, not_settled_of_pending pending, Bool.true_and, Bool.toNat_false, Nat.zero_add]
      · have kept : settledIn after.rows rowNumber = settledIn threads.shared.store.rows rowNumber := by
          rw [settledIn, others rowNumber here, settledIn]
        rw [before, kept, apart]
        rfl

def Tallied (threads : ImportThreads) : Prop :=
  threads.shared.store.csvImport.status = .done →
    ∃ summary, threads.shared.store.csvImport.summary = some (.applied summary) ∧
      summary.created + summary.updated + summary.skipped + summary.errorCount =
        threads.shared.store.rows.rows.length

theorem countOf_all (rows : StagedRows) :
    countOf rows .pending + countOf rows .created + countOf rows .updated + countOf rows .skipped +
        countOf rows .error = rows.rows.length := by
  unfold countOf Table.count
  induction rows.rows with
  | nil => rfl
  | cons row rest ih =>
    simp only [List.countP_cons]
    cases row.status <;> simp <;> omega

theorem tallied_step (tallied : Tallied threads) (taken : importStep site threads turn = some next) : Tallied next := by
  have effect := effect_of_step taken
  unfold Tallied
  generalize next.shared = shared at effect ⊢
  cases effect with
  | same | contacts | enqueued => exact tallied
  | saved | marked =>
    intro done
    cases done
  | classified written status reason named open' =>
    intro done
    obtain ⟨summary, kept, sum⟩ := tallied done
    exact ⟨summary, kept, by rw [sum]; exact (List.length_map _).symm⟩
  | stored config newId row after _ applied =>
    obtain ⟨same, long, _⟩ := rows_applyStagedRow applied
    show after.csvImport.status = .done → ∃ summary, after.csvImport.summary = some (.applied summary) ∧
      _ = after.rows.rows.length
    rw [same, long]
    exact tallied
  | recounted =>
    -- an import is done only with no row pending, and then the four counts are all of its rows
    intro done
    have total := countOf_all threads.shared.store.rows
    refine ⟨_, rfl, ?_⟩
    show countOf threads.shared.store.rows .created + countOf threads.shared.store.rows .updated +
      countOf threads.shared.store.rows .skipped + countOf threads.shared.store.rows .error =
        threads.shared.store.rows.rows.length
    have resolved : countOf threads.shared.store.rows .pending = 0 := by
      by_contra left
      have status : (recount threads.shared.store).csvImport.status = .applying := if_pos (by omega)
      rw [status] at done
      cases done
    omega

end Steps

section Failed

variable {site : Site} {threads next : ImportThreads} {turn : ImportTurn} {shared after : SharedImport}
  {party own : Party} {choice : Choice} {id : Nat}

theorem not_failed_step (sound : threads.shared.store.csvImport.status ≠ .failed)
    (taken : importStep site threads turn = some next) : next.shared.store.csvImport.status ≠ .failed := by
  have effect := effect_of_step taken
  generalize next.shared = shared at effect ⊢
  cases effect with
  | same | contacts | enqueued | classified => exact sound
  | saved | marked => exact ImportStatus.noConfusion
  | stored config newId row after _ applied =>
    show after.csvImport.status ≠ .failed
    rw [(rows_applyStagedRow applied).1]
    exact sound
  | recounted =>
    show (if countOf threads.shared.store.rows .pending > 0 then ImportStatus.applying else .done) ≠ .failed
    split <;> exact ImportStatus.noConfusion

def Party.harmless : Party → Bool
  | .idle | .dryRunning _ _ _ | .classifying _ _ _ _ | .looking _ _ _ _ _ | .saving _ _ => true
  | .accepting | .enqueueing | .starting _ | .reading _ _ | .storing _ _ _ | .marking _ _ _ _ | .recounting => false

/-- A failed import without a mapping: nobody is applying it, and nothing has been applied. -/
structure Stuck (threads : ImportThreads) : Prop where
  failed : threads.shared.store.csvImport.status = .failed
  mapping : threads.shared.store.csvImport.mapping = none
  enqueued : threads.shared.enqueued = false
  unapplied : ∀ rowNumber, threads.shared.applied rowNumber = 0
  harmless : ∀ id, (threads.own id).harmless = true

theorem harmless_dryRunOn {request : DryRunRequest} {summary : CsvDryRunSummary} {cursor : Nat}
    (rows : List StagedRow) : (dryRunOn request summary cursor rows).harmless = true := by
  cases rows <;> rfl

theorem stuck_turn (mapping : shared.store.csvImport.mapping = none) (enqueued : shared.enqueued = false)
    (harmless : party.harmless = true) (unsaved : choice ≠ .save)
    (acted : partyTurn site id shared party choice = some (after, own)) :
    after.store.csvImport = shared.store.csvImport ∧ after.enqueued = false ∧ after.applied = shared.applied ∧
      own.harmless = true := by
  rw [partyTurn.eq_def] at acted
  split at acted
  case h_1 | h_15 =>
    cases acted
    exact ⟨rfl, enqueued, rfl, rfl⟩
  case h_2 =>
    cases acted
    refine ⟨rfl, enqueued, rfl, ?_⟩
    unfold dryRunPage
    split <;> rfl
  case h_3 request summary row rest =>
    unfold classifyTurn at acted
    split at acted
    · cases acted
      exact ⟨rfl, enqueued, rfl, harmless_dryRunOn rest⟩
    · cases acted
      exact ⟨rfl, enqueued, rfl, rfl⟩
  case h_4 =>
    cases acted
    exact ⟨rfl, enqueued, rfl, harmless_dryRunOn _⟩
  case h_5 => exact absurd rfl unsaved
  -- the apply route refuses an import that has no mapping
  case h_6 =>
    rw [mapping] at acted
    cases acted
    exact ⟨rfl, enqueued, rfl, rfl⟩
  case h_9 =>
    rw [enqueued] at acted
    cases acted
  -- nobody is in the middle of an apply
  case h_7 | h_8 | h_10 | h_11 | h_12 | h_13 | h_14 => cases harmless
  case h_16 => cases acted

theorem stuck_step (stuck : Stuck threads) (careful : revivesFailed threads turn = false)
    (taken : importStep site threads turn = some next) : Stuck next := by
  cases turn with
  | outside db =>
    obtain ⟨shared, happened, rfl⟩ := interleave_outside.mp taken
    obtain rfl := Option.some.inj happened
    exact ⟨stuck.failed, stuck.mapping, stuck.enqueued, stuck.unapplied, stuck.harmless⟩
  | thread id choice =>
    obtain ⟨shared, own, acted, rfl⟩ := interleave_thread.mp taken
    have unsaved : choice ≠ .save := by
      rintro rfl
      rw [revivesFailed, stuck.failed] at careful
      cases careful
    obtain ⟨same, enqueued, applied, harmless⟩ :=
      stuck_turn stuck.mapping stuck.enqueued (stuck.harmless id) unsaved acted
    exact {
      failed := by
        show shared.store.csvImport.status = .failed
        rw [same]
        exact stuck.failed
      mapping := by
        show shared.store.csvImport.mapping = none
        rw [same]
        exact stuck.mapping
      enqueued := enqueued
      unapplied := by
        show ∀ rowNumber, shared.applied rowNumber = 0
        rw [applied]
        exact stuck.unapplied
      harmless := by
        intro other
        show (Function.update threads.own id own other).harmless = true
        by_cases here : other = id
        · rw [here, Function.update_self]
          exact harmless
        · rw [Function.update_of_ne here]
          exact stuck.harmless other }

end Failed

section Runs

variable {site : Site} {start final : ImportThreads} {trace : List ImportTurn}

structure RowsFinal (site : Site) (start : ImportThreads) (trace : List ImportTurn) (final : ImportThreads) : Prop where
  settled : ∀ earlier later middle, trace = earlier ++ later → run (importStep site) start earlier = some middle →
    ∀ rowNumber, settledIn middle.shared.store.rows rowNumber = true →
      settledIn final.shared.store.rows rowNumber = true
  once : ∀ rowNumber, final.shared.applied rowNumber ≤ 1
  failed : ∀ earlier later middle, trace = earlier ++ later → run (importStep site) start earlier = some middle →
    middle.shared.store.csvImport.status = .failed → ∀ rowNumber,
      final.shared.applied rowNumber = middle.shared.applied rowNumber
  tallied : Tallied final

theorem counted_uploaded (uploaded : Uploaded start) : Counted start := by
  intro rowNumber
  rw [uploaded.applied, settledIn]
  cases found : start.shared.store.rows.find? rowNumber with
  | none => rfl
  | some row =>
    rw [Option.any_some, uploaded.pending row (Table.mem_of_find? found)]
    rfl

theorem failed_start (uploaded : Uploaded start) (ran : run (importStep site) start trace = some final)
    (failed : final.shared.store.csvImport.status = .failed) : Stuck start := by
  rcases uploaded.status with fresh | stuck
  · have never : final.shared.store.csvImport.status ≠ .failed :=
      invariant_of_every_run (fun _ _ _ sound taken => not_failed_step sound taken)
        (by rw [fresh]; exact ImportStatus.noConfusion) ran
    exact absurd failed never
  · refine ⟨stuck, uploaded.mapping, uploaded.enqueued, uploaded.applied, ?_⟩
    intro id
    rw [uploaded.idle id]
    rfl

theorem rowsFinal_of_careful (uploaded : Uploaded start) (ran : run (importStep site) start trace = some final)
    (careful : Along (importStep site) (fun threads turn _ => Careful threads turn) start trace) :
    RowsFinal site start trace final where
  settled := by
    intro earlier later middle split reached rowNumber settled
    subst split
    obtain ⟨_, before, onward⟩ := run_append.mp ran
    obtain rfl := Option.some.inj (before.symm.trans reached)
    have preserved : ∀ threads turn next, settledIn threads.shared.store.rows rowNumber = true →
        Careful threads turn → importStep site threads turn = some next →
          settledIn next.shared.store.rows rowNumber = true :=
      fun _ _ _ holds careful taken => settled_step careful.rows taken holds
    exact invariant_of_run preserved settled (along_after careful reached) onward
  once := by
    intro rowNumber
    have preserved : ∀ threads turn next, Counted threads → Careful threads turn →
        importStep site threads turn = some next → Counted next :=
      fun _ _ _ counted careful taken => counted_step counted careful.rows taken
    rw [invariant_of_run preserved (counted_uploaded uploaded) careful ran rowNumber]
    exact Bool.toNat_le _
  failed := by
    intro earlier later middle split reached failed rowNumber
    have preserved : ∀ threads turn next, Stuck threads → Careful threads turn →
        importStep site threads turn = some next → Stuck next :=
      fun _ _ _ stuck careful taken => stuck_step stuck careful.failed taken
    -- the import failed at its upload, so nothing has been applied before or since
    have stuck := failed_start uploaded reached failed
    subst split
    rw [(invariant_of_run preserved stuck careful ran).unapplied rowNumber,
      (invariant_of_run preserved stuck (along_of_append careful) reached).unapplied rowNumber]
  tallied := by
    have preserved : ∀ threads turn next, Tallied threads → importStep site threads turn = some next → Tallied next :=
      fun _ _ _ tallied taken => tallied_step tallied taken
    apply invariant_of_every_run preserved _ ran
    intro done
    rcases uploaded.status with status | status <;> rw [status] at done <;> cases done

theorem settled_along_iff (start : ImportThreads) (trace : List ImportTurn) :
    Along (importStep site) (fun threads _ next => ∀ rowNumber,
        settledIn threads.shared.store.rows rowNumber = true → settledIn next.shared.store.rows rowNumber = true)
        start trace ↔
      Along (importStep site) (fun threads turn _ => overwritesSettled threads turn = false) start trace := by
  apply along_congr (fun _ _ _ (_ : True) _ => trivial) _ trivial
  intro threads turn next _ taken
  constructor
  · intro kept
    apply Bool.eq_false_of_not_eq_true
    intro overwrites
    obtain ⟨rowNumber, settled, unsettled⟩ := unsettled_step overwrites taken
    rw [kept rowNumber settled] at unsettled
    cases unsettled
  · intro careful rowNumber settled
    exact settled_step careful taken settled

/-- The exact runs in which rows stay dealt with, and enough for all that is promised. -/
theorem rows_final_when_careful (site : Site) (start : ImportThreads) (uploaded : Uploaded start)
    (trace : List ImportTurn) :
    (Along (importStep site) (fun threads _ next => ∀ rowNumber,
          settledIn threads.shared.store.rows rowNumber = true → settledIn next.shared.store.rows rowNumber = true)
        start trace ↔
      Along (importStep site) (fun threads turn _ => overwritesSettled threads turn = false) start trace) ∧
      (Along (importStep site) (fun threads turn _ => Careful threads turn) start trace →
        ∀ final, run (importStep site) start trace = some final → RowsFinal site start trace final) := by
  refine ⟨settled_along_iff start trace, ?_⟩
  intro careful final ran
  exact rowsFinal_of_careful uploaded ran careful

end Runs

section Revalidation

def oneRow : ImportThreads where
  shared :=
    { store :=
        { csvImport := { id := "import", totalRows := 1 }
          rows := ⟨[{ rowNumber := 1, raw := [("Id", "A1")], numbered := Nat.one_pos }], List.nodup_singleton _⟩
          db := {} } }
  own := fun _ => .idle

theorem uploaded_oneRow : Uploaded oneRow where
  status := .inl rfl
  mapping := rfl
  pending := by decide
  enqueued := rfl
  applied _ := rfl
  idle _ := rfl

def validation : List ImportTurn :=
  [.thread 0 (.dryRun { mapping := [("Id", "externalId")] }), .thread 0 .page, .thread 0 .classify, .thread 0 .lookup,
    .thread 0 .page, .thread 0 .save]

def application (newId : ContactId) : List ImportTurn :=
  [.thread 1 .apply, .thread 1 .markApplying, .thread 1 .enqueue, .thread 2 .deliver, .thread 2 .markApplying,
    .thread 2 .page, .thread 2 (.store newId .committed), .thread 2 .page, .thread 2 .recount]

/-- A file that is validated once more after it was applied can be applied once more. -/
theorem revalidated_rows_applied_twice :
    ¬ ∀ (site : Site) (start : ImportThreads), Uploaded start → ∀ trace final,
      run (importStep site) start trace = some final → RowsFinal site start trace final := by
  intro kept
  have twice : (run (importStep plainSite) oneRow (validation ++ application 1 ++ validation ++ application 2)).map
      (fun threads => threads.shared.applied 1) = some 2 := by decide +kernel
  obtain ⟨final, ran, applied⟩ := Option.map_eq_some_iff.mp twice
  have once := (kept plainSite oneRow uploaded_oneRow _ final ran).once 1
  omega

theorem careful_application :
    Along (importStep plainSite) (fun threads turn _ => Careful threads turn) oneRow (validation ++ application 1) := by
  have checked : checkAlong (importStep plainSite)
      (fun threads turn => !overwritesSettled threads turn && !revivesFailed threads turn) oneRow
      (validation ++ application 1) = true := by decide +kernel
  apply along_mono _ (along_of_check checked)
  intro threads turn _ both
  rw [Bool.and_eq_true, Bool.not_eq_true', Bool.not_eq_true'] at both
  exact ⟨both.1, both.2⟩

theorem rows_final_once_applied :
    ∃ final, run (importStep plainSite) oneRow (validation ++ application 1) = some final ∧
      RowsFinal plainSite oneRow (validation ++ application 1) final := by
  have ends : (run (importStep plainSite) oneRow (validation ++ application 1)).isSome = true := by decide +kernel
  obtain ⟨final, ran⟩ := Option.isSome_iff_exists.mp ends
  exact ⟨final, ran, (rows_final_when_careful plainSite oneRow uploaded_oneRow (validation ++ application 1)).2
    careful_application final ran⟩

end Revalidation

end LocalCrm.Imports
