import LocalCrm.Purge.Exclusion

/-! A purge that says it is complete has destroyed what it should and nothing else.

Records only grow, so a count once written stays, whoever dies or resumes in between.
-/

set_option autoImplicit false

namespace LocalCrm.Purge

open Library

structure Accounted (thread : Nat) (before after : PurgeStore) : Prop where
  history : ∀ event ∈ before.history, event ∈ after.history
  rows : ∀ table row, row ∈ before.rows table →
    (∃ kept ∈ after.rows table, kept.id = row.id ∧ kept.workspaceId = row.workspaceId) ∨
      ∃ walked gone, .destroyed thread walked table gone ∈ after.history ∧ gone.id = row.id ∧
        gone.workspaceId = row.workspaceId

section Accounting

variable {settings : PurgeSettings} {thread : Nat} {before after store : PurgeStore}

theorem Accounted.of_same (history : ∀ event ∈ before.history, event ∈ after.history)
    (rows : after.rows = before.rows) : Accounted thread before after where
  history := history
  rows := by
    intro table row stored
    rw [rows]
    exact Or.inl ⟨row, stored, rfl, rfl⟩

theorem Accounted.trans {first second third : PurgeStore} (early : Accounted thread first second)
    (late : Accounted thread second third) : Accounted thread first third where
  history event listed := late.history event (early.history event listed)
  rows := by
    intro table row stored
    rcases early.rows table row stored with ⟨kept, stays, sameId, sameWorkspace⟩ | ⟨walked, gone, listed, named⟩
    · rcases late.rows table kept stays with ⟨left, still, id, workspace⟩ | ⟨walked, gone, listed, id, workspace⟩
      · exact Or.inl ⟨left, still, id.trans sameId, workspace.trans sameWorkspace⟩
      · exact Or.inr ⟨walked, gone, listed, id.trans sameId, workspace.trans sameWorkspace⟩
    · exact Or.inr ⟨walked, gone, late.history _ listed, named⟩

theorem accounted_noted {event : PurgeEvent} :
    Accounted thread store { store with history := event :: store.history } :=
  Accounted.of_same (fun _ listed => List.mem_cons_of_mem _ listed) rfl

theorem accounted_destroyed {workspaceId : WorkspaceId} {table : StoredTable} {chosen : Row → Bool} {left : Rows}
    {removed : List (StoredTable × Row)} (deleted : deleteRows store.rows table chosen = some (left, removed)) :
    Accounted thread store (logDestroyed store thread workspaceId left removed) where
  history _ listed := List.mem_append_right _ listed
  rows := by
    intro other row stored
    cases gone : doomed store.rows table chosen foreignKeys.length other row with
    | true =>
      have taken := (mem_removed deleted).mpr ⟨stored, gone⟩
      refine Or.inr ⟨workspaceId, row, ?_, rfl, rfl⟩
      exact List.mem_append_left _ (List.mem_map.mpr ⟨(other, row), taken, rfl⟩)
    | false =>
      obtain ⟨shape, -⟩ := deleteRows_some deleted
      refine Or.inl ⟨detach store.rows (doomed store.rows table chosen foreignKeys.length) other row, ?_, rfl, rfl⟩
      simp only [logDestroyed, shape]
      exact List.mem_map_of_mem (List.mem_filter.mpr ⟨stored, by rw [gone]; rfl⟩)

theorem Effect.accounted (effect : Effect settings thread before after) : Accounted thread before after := by
  induction effect with
  | unchanged | locked | unlocked | dropped | wrote | tombstoned => exact Accounted.of_same (fun _ listed => listed) rfl
  | started | selected | returned => exact accounted_noted
  | destroyed store workspaceId table chosen left removed held begins owned destroys recorded deleted =>
    exact accounted_destroyed deleted
  | reported store workspaceId deletedAt counts census =>
    unfold insertReport
    cases store.purgeRecords.find? workspaceId with
    | some _ => exact Accounted.of_same (fun _ listed => listed) rfl
    | none => exact Accounted.of_same (fun _ listed => List.mem_cons_of_mem _ listed) rfl
  | restored store next workspaceId held committed =>
    obtain ⟨-, -, rfl⟩ := restoreTransaction_some committed
    exact Accounted.of_same (fun _ listed => listed) rfl
  | both early late earlier later => exact earlier.trans later

end Accounting

section Runs

variable {settings : PurgeSettings} {initial middle final : PurgeWorld} {turns : List (Turn Choice Event)}

theorem grows_step {before after : PurgeWorld} {turn : Turn Choice Event}
    (sound : Threads.Sound StoreOk (Knows settings) before) (taken : purgeStep settings before turn = some after) :
    RecordsGrow before.shared after.shared := by
  cases turn with
  | thread id choice => exact (effect_of_turn sound taken).grows
  | outside event =>
    obtain ⟨shared, happened, rfl⟩ := interleave_outside.mp taken
    exact outside_grows happened

theorem grows_run (sound : Threads.Sound StoreOk (Knows settings) middle)
    (ran : run (purgeStep settings) middle turns = some final) : RecordsGrow middle.shared final.shared := by
  have kept : ∀ before turn after, Threads.Sound StoreOk (Knows settings) before ∧
      RecordsGrow middle.shared before.shared → purgeStep settings before turn = some after →
        Threads.Sound StoreOk (Knows settings) after ∧ RecordsGrow middle.shared after.shared := by
    intro before turn after holds taken
    exact ⟨sound_step before turn after holds.1 taken, holds.2.trans (grows_step holds.1 taken)⟩
  exact (invariant_of_every_run kept ⟨sound, RecordsGrow.refl middle.shared⟩ ran).2

theorem along_accounted (fresh : Initial initial) : Along (purgeStep settings)
    (fun before turn after => ∀ thread choice, turn = .thread thread choice →
      Accounted thread before.shared after.shared) initial turns := by
  apply along_of_invariant sound_step _ (sound_initial fresh)
  intro before turn after sound taken thread choice same
  subst same
  exact (effect_of_turn sound taken).accounted

theorem purge_completeness (settings : PurgeSettings) (initial final : PurgeWorld) (turns : List (Turn Choice Event))
    (fresh : Initial initial) (ran : run (purgeStep settings) initial turns = some final)
    (workspaceId : WorkspaceId) (record : PurgeRecord)
    (found : final.shared.purgeRecords.find? workspaceId = some record) (complete : record.status = .complete) :
    ((∀ table ∈ purgeTableOrder, Emptied final.shared.rows (.purged table) workspaceId) ∧
      ∀ auth, Emptied final.shared.rows (.auth auth) workspaceId) ∧
    (Along (purgeStep settings) (fun before turn after => ∀ thread choice, turn = .thread thread choice →
        Accounted thread before.shared after.shared) initial turns ∧
      ∀ tick walked table row, .destroyed tick walked table row ∈ final.shared.history →
        row.workspaceId = walked ∧ table.isEvidence = false) ∧
    ∀ earlier later middle, turns = earlier ++ later → run (purgeStep settings) initial earlier = some middle →
      ∀ old, middle.shared.purgeRecords.find? workspaceId = some old →
        (∀ table ∈ purgeTableOrder, (old.tableCounts.lookup (.purged table)).isSome) ∧
        (∀ tick auth row, .destroyed tick workspaceId (.auth auth) row ∈ middle.shared.history →
          (old.tableCounts.lookup (.auth auth)).isSome) ∧
        ∀ key count, old.tableCounts.lookup key = some count → record.tableCounts.lookup key = some count := by
  have ok := (sound_reached fresh ran).shared
  have right := ok.records workspaceId record found
  have named := Table.key_of_find? found
  refine ⟨⟨?_, ?_⟩, ⟨along_accounted fresh, ?_⟩, ?_⟩
  · intro table _
    have done := (right.steps _ (right.complete complete (.table table))).2
    rw [named] at done
    exact done
  · have done := (right.steps _ (right.complete complete .auth)).2
    rw [named] at done
    exact done
  · intro tick walked table row listed
    obtain ⟨-, owned, spared, -⟩ := ok.history.destroyed tick walked table row listed
    exact ⟨owned, spared⟩
  · rintro earlier later middle rfl reached old stored
    obtain ⟨between, before, onward⟩ := run_append.mp ran
    obtain rfl := Option.some.inj (reached.symm.trans before)
    have sound := sound_reached fresh reached
    refine ⟨?_, ?_, ?_⟩
    · intro table _
      exact (sound.shared.records workspaceId old stored).census table
    · intro tick auth row listed
      obtain ⟨-, -, -, recorded⟩ := sound.shared.history.destroyed tick workspaceId (.auth auth) row listed
      obtain ⟨other, same, present⟩ := counted_iff.mp (recorded auth rfl)
      rw [stored] at same
      cases same
      exact present
    · obtain ⟨last, same, grown⟩ := grows_run sound onward workspaceId old stored
      rw [found] at same
      cases same
      exact grown.counts

/-- A purge of the one workspace, reported first, empties its tables. -/
theorem purged_world_empty : ∃ final,
    run (purgeStep weekSettings) closedWorld (reporting ++ working 1 .tick 91) = some final ∧
      Emptied final.shared.rows (.purged .sendEvents) 1 ∧ Emptied final.shared.rows (.auth .member) 1 := by
  have reached : (run (purgeStep weekSettings) closedWorld (reporting ++ working 1 .tick 91)).any (fun final =>
      (final.shared.purgeRecords.find? 1).any fun record => record.status == .complete) = true := by
    decide +kernel
  obtain ⟨final, ran, seen⟩ := Option.any_eq_true _ _ |>.mp reached
  obtain ⟨record, found, status⟩ := Option.any_eq_true _ _ |>.mp seen
  have whole := purge_completeness weekSettings closedWorld final _ closedWorld_initial ran 1 record found
    (eq_of_beq status)
  exact ⟨final, ran, whole.1.1 .sendEvents (mem_purgeTableOrder _), whole.1.2 .member⟩

end Runs

end LocalCrm.Purge
