import LocalCrm.System.Ledger

/-! Who holds a row of the ledger. -/

set_option autoImplicit false

namespace LocalCrm.System

open Library Delivery Campaigns Webhooks Analytics

def Holds : DeliveryPhase → Prop
  | .claimed _ | .calling _ _ | .answered _ _ _ _ => True
  | .finished _ => False

/-- The statuses a row can have while an execution holds it. -/
def Holdable : SendStatus → Prop
  | .dispatching | .reconciling | .unknown | .sent => True
  | .failed | .excluded => False

structure RowsHeld (world : World) : Prop where
  present : ∀ id delivery, world.deliveries.find? id = some delivery → Holds delivery.phase →
    ∃ status, statusOf world.db.sends delivery.job.intent = some status ∧ Holdable status
  alone : ∀ id delivery other rival, world.deliveries.find? id = some delivery →
    world.deliveries.find? other = some rival → Holds delivery.phase → Holds rival.phase →
      delivery.job.intent = rival.job.intent → id = other

section Steps

variable {platform : Platform} {world next : World} {label : Label} {id : Nat} {delivery : JobDelivery}

theorem holder_origin (taken : step platform world label = some next)
    (found : next.deliveries.find? id = some delivery) (holds : Holds delivery.phase) :
    (∃ before, world.deliveries.find? id = some before ∧ before.job = delivery.job ∧ Holds before.phase) ∨
      (label = .delivery (.deliver id delivery.job) ∧ statusOf world.db.sends delivery.job.intent = none ∧
        statusOf next.db.sends delivery.job.intent = some .dispatching) := by
  have kept : ∀ {changed : JobDelivery}, next.deliveries = world.deliveries.put changed → id ≠ changed.id →
      ∃ before, world.deliveries.find? id = some before ∧ before.job = delivery.job ∧ Holds before.phase := by
    intro changed deliveries differs
    rw [deliveries, Table.find?_put, if_neg differs] at found
    exact ⟨delivery, found, rfl, holds⟩
  have erased : ∀ {gone : Nat}, next.deliveries = world.deliveries.erase gone →
      ∃ before, world.deliveries.find? id = some before ∧ before.job = delivery.job ∧ Holds before.phase := by
    intro gone deliveries
    rw [deliveries, Table.find?_erase] at found
    split at found
    · cases found
    · exact ⟨delivery, found, rfl, holds⟩
  by_cases moves : ∃ event, label = .delivery event
  · obtain ⟨event, rfl⟩ := moves
    cases deliveryStep_taken taken with
    | @rejected moved job | @denied moved | @settled moved =>
      by_cases same : id = moved
      · rw [Table.find?_put, if_pos same] at found
        cases found
        cases holds
      · exact .inl (kept rfl same)
    | @delivered moved job result db pending fresh uncalled claimed =>
      by_cases same : id = moved
      · subst same
        rw [Table.find?_put, if_pos rfl] at found
        cases found
        cases claimSend_commits claimed with
        | skipped | excluded | interrupted => cases holds
        | proceeds prereqs recipient contactId free =>
          exact .inr ⟨rfl, free, statusOf_claimIntent.trans (if_pos ⟨rfl, free⟩)⟩
      · exact .inl (kept rfl same)
    | @called moved job claim stored | @answered moved outcome job claim dispatchedAt stored =>
      by_cases same : id = moved
      · subst same
        rw [Table.find?_put, if_pos rfl] at found
        cases found
        exact .inl ⟨_, stored, rfl, trivial⟩
      · exact .inl (kept rfl same)
    | acked | retried | givenUp | crashed => exact .inl (erased rfl)
  · rw [(deliveries_kept (fun event same => moves ⟨event, same⟩) taken).1] at found
    exact .inl ⟨delivery, found, rfl, holds⟩

theorem finished_after {event : DeliveryEvent} (taken : step platform world (.delivery event) = some next)
    (ends : event = .deny id ∨ event = .settle id) (found : next.deliveries.find? id = some delivery) :
    ¬ Holds delivery.phase := by
  have moved : DeliveryTaken platform.sendIds world event next := deliveryStep_taken taken
  rcases ends with rfl | rfl
  · cases moved with
    | denied =>
      rw [Table.find?_put, if_pos rfl] at found
      cases found
      exact not_false
  · cases moved with
    | settled =>
      rw [Table.find?_put, if_pos rfl] at found
      cases found
      exact not_false

theorem holdable_step (held : RowsHeld world) (sound : ClaimsSound platform.sendIds world)
    (taken : step platform world label = some next) {before : JobDelivery}
    (stored : world.deliveries.find? id = some before) (holding : Holds before.phase)
    (found : next.deliveries.find? id = some delivery) (holds : Holds delivery.phase) :
    ∃ status, statusOf next.db.sends before.job.intent = some status ∧ Holdable status := by
  obtain ⟨status, row, holdable⟩ := held.present id before stored holding
  cases ledgerTaken_step sound taken with
  | kept same => exact ⟨status, (same _).trans row, holdable⟩
  | moved intent source target was becomes others moves =>
    by_cases same : before.job.intent = intent
    · rw [same, becomes]
      rw [same, was] at row
      cases moves with
      | interrupted | swept | unresolved | resolved => exact ⟨_, rfl, trivial⟩
      | claimed | excluded | walked => cases row
      | denied located =>
        cases held.alone id before _ _ stored located holding trivial same
        exact absurd holds (finished_after taken (.inl rfl) found)
      | released located | recorded source located =>
        cases held.alone id before _ _ stored located holding trivial same
        exact absurd holds (finished_after taken (.inr rfl) found)
    · exact ⟨status, (others _ same).trans row, holdable⟩

theorem rowsHeld_step (held : RowsHeld world) (sound : ClaimsSound platform.sendIds world)
    (taken : step platform world label = some next) : RowsHeld next where
  present id delivery found holds := by
    rcases holder_origin taken found holds with ⟨before, stored, same, holding⟩ | ⟨_, _, inserted⟩
    · rw [← same]
      exact holdable_step held sound taken stored holding found holds
    · exact ⟨.dispatching, inserted, trivial⟩
  alone id delivery other rival found located holds rivals same := by
    rcases holder_origin taken found holds with ⟨before, stored, job, holding⟩ | ⟨rfl, free, _⟩
    · rcases holder_origin taken located rivals with ⟨early, kept, task, rivaling⟩ | ⟨_, free, _⟩
      · exact held.alone id before other early stored kept holding rivaling (by rw [job, task, same])
      · obtain ⟨status, row, _⟩ := held.present id before stored holding
        rw [job, same, free] at row
        cases row
    · rcases holder_origin taken located rivals with ⟨early, kept, task, rivaling⟩ | ⟨delivers, _, _⟩
      · obtain ⟨status, row, _⟩ := held.present other early kept rivaling
        rw [task, ← same, free] at row
        cases row
      · simp only [Label.delivery.injEq, DeliveryEvent.deliver.injEq] at delivers
        exact delivers.1

end Steps

theorem rowsHeld_initial (now : Timestamp) : RowsHeld (initialWorld now) where
  present id delivery found := by cases found
  alone id delivery other rival found := by cases found

end LocalCrm.System
