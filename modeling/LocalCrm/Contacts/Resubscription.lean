import LocalCrm.Contacts.Requests

/-! A suppressed contact and the way back onto the list. -/

set_option autoImplicit false

namespace LocalCrm.Contacts

open Library Delivery Webhooks

def contactStatus (db : Database) (id : ContactId) : Option SubscriptionStatus :=
  (db.contacts.find? id).map Contact.subscriptionStatus

def requestedStatus : ContactRequest → Option SubscriptionStatus
  | .update _ _ patch => patch.subscriptionStatus
  | .upsert _ _ input | .importRow _ _ _ input => input.subscriptionStatus
  | _ => none

def Resubscribes (boundary : Boundary) (db : Database) (label : ContactRequest) (id : ContactId) : Prop :=
  ∃ existing, granted boundary db.contacts label = some existing ∧ existing.id = id ∧
    existing.subscriptionStatus = .unsubscribed ∧ requestedStatus label = some .subscribed

def SuppressionSticks (platform : Platform) (boundary : Boundary) (db : Database)
    (requests : List ContactRequest) : Prop :=
  ∀ id earlier middle later first second, requests = earlier ++ middle ++ later →
    run (contactStep platform boundary) db earlier = some first →
    run (contactStep platform boundary) first middle = some second →
    contactStatus first id = some .suppressed → contactStatus second id ≠ some .subscribed

def NeverResubscribed (platform : Platform) (boundary : Boundary) (db : Database)
    (requests : List ContactRequest) : Prop :=
  ∀ id earlier middle label later first second, requests = earlier ++ middle ++ label :: later →
    run (contactStep platform boundary) db earlier = some first →
    run (contactStep platform boundary) first middle = some second →
    contactStatus first id = some .suppressed → ¬ Resubscribes boundary second label id

section Transitions

variable {platform : Platform} {boundary : Boundary} {db next : Database} {label : ContactRequest}
  {existing : Contact} {id : ContactId} {requested : Option SubscriptionStatus} {status : SubscriptionStatus}

theorem upsertedStatus_subscribed :
    upsertedStatus status requested = .subscribed ↔
      (status = .subscribed ∧ requested ≠ some .unsubscribed) ∨
        (status = .unsubscribed ∧ requested = some .subscribed) := by
  cases status <;> rcases requested with _ | requested
  all_goals first | decide | (cases requested <;> decide)

theorem patchedStatus_subscribed (allowed : transitionRefusal status requested = none) :
    requested.getD status = .subscribed ↔
      (status = .subscribed ∧ requested ≠ some .unsubscribed) ∨
        (status = .unsubscribed ∧ requested = some .subscribed) := by
  revert allowed
  cases status <;> rcases requested with _ | requested
  all_goals first | decide | (cases requested <;> decide)

/-- A granted request that leaves the contact subscribed found it so or took it back. -/
theorem rewritten_subscribed (allowed : granted boundary db.contacts label = some existing) :
    (rewritten boundary db.contacts existing label).subscriptionStatus = .subscribed ↔
      (existing.subscriptionStatus = .subscribed ∧ requestedStatus label ≠ some .unsubscribed) ∨
        (existing.subscriptionStatus = .unsubscribed ∧ requestedStatus label = some .subscribed) := by
  cases label with
  | update workspaceId id patch =>
    obtain ⟨_, checked⟩ := Option.filter_eq_some_iff.mp allowed
    rw [Bool.and_eq_true, Option.isNone_iff_eq_none, Option.isNone_iff_eq_none] at checked
    exact patchedStatus_subscribed (update_checked checked.2).1
  | upsert | importRow => exact upsertedStatus_subscribed
  | create | webhookBatch | unsubscribe | elsewhere => cases allowed

end Transitions

section Steps

variable {platform : Platform} {boundary : Boundary} {db next : Database} {label : ContactRequest}
  {existing : Contact} {id : ContactId}

/-- On file, and not subscribed. -/
def OffList (id : ContactId) (db : Database) : Prop :=
  ∃ contact, db.contacts.find? id = some contact ∧ contact.subscriptionStatus ≠ .subscribed

theorem offList_of_suppressed (suppressed : contactStatus db id = some .suppressed) : OffList id db := by
  obtain ⟨contact, stored, status⟩ := Option.map_eq_some_iff.mp suppressed
  exact ⟨contact, stored, by rw [status]; decide⟩

theorem not_subscribed_of_offList (off : OffList id db) : contactStatus db id ≠ some .subscribed := by
  obtain ⟨contact, stored, status⟩ := off
  rw [contactStatus, stored]
  exact fun subscribed => status (Option.some.inj subscribed)

theorem contactStatus_writeContact (allowed : granted boundary db.contacts label = some existing)
    (source : String) :
    contactStatus (writeContact db existing (rewritten boundary db.contacts existing label) source) existing.id =
      some (rewritten boundary db.contacts existing label).subscriptionStatus := by
  rw [contactStatus, find?_writeContact (stored_of_granted allowed).1, if_pos rfl]
  rfl

theorem offList_step (off : OffList id db) (held : ¬ Resubscribes boundary db label id)
    (taken : contactStep platform boundary db label = some next) : OffList id next := by
  obtain ⟨contact, stored, status⟩ := off
  cases stepped taken with
  | withdrawn _ withdrawn =>
    obtain ⟨after, found, lowered⟩ := withdrawn.rel_find?_of stored
    exact ⟨after, found, fun subscribed => status (lowered.subscribed subscribed)⟩
  | elsewhere _ contacts => exact ⟨contact, by rw [contacts]; exact stored, status⟩
  | inserted _ workspaceId newId input properties inserted =>
    refine ⟨contact, ?_, status⟩
    -- the generated id is new, so the contact is another row
    have fresh := (insertContact_eq_ok.mp inserted).1
    rw [find?_insertContact inserted, if_neg]
    · exact stored
    · intro same
      rw [same, fresh] at stored
      cases stored
  | rewritten existing source allowed =>
    have found := (stored_of_granted allowed).1
    by_cases same : id = existing.id
    · subst same
      obtain rfl := Option.some.inj (stored.symm.trans found)
      refine ⟨_, by rw [find?_writeContact found, if_pos rfl], ?_⟩
      intro subscribed
      rcases (rewritten_subscribed allowed).mp subscribed with ⟨already, _⟩ | ⟨unsubscribed, asked⟩
      · exact status already
      · exact held ⟨contact, allowed, rfl, unsubscribed, asked⟩
    · exact ⟨contact, by rw [find?_writeContact found, if_neg same]; exact stored, status⟩

theorem subscribed_of_resubscribes (platform : Platform) (resubscribes : Resubscribes boundary db label id) :
    ∃ next, contactStep platform boundary db label = some next ∧ contactStatus next id = some .subscribed := by
  obtain ⟨existing, allowed, rfl, unsubscribed, asked⟩ := resubscribes
  obtain ⟨source, taken⟩ := step_granted platform allowed
  refine ⟨_, taken, ?_⟩
  rw [contactStatus_writeContact allowed, (rewritten_subscribed allowed).mpr (.inr ⟨unsubscribed, asked⟩)]

end Steps

theorem suppression_sticks_iff_never_resubscribed (platform : Platform) (boundary : Boundary) (db : Database)
    (requests : List ContactRequest) :
    SuppressionSticks platform boundary db requests ↔ NeverResubscribed platform boundary db requests := by
  apply forall_congr'
  intro id
  have enters : ∀ state, contactStatus state id = some .suppressed → OffList id state :=
    fun _ => offList_of_suppressed
  have kept : ∀ state label next, OffList id state → ¬ Resubscribes boundary state label id →
      contactStep platform boundary state label = some next → OffList id next :=
    fun _ _ _ => offList_step
  exact never_bad_iff_never_escapes enters (fun _ => not_subscribed_of_offList) kept
    (fun _ _ => subscribed_of_resubscribes platform) db requests

def suppressedDatabase : Database where
  contacts := (Table.empty : Table Contact.id).insert
    { id := 1, workspaceId := 1, email := some "a@example.com", subscriptionStatus := .suppressed }

def twoPatches : List ContactRequest :=
  [.update 1 1 { subscriptionStatus := some .unsubscribed }, .update 1 1 { subscriptionStatus := some .subscribed }]

theorem two_patches_resubscribe :
    ¬ ∀ db requests, SuppressionSticks pairedPlatform asciiBoundary db requests := by
  intro always
  cases reached : run (contactStep pairedPlatform asciiBoundary) suppressedDatabase twoPatches with
  | none =>
    revert reached
    decide +kernel
  | some final =>
    apply always suppressedDatabase twoPatches 1 [] twoPatches [] suppressedDatabase final rfl rfl reached rfl
    have evaluated : (run (contactStep pairedPlatform asciiBoundary) suppressedDatabase twoPatches).map
        (fun db => contactStatus db 1) = some (some .subscribed) := by decide +kernel
    rw [reached] at evaluated
    exact Option.some.inj evaluated

end LocalCrm.Contacts
