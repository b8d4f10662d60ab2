import LocalCrm.Contacts.Withdrawal
import LocalCrm.Library.Transition

/-! Sequences of requests and events that write contacts.

A refused request leaves the database as it was.
-/

set_option autoImplicit false

namespace LocalCrm.Contacts

open Library Delivery Webhooks

inductive ContactRequest where
  | create (workspaceId : WorkspaceId) (newId : ContactId) (input : CreateContactInput)
  | update (workspaceId : WorkspaceId) (id : ContactId) (patch : UpdateContactInput)
  | upsert (workspaceId : WorkspaceId) (newId : ContactId) (input : UpsertContactIdentityInput)
  | importRow (workspaceId : WorkspaceId) (newId : ContactId) (duplicatePolicy : DuplicatePolicy)
      (input : UpsertContactIdentityInput)
  | webhookBatch (now : Timestamp) (workspaceId : WorkspaceId) (events : List JsonValue)
  | unsubscribe (now : Timestamp) (workspaceId : WorkspaceId) (contactId : ContactId) (sendId : SendId)
  | elsewhere (other : Database)

/-- Every boundary trims an address and lowers its case before the repository sees it. -/
def Boundary.parse (boundary : Boundary) (input : UpsertContactIdentityInput) : UpsertContactIdentityInput :=
  { input with email := input.email.map boundary.normalizeSuppressionEmail }

def Boundary.parsePatch (boundary : Boundary) (patch : UpdateContactInput) : UpdateContactInput :=
  { patch with email := patch.email.map boundary.normalizeSuppressionEmail }

def committed {Result : Type} (db : Database) (outcome : Except ContactError (Result × Database)) : Database :=
  match outcome with
  | .ok (_, next) => next
  | .error _ => db

/-- Every recorded mail is meant for a contact of its workspace. -/
def sendsOwned (contacts : Table Contact.id) (sends : Sends) : Bool :=
  sends.rows.all fun send =>
    (contacts.find? send.contactId).any fun contact => contact.workspaceId == send.intent.workspaceId

def contactStep (platform : Platform) (boundary : Boundary) (db : Database) : ContactRequest → Option Database
  | .create workspaceId newId input =>
    some (committed db (createContact platform boundary db workspaceId newId (boundary.parse input)))
  | .update workspaceId id patch =>
    match updateContact boundary db workspaceId id (boundary.parsePatch patch) with
    | .ok (some (_, next)) => some next
    | .ok none | .error _ => some db
  | .upsert workspaceId newId input =>
    some (committed db (upsertContactByIdentity platform db workspaceId newId (boundary.parse input)))
  | .importRow workspaceId newId duplicatePolicy input =>
    some (committed db (applyCsvRow platform db workspaceId newId duplicatePolicy (boundary.parse input)))
  | .webhookBatch now workspaceId events => some (processWebhookEventBatch platform now db workspaceId events)
  | .unsubscribe now workspaceId contactId sendId =>
    some (Contacts.unsubscribe platform.sendIds now db workspaceId contactId sendId)
  | .elsewhere other =>
    if sendsOwned db.contacts other.sends then
      some { other with contacts := db.contacts, suppressions := db.suppressions }
    else none

def upsertTarget (boundary : Boundary) (contacts : Table Contact.id) (workspaceId : WorkspaceId)
    (input : UpsertContactIdentityInput) : Option Contact :=
  let parsed := boundary.parse input
  (matchIdentity contacts workspaceId parsed.externalId parsed.email).filter fun existing =>
    (uniqueViolation contacts (upsertedContact contacts existing parsed)).isNone

/-- The existing contact that a request names and is allowed to rewrite. -/
def granted (boundary : Boundary) (contacts : Table Contact.id) : ContactRequest → Option Contact
  | .update workspaceId id patch =>
    let parsed := boundary.parsePatch patch
    (contactOf contacts workspaceId id).filter fun existing =>
      (assertValidTimezone boundary parsed.profile.timezone.join).isNone &&
        (updateRefusal contacts existing parsed).isNone
  | .upsert workspaceId _ input => upsertTarget boundary contacts workspaceId input
  | .importRow workspaceId _ .update input => upsertTarget boundary contacts workspaceId input
  | _ => none

def rewritten (boundary : Boundary) (contacts : Table Contact.id) (existing : Contact) : ContactRequest → Contact
  | .update _ _ patch => patchedContact existing (boundary.parsePatch patch)
  | .upsert _ _ input | .importRow _ _ _ input => upsertedContact contacts existing (boundary.parse input)
  | _ => existing

inductive Stepped (platform : Platform) (boundary : Boundary) (db : Database) (label : ContactRequest) :
    Database → Prop where
  | withdrawn {next : Database} (ungranted : granted boundary db.contacts label = none)
      (withdrawn : Withdrawn platform db next) : Stepped platform boundary db label next
  | elsewhere {next : Database} (ungranted : granted boundary db.contacts label = none)
      (contacts : next.contacts = db.contacts) (suppressions : next.suppressions = db.suppressions) (owned : sendsOwned db.contacts next.sends = true) :
      Stepped platform boundary db label next
  | inserted {next : Database} (ungranted : granted boundary db.contacts label = none) (workspaceId : WorkspaceId)
      (newId : ContactId) (input : UpsertContactIdentityInput) (properties : Properties)
      (inserted : insertContact db (newContact platform db.suppressions workspaceId newId
        (boundary.parse input) properties) = .ok next) :
      Stepped platform boundary db label next
  | rewritten (existing : Contact) (source : String)
      (granted : granted boundary db.contacts label = some existing) :
      Stepped platform boundary db label
        (writeContact db existing (rewritten boundary db.contacts existing label) source)

section Inversion

variable {platform : Platform} {boundary : Boundary} {db next : Database} {label : ContactRequest}
  {workspaceId : WorkspaceId} {newId : ContactId} {input : UpsertContactIdentityInput} {existing : Contact}

theorem committed_map {First Second : Type} (result : First → Second)
    (outcome : Except ContactError (First × Database)) :
    committed db (outcome.map fun (value, next) => (result value, next)) = committed db outcome := by
  cases outcome <;> rfl

theorem upsertTarget_eq_some :
    upsertTarget boundary db.contacts workspaceId input = some existing ↔
      matchIdentity db.contacts workspaceId (boundary.parse input).externalId (boundary.parse input).email =
          some existing ∧
        uniqueViolation db.contacts (upsertedContact db.contacts existing (boundary.parse input)) = none := by
  simp only [upsertTarget, Option.filter_eq_some_iff, Option.isNone_iff_eq_none]

theorem stepped_insert (ungranted : granted boundary db.contacts label = none) {Result : Type}
    (properties : Properties) (result : Result) :
    Stepped platform boundary db label
      (committed db ((insertContact db (newContact platform db.suppressions workspaceId newId (boundary.parse input)
        properties)).map fun next => (result, next))) := by
  cases insertion : insertContact db (newContact platform db.suppressions workspaceId newId (boundary.parse input)
      properties) with
  | error refusal => exact .withdrawn ungranted (.refl db)
  | ok next => exact .inserted ungranted workspaceId newId input properties insertion

theorem stepped_upsert
    (targets : granted boundary db.contacts label = upsertTarget boundary db.contacts workspaceId input)
    (columns : ∀ existing, rewritten boundary db.contacts existing label =
      upsertedContact db.contacts existing (boundary.parse input)) :
    Stepped platform boundary db label
      (committed db (upsertContactByIdentity platform db workspaceId newId (boundary.parse input))) := by
  cases matched : matchIdentity db.contacts workspaceId (boundary.parse input).externalId
      (boundary.parse input).email with
  | none =>
    have ungranted : granted boundary db.contacts label = none := by
      rw [targets, upsertTarget, matched]
      rfl
    rw [upsert_unmatched matched]
    exact stepped_insert ungranted _ _
  | some existing =>
    cases allowed : uniqueViolation db.contacts (upsertedContact db.contacts existing (boundary.parse input)) with
    | some refusal =>
      have ungranted : granted boundary db.contacts label = none := by
        rw [targets]
        simp [upsertTarget, matched, allowed, Option.filter]
      rw [upsert_refused matched allowed]
      exact .withdrawn ungranted (.refl db)
    | none =>
      rw [upsert_matched matched allowed, ← columns existing]
      exact .rewritten existing _ (targets.trans (upsertTarget_eq_some.mpr ⟨matched, allowed⟩))

theorem stepped_update {id : ContactId} {patch : UpdateContactInput}
    (taken : contactStep platform boundary db (.update workspaceId id patch) = some next) :
    Stepped platform boundary db (.update workspaceId id patch) next := by
  simp only [contactStep] at taken
  cases timezone : assertValidTimezone boundary (boundary.parsePatch patch).profile.timezone.join with
  | some refusal =>
    simp only [updateContact, timezone] at taken
    cases taken
    apply Stepped.withdrawn _ (.refl db)
    rw [granted, timezone]
    exact Option.filter_eq_none_iff.mpr fun existing _ checked => Bool.noConfusion checked
  | none =>
    cases found : contactOf db.contacts workspaceId id with
    | none =>
      simp only [updateContact, timezone, found] at taken
      cases taken
      apply Stepped.withdrawn _ (.refl db)
      rw [granted, found]
      rfl
    | some existing =>
      cases allowed : updateRefusal db.contacts existing (boundary.parsePatch patch) with
      | some refusal =>
        simp only [updateContact, timezone, found, allowed] at taken
        cases taken
        apply Stepped.withdrawn _ (.refl db)
        simp [granted, found, timezone, allowed, Option.filter]
      | none =>
        rw [update_granted timezone found allowed] at taken
        cases taken
        apply Stepped.rewritten existing
        simp [granted, found, timezone, allowed]

theorem stepped (taken : contactStep platform boundary db label = some next) :
    Stepped platform boundary db label next := by
  cases label with
  | create workspaceId newId input =>
    cases taken
    unfold createContact
    split
    · exact .withdrawn rfl (.refl db)
    · split
      · exact .withdrawn rfl (.refl db)
      · exact stepped_insert rfl _ _
  | update workspaceId id patch => exact stepped_update taken
  | upsert workspaceId newId input =>
    cases taken
    exact stepped_upsert rfl fun _ => rfl
  | importRow workspaceId newId duplicatePolicy input =>
    cases taken
    cases duplicatePolicy with
    | update =>
      rw [applyCsvRow_update, committed_map]
      exact stepped_upsert rfl fun _ => rfl
    | skip =>
      rw [applyCsvRow_skip]
      split
      · exact .withdrawn rfl (.refl db)
      · next unmatched =>
        rw [committed_map, upsert_unmatched unmatched]
        exact stepped_insert rfl _ _
  | webhookBatch now workspaceId events =>
    cases taken
    exact .withdrawn rfl (withdrawn_of_processWebhookEventBatch events)
  | unsubscribe now workspaceId contactId sendId =>
    cases taken
    exact .withdrawn rfl withdrawn_of_unsubscribe
  | elsewhere other =>
    simp only [contactStep] at taken
    split at taken
    · next owned =>
      cases taken
      exact .elsewhere rfl rfl rfl owned
    · cases taken

theorem step_granted (platform : Platform) (allowed : granted boundary db.contacts label = some existing) :
    ∃ source, contactStep platform boundary db label =
      some (writeContact db existing (rewritten boundary db.contacts existing label) source) := by
  cases label with
  | update workspaceId id patch =>
    obtain ⟨found, checked⟩ := Option.filter_eq_some_iff.mp allowed
    rw [Bool.and_eq_true, Option.isNone_iff_eq_none, Option.isNone_iff_eq_none] at checked
    refine ⟨"manual_ui", ?_⟩
    simp only [contactStep, update_granted checked.1 found checked.2]
    rfl
  | upsert workspaceId newId input =>
    obtain ⟨matched, allowed⟩ := upsertTarget_eq_some.mp allowed
    refine ⟨"csv_or_api_upsert", ?_⟩
    simp only [contactStep, upsert_matched matched allowed]
    rfl
  | importRow workspaceId newId duplicatePolicy input =>
    cases duplicatePolicy with
    | skip => cases allowed
    | update =>
      obtain ⟨matched, allowed⟩ := upsertTarget_eq_some.mp allowed
      refine ⟨"csv_or_api_upsert", ?_⟩
      simp only [contactStep, applyCsvRow_update, committed_map, upsert_matched matched allowed]
      rfl
  | create | webhookBatch | unsubscribe | elsewhere => cases allowed

theorem stored_of_granted (allowed : granted boundary db.contacts label = some existing) :
    db.contacts.find? existing.id = some existing ∧ existing.anonymizedAt = none := by
  have upserted : ∀ workspaceId input, upsertTarget boundary db.contacts workspaceId input = some existing →
      db.contacts.find? existing.id = some existing ∧ existing.anonymizedAt = none := by
    intro workspaceId input target
    obtain ⟨stored, _, live⟩ := stored_of_matchIdentity (upsertTarget_eq_some.mp target).1
    exact ⟨stored, live⟩
  cases label with
  | update workspaceId id patch =>
    obtain ⟨found, checked⟩ := Option.filter_eq_some_iff.mp allowed
    rw [Bool.and_eq_true, Option.isNone_iff_eq_none, Option.isNone_iff_eq_none] at checked
    obtain ⟨stored, _⟩ := contactOf_eq_some.mp found
    have keyed : existing.id = id := Table.key_of_find? stored
    refine ⟨by rw [keyed]; exact stored, ?_⟩
    by_contra anonymized
    have refused := checked.2
    rw [updateRefusal, if_pos (Option.isSome_iff_ne_none.mpr anonymized)] at refused
    cases refused
  | upsert workspaceId newId input => exact upserted workspaceId input allowed
  | importRow workspaceId newId duplicatePolicy input =>
    cases duplicatePolicy with
    | skip => cases allowed
    | update => exact upserted workspaceId input allowed
  | create | webhookBatch | unsubscribe | elsewhere => cases allowed

end Inversion

end LocalCrm.Contacts
