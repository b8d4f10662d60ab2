import LocalCrm.Contacts.Resubscription

/-! A suppressed address and the contacts that have it. -/

set_option autoImplicit false

namespace LocalCrm.Contacts

open Library Delivery Webhooks

/-- What every writer of contacts, suppressions and mails keeps. -/
structure Sound (platform : Platform) (boundary : Boundary) (db : Database) : Prop where
  normalized : ∀ id contact email, db.contacts.find? id = some contact → contact.email = some email →
    boundary.normalizeSuppressionEmail email = email
  emailUnique : ∀ id other contact twin, db.contacts.find? id = some contact → db.contacts.find? other = some twin →
    contact.workspaceId = twin.workspaceId → contact.email.isSome → contact.email = twin.email → id = other
  owned : ∀ workspaceId id, Addressed db.sends workspaceId id →
    ∃ contact, db.contacts.find? id = some contact ∧ contact.workspaceId = workspaceId
  blankUnlisted : ∀ workspaceId, ¬ Listed db.suppressions workspaceId (platform.hashSuppressionEmail workspaceId "")

/-- No live contact whose address is listed is subscribed, and the gate lets none of them be mailed. -/
def SuppressedUnmailable (platform : Platform) (db : Database) : Prop :=
  ∀ id contact email, db.contacts.find? id = some contact → contact.anonymizedAt = none →
    contact.email = some email → isEmailSuppressed platform db.suppressions contact.workspaceId email = true →
      contact.subscriptionStatus ≠ .subscribed ∧
        ∀ now workspaceId, evaluatePreSendGate now db workspaceId contact ≠ .sendable

/-- The address a granted request brings along; a taken one is skipped by an upsert. -/
def incomingEmail (boundary : Boundary) (contacts : Table Contact.id) (existing : Contact) :
    ContactRequest → Option String
  | .update _ _ patch => (boundary.parsePatch patch).email
  | .upsert _ _ input | .importRow _ _ _ input =>
    if emailChangeSkipped contacts existing (boundary.parse input) then none
    else given (boundary.parse input).email
  | _ => none

/-- A granted request gives a listed address to a contact that stays subscribed, or subscribes one that is
listed. -/
def Exposes (platform : Platform) (boundary : Boundary) (db : Database) (label : ContactRequest) : Prop :=
  ∃ existing email, granted boundary db.contacts label = some existing ∧
    (incomingEmail boundary db.contacts existing label).or existing.email = some email ∧
    isEmailSuppressed platform db.suppressions existing.workspaceId email = true ∧
    ((existing.subscriptionStatus = .subscribed ∧ requestedStatus label ≠ some .unsubscribed) ∨
      (existing.subscriptionStatus = .unsubscribed ∧ requestedStatus label = some .subscribed))

section Rewriting

variable {platform : Platform} {boundary : Boundary} {db next : Database} {label : ContactRequest}
  {existing : Contact} {contacts : Table Contact.id} {email : String}

theorem rewritten_email (existing : Contact) (label : ContactRequest) :
    (rewritten boundary contacts existing label).email =
      (incomingEmail boundary contacts existing label).or existing.email := by
  have upserted : ∀ input, (upsertedContact contacts existing input).email =
      (if emailChangeSkipped contacts existing input then none else given input.email).or existing.email := by
    intro input
    simp only [upsertedContact]
    split <;> rfl
  cases label with
  | update | create | webhookBatch | unsubscribe | elsewhere => rfl
  | upsert workspaceId newId input | importRow workspaceId newId duplicatePolicy input =>
    exact upserted (boundary.parse input)

theorem rewritten_workspaceId (existing : Contact) (label : ContactRequest) :
    (rewritten boundary contacts existing label).workspaceId = existing.workspaceId := by
  cases label <;> rfl

theorem assignColumns_rewritten (existing : Contact) (label : ContactRequest) :
    assignColumns (rewritten boundary contacts existing label) existing =
      rewritten boundary contacts existing label := by
  cases label <;> rfl

theorem rewritten_anonymizedAt (existing : Contact) (label : ContactRequest) :
    (rewritten boundary contacts existing label).anonymizedAt = existing.anonymizedAt := by
  cases label <;> rfl

theorem rewritten_id (existing : Contact) (label : ContactRequest) :
    (rewritten boundary contacts existing label).id = existing.id := by
  cases label <;> rfl

theorem unique_of_granted (allowed : granted boundary db.contacts label = some existing) :
    uniqueViolation db.contacts (rewritten boundary db.contacts existing label) = none := by
  cases label with
  | update workspaceId id patch =>
    obtain ⟨_, checked⟩ := Option.filter_eq_some_iff.mp allowed
    rw [Bool.and_eq_true, Option.isNone_iff_eq_none, Option.isNone_iff_eq_none] at checked
    exact (update_checked checked.2).2
  | upsert workspaceId newId input => exact (upsertTarget_eq_some.mp allowed).2
  | importRow workspaceId newId duplicatePolicy input =>
    cases duplicatePolicy with
    | skip => cases allowed
    | update => exact (upsertTarget_eq_some.mp allowed).2
  | create | webhookBatch | unsubscribe | elsewhere => cases allowed

theorem email_differs {row other : Contact} {id : ContactId} (allowed : uniqueViolation contacts row = none)
    (stored : contacts.find? id = some other) (differs : id ≠ row.id)
    (sameWorkspace : other.workspaceId = row.workspaceId) (present : row.email.isSome) :
    other.email ≠ row.email := by
  intro same
  have keyed : other.id = id := Table.key_of_find? stored
  unfold uniqueViolation at allowed
  split at allowed
  · cases allowed
  · next clear =>
    apply clear
    refine List.any_eq_true.mpr ⟨other, Table.mem_of_find? stored, ?_⟩
    simp [keyed, differs, sameWorkspace, present, same]

theorem find?_rewritten (allowed : granted boundary db.contacts label = some existing) (source : String)
    (id : ContactId) :
    (writeContact db existing (rewritten boundary db.contacts existing label) source).contacts.find? id =
      if id = existing.id then some (rewritten boundary db.contacts existing label) else db.contacts.find? id := by
  rw [find?_writeContact (stored_of_granted allowed).1, assignColumns_rewritten]

theorem isEmailSuppressed_iff {suppressions : Table Suppression.key} {workspaceId : WorkspaceId} :
    isEmailSuppressed platform suppressions workspaceId email = true ↔
      Listed suppressions workspaceId (platform.hashSuppressionEmail workspaceId email) := Iff.rfl

theorem gate_closed {contact : Contact} (off : contact.subscriptionStatus ≠ .subscribed) (now : Timestamp)
    (db : Database) (workspaceId : WorkspaceId) : evaluatePreSendGate now db workspaceId contact ≠ .sendable := by
  unfold evaluatePreSendGate
  cases status : contact.subscriptionStatus with
  | subscribed => exact absurd status off
  | unsubscribed | suppressed => simp

end Rewriting

section Soundness

variable {platform : Platform} {boundary : Boundary} {db next : Database} {label : ContactRequest}

/-- Equal hashes mean one address, since stored addresses are normalized. -/
def HashesNormalized (platform : Platform) (boundary : Boundary) : Prop :=
  ∀ workspaceId left right,
    platform.hashSuppressionEmail workspaceId left = platform.hashSuppressionEmail workspaceId right ↔
      boundary.normalizeSuppressionEmail left = boundary.normalizeSuppressionEmail right

theorem sound_of_withdrawn (hashes : HashesNormalized platform boundary) (sound : Sound platform boundary db)
    (withdrawn : Withdrawn platform db next) : Sound platform boundary next where
  normalized := by
    intro id contact email stored has
    obtain ⟨before, found, lowered⟩ := withdrawn.rel_find? stored
    exact sound.normalized id before email found (lowered.email.symm.trans has)
  emailUnique := by
    intro id other contact twin stored twinStored sameWorkspace present same
    obtain ⟨before, found, lowered⟩ := withdrawn.rel_find? stored
    obtain ⟨twinBefore, twinFound, twinLowered⟩ := withdrawn.rel_find? twinStored
    rw [lowered.workspaceId, twinLowered.workspaceId] at sameWorkspace
    rw [lowered.email] at present same
    rw [twinLowered.email] at same
    exact sound.emailUnique id other before twinBefore found twinFound sameWorkspace present same
  owned := by
    intro workspaceId id addressed
    obtain ⟨contact, stored, owner⟩ :=
      sound.owned workspaceId id ((DeliveryKept.addressed_iff withdrawn.delivery).mp addressed)
    obtain ⟨after, found, lowered⟩ := withdrawn.rel_find?_of stored
    exact ⟨after, found, lowered.workspaceId.trans owner⟩
  blankUnlisted := by
    intro workspaceId listed
    rcases withdrawn.listed workspaceId _ listed with already | ⟨contact, email, reason⟩
    · exact sound.blankUnlisted workspaceId already
    · obtain ⟨before, found, lowered⟩ := withdrawn.rel_find? reason.stored
      have normalized := sound.normalized _ before email found (lowered.email.symm.trans reason.has)
      have same := (hashes workspaceId email "").mp reason.hashed
      rw [normalized, boundary.normalize_empty] at same
      exact reason.nonempty same

theorem sound_of_written {row : Contact} {place : ContactId} (sound : Sound platform boundary db)
    (looked : ∀ id, next.contacts.find? id = if id = place then some row else db.contacts.find? id)
    (apart : ∀ id other, id ≠ place → db.contacts.find? id = some other → other.workspaceId = row.workspaceId →
      row.email.isSome → other.email ≠ row.email)
    (normalized : ∀ email, row.email = some email → boundary.normalizeSuppressionEmail email = email)
    (owner : ∀ contact, db.contacts.find? place = some contact → row.workspaceId = contact.workspaceId)
    (sends : next.sends = db.sends) (suppressions : next.suppressions = db.suppressions) :
    Sound platform boundary next where
  normalized := by
    intro id contact email stored has
    rw [looked] at stored
    split at stored
    · obtain rfl := Option.some.inj stored
      exact normalized email has
    · exact sound.normalized id contact email stored has
  emailUnique := by
    intro id other contact twin stored twinStored sameWorkspace present same
    rw [looked] at stored twinStored
    split at stored <;> split at twinStored
    · next first second => exact first.trans second.symm
    · next first second =>
      obtain rfl := Option.some.inj stored
      exact absurd same.symm (apart other twin second twinStored sameWorkspace.symm present)
    · next first second =>
      obtain rfl := Option.some.inj twinStored
      exact absurd same (apart id contact first stored sameWorkspace (same ▸ present))
    · exact sound.emailUnique id other contact twin stored twinStored sameWorkspace present same
  owned := by
    intro workspaceId id addressed
    rw [sends] at addressed
    obtain ⟨contact, stored, owned⟩ := sound.owned workspaceId id addressed
    rw [looked]
    split
    · next same =>
      subst same
      exact ⟨row, rfl, (owner contact stored).trans owned⟩
    · exact ⟨contact, stored, owned⟩
  blankUnlisted := by
    rw [suppressions]
    exact sound.blankUnlisted

theorem sound_of_inserted {row : Contact}
    (sound : Sound platform boundary db)
    (normalized : ∀ email, row.email = some email → boundary.normalizeSuppressionEmail email = email)
    (inserted : insertContact db row = .ok next) : Sound platform boundary next := by
  have looked : ∀ id, next.contacts.find? id = if id = row.id then some row else db.contacts.find? id :=
    fun _ => find?_insertContact inserted
  obtain ⟨fresh, unique, rfl⟩ := insertContact_eq_ok.mp inserted
  apply sound_of_written sound looked _ normalized _ rfl rfl
  · exact fun id other differs stored sameWorkspace present =>
      email_differs unique stored differs sameWorkspace present
  · intro contact stored
    rw [fresh] at stored
    cases stored

theorem incomingEmail_normalized {contacts : Table Contact.id} {existing : Contact} {email : String}
    (incoming : incomingEmail boundary contacts existing label = some email) :
    boundary.normalizeSuppressionEmail email = email := by
  have parsed : ∀ raw : Option String, raw.map boundary.normalizeSuppressionEmail = some email →
      boundary.normalizeSuppressionEmail email = email := by
    intro raw same
    obtain ⟨text, _, rfl⟩ := Option.map_eq_some_iff.mp same
    exact boundary.normalize_normalize text
  have upserted : ∀ input, (if emailChangeSkipped contacts existing (boundary.parse input) then none
      else given (boundary.parse input).email) = some email → boundary.normalizeSuppressionEmail email = email := by
    intro input same
    split at same
    · cases same
    · exact parsed input.email (given_eq_some.mp same).1
  cases label with
  | update workspaceId id patch => exact parsed patch.email incoming
  | upsert workspaceId newId input | importRow workspaceId newId duplicatePolicy input => exact upserted input incoming
  | create | webhookBatch | unsubscribe | elsewhere => cases incoming

theorem sound_of_rewritten {existing : Contact} (sound : Sound platform boundary db)
    (allowed : granted boundary db.contacts label = some existing) (source : String) :
    Sound platform boundary (writeContact db existing (rewritten boundary db.contacts existing label) source) := by
  obtain ⟨found, _⟩ := stored_of_granted allowed
  apply sound_of_written sound (find?_rewritten allowed source) _ _ _ (sends_writeContact ..)
    (suppressions_writeContact ..)
  · intro id other differs stored sameWorkspace present
    apply email_differs (unique_of_granted allowed) stored _ _ present
    · rw [rewritten_id]
      exact differs
    · exact sameWorkspace
  · intro email has
    rw [rewritten_email] at has
    rcases Option.or_eq_some_iff.mp has with incoming | ⟨_, kept⟩
    · exact incomingEmail_normalized incoming
    · exact sound.normalized existing.id existing email found kept
  · intro contact stored
    obtain rfl := Option.some.inj (found.symm.trans stored)
    exact rewritten_workspaceId _ _

theorem sound_of_elsewhere (sound : Sound platform boundary db) (contacts : next.contacts = db.contacts)
    (suppressions : next.suppressions = db.suppressions) (owned : sendsOwned db.contacts next.sends = true) :
    Sound platform boundary next where
  normalized := by
    rw [contacts]
    exact sound.normalized
  emailUnique := by
    rw [contacts]
    exact sound.emailUnique
  owned := by
    intro workspaceId id addressed
    obtain ⟨intent, send, found, owner, rfl⟩ := addressed
    have recorded := List.all_eq_true.mp owned send (Table.mem_of_find? found)
    obtain ⟨contact, stored, same⟩ := (Option.any_eq_true _ _).mp recorded
    rw [contacts]
    exact ⟨contact, stored, (eq_of_beq same).trans owner⟩
  blankUnlisted := by
    rw [suppressions]
    exact sound.blankUnlisted

theorem newContact_normalized {workspaceId : WorkspaceId} {newId : ContactId} {input : UpsertContactIdentityInput}
    {properties : Properties} {suppressions : Table Suppression.key} (email : String)
    (has : (newContact platform suppressions workspaceId newId (boundary.parse input) properties).email =
      some email) : boundary.normalizeSuppressionEmail email = email := by
  obtain ⟨text, _, rfl⟩ := Option.map_eq_some_iff.mp has
  exact boundary.normalize_normalize text

theorem sound_step (hashes : HashesNormalized platform boundary) (sound : Sound platform boundary db)
    (taken : contactStep platform boundary db label = some next) : Sound platform boundary next := by
  cases stepped taken with
  | withdrawn _ withdrawn => exact sound_of_withdrawn hashes sound withdrawn
  | elsewhere _ contacts suppressions owned => exact sound_of_elsewhere sound contacts suppressions owned
  | inserted _ workspaceId newId input properties inserted =>
    exact sound_of_inserted sound newContact_normalized inserted
  | rewritten existing source allowed => exact sound_of_rewritten sound allowed source

end Soundness

section Safety

variable {platform : Platform} {boundary : Boundary} {db next : Database} {label : ContactRequest}

theorem unmailable_of_status
    (off : ∀ id contact email, db.contacts.find? id = some contact → contact.anonymizedAt = none →
      contact.email = some email → isEmailSuppressed platform db.suppressions contact.workspaceId email = true →
        contact.subscriptionStatus ≠ .subscribed) : SuppressedUnmailable platform db := by
  intro id contact email stored live has listed
  have status := off id contact email stored live has listed
  exact ⟨status, fun now workspaceId => gate_closed status now db workspaceId⟩

theorem unmailable_of_withdrawn (hashes : HashesNormalized platform boundary) (after : Sound platform boundary next)
    (safe : SuppressedUnmailable platform db) (withdrawn : Withdrawn platform db next) :
    SuppressedUnmailable platform next := by
  apply unmailable_of_status
  intro id contact email stored live has listed subscribed
  obtain ⟨before, found, lowered⟩ := withdrawn.rel_find? stored
  rcases withdrawn.listed _ _ (isEmailSuppressed_iff.mp listed) with already | ⟨reason, address, why⟩
  · rw [lowered.workspaceId] at already
    exact (safe id before email found (lowered.anonymizedAt.symm.trans live) (lowered.email.symm.trans has)
      (isEmailSuppressed_iff.mpr (by rw [← lowered.workspaceId] at already ⊢; exact already))).1
      (lowered.subscribed subscribed)
  · obtain ⟨holder, holderStored, owner⟩ := after.owned _ _ why.addressed
    obtain rfl := Option.some.inj (why.stored.symm.trans holderStored)
    have same := (hashes _ address email).mp why.hashed
    rw [after.normalized _ _ _ why.stored why.has, after.normalized _ _ _ stored has] at same
    subst same
    have identical : reason.id = id :=
      after.emailUnique _ _ _ _ why.stored stored owner (by rw [why.has]; rfl) (why.has.trans has.symm)
    subst identical
    obtain rfl := Option.some.inj (why.stored.symm.trans stored)
    exact why.off subscribed

theorem unmailable_of_inserted (sound : Sound platform boundary db) (safe : SuppressedUnmailable platform db)
    {workspaceId : WorkspaceId} {newId : ContactId} {input : UpsertContactIdentityInput} {properties : Properties}
    (inserted : insertContact db (newContact platform db.suppressions workspaceId newId (boundary.parse input)
      properties) = .ok next) : SuppressedUnmailable platform next := by
  apply unmailable_of_status
  intro id contact email stored live has listed
  have suppressions : next.suppressions = db.suppressions := by
    obtain ⟨_, _, rfl⟩ := insertContact_eq_ok.mp inserted
    rfl
  rw [suppressions] at listed
  rw [find?_insertContact inserted] at stored
  split at stored
  · obtain rfl := Option.some.inj stored
    have nonempty : email ≠ "" := by
      rintro rfl
      exact sound.blankUnlisted _ (isEmailSuppressed_iff.mp listed)
    have address : given (boundary.parse input).email = some email := given_eq_some.mpr ⟨has, nonempty⟩
    have status : (newContact platform db.suppressions workspaceId newId (boundary.parse input)
        properties).subscriptionStatus = .suppressed := by
      show (if (given (boundary.parse input).email).any (isEmailSuppressed platform db.suppressions workspaceId) then _
        else _) = _
      rw [address]
      exact if_pos listed
    rw [status]
    decide
  · exact (safe id contact email stored live has listed).1

theorem unmailable_rewritten_iff {existing : Contact} (safe : SuppressedUnmailable platform db)
    (allowed : granted boundary db.contacts label = some existing) (source : String) :
    SuppressedUnmailable platform
        (writeContact db existing (rewritten boundary db.contacts existing label) source) ↔
      ¬ Exposes platform boundary db label := by
  have looked := find?_rewritten allowed source
  obtain ⟨found, live⟩ := stored_of_granted allowed
  constructor
  · rintro closed ⟨named, email, named_, address, listed, status⟩
    obtain rfl := Option.some.inj (allowed.symm.trans named_)
    have subscribed := (rewritten_subscribed allowed).mpr status
    refine (closed existing.id _ email (by rw [looked, if_pos rfl]) ?_ ?_ ?_).1 subscribed
    · rw [rewritten_anonymizedAt, live]
    · rw [rewritten_email, address]
    · rw [suppressions_writeContact, rewritten_workspaceId]
      exact listed
  · intro held
    apply unmailable_of_status
    intro id contact email stored live has listed
    rw [suppressions_writeContact] at listed
    rw [looked] at stored
    split at stored
    · obtain rfl := Option.some.inj stored
      rw [rewritten_email] at has
      rw [rewritten_workspaceId] at listed
      intro subscribed
      exact held ⟨existing, email, allowed, has, listed, (rewritten_subscribed allowed).mp subscribed⟩
    · exact (safe id contact email stored live has listed).1

theorem unmailable_step_iff (hashes : HashesNormalized platform boundary) (sound : Sound platform boundary db)
    (safe : SuppressedUnmailable platform db) (taken : contactStep platform boundary db label = some next) :
    SuppressedUnmailable platform next ↔ ¬ Exposes platform boundary db label := by
  have after := sound_step hashes sound taken
  have idle : granted boundary db.contacts label = none → ¬ Exposes platform boundary db label := by
    rintro ungranted ⟨existing, _, allowed, _⟩
    rw [ungranted] at allowed
    cases allowed
  cases stepped taken with
  | withdrawn ungranted withdrawn =>
    exact iff_of_true (unmailable_of_withdrawn hashes after safe withdrawn) (idle ungranted)
  | elsewhere ungranted contacts suppressions owned =>
    apply iff_of_true _ (idle ungranted)
    apply unmailable_of_status
    intro id contact email stored live has listed
    rw [contacts] at stored
    rw [suppressions] at listed
    exact (safe id contact email stored live has listed).1
  | inserted ungranted workspaceId newId input properties inserted =>
    exact iff_of_true (unmailable_of_inserted sound safe inserted) (idle ungranted)
  | rewritten existing source allowed => exact unmailable_rewritten_iff safe allowed source

end Safety

/-- Every state of a run keeps suppressed addresses unmailable exactly when no step exposes one. -/
theorem suppressed_unmailable_iff_never_exposed (platform : Platform) (boundary : Boundary)
    (hashes : HashesNormalized platform boundary) (db : Database) (sound : Sound platform boundary db)
    (safe : SuppressedUnmailable platform db) (requests : List ContactRequest) :
    Along (contactStep platform boundary) (fun _ _ next => SuppressedUnmailable platform next) db requests ↔
      Along (contactStep platform boundary) (fun state label _ => ¬ Exposes platform boundary state label) db
        requests := by
  have both : Along (contactStep platform boundary)
      (fun _ _ next => Sound platform boundary next ∧ SuppressedUnmailable platform next) db requests ↔
      Along (contactStep platform boundary) (fun state label _ => ¬ Exposes platform boundary state label) db
        requests := by
    apply along_invariant_iff _ ⟨sound, safe⟩
    intro state label next holds taken
    rw [and_iff_right (sound_step hashes holds.1 taken)]
    exact unmailable_step_iff hashes holds.1 holds.2 taken
  rw [← both]
  -- soundness is kept anyway, so it may be dropped
  have kept : ∀ state label next, Sound platform boundary state →
      contactStep platform boundary state label = some next → Sound platform boundary next :=
    fun _ _ _ => sound_step hashes
  apply along_congr kept _ sound
  intro state label next holds taken
  rw [and_iff_right (kept state label next holds taken)]

section Exposure

def normalizingPlatform (boundary : Boundary) : Platform :=
  { pairedPlatform with hashSuppressionEmail := fun _ email => boundary.normalizeSuppressionEmail email }

def listedDatabase : Database where
  contacts := (Table.empty : Table Contact.id).insert { id := 1, workspaceId := 1, email := some "a@example.com" }
  suppressions := (Table.empty : Table Suppression.key).insert
    { workspaceId := 1, emailHash := "b@example.com", reason := "hard_bounce" }

theorem contact_of_listedDatabase {id : ContactId} {contact : Contact}
    (stored : listedDatabase.contacts.find? id = some contact) :
    id = 1 ∧ contact = { id := 1, workspaceId := 1, email := some "a@example.com" } := by
  have keyed : contact.id = id := Table.key_of_find? stored
  have only : contact ∈ [{ id := 1, workspaceId := 1, email := some "a@example.com" }] := Table.mem_of_find? stored
  rw [List.mem_singleton] at only
  rw [only] at keyed
  exact ⟨keyed.symm, only⟩

theorem sound_listedDatabase : Sound (normalizingPlatform asciiBoundary) asciiBoundary listedDatabase where
  normalized := by
    intro id contact email stored has
    obtain ⟨_, rfl⟩ := contact_of_listedDatabase stored
    cases has
    decide +kernel
  emailUnique := by
    intro id other contact twin stored twinStored _ _ _
    rw [(contact_of_listedDatabase stored).1, (contact_of_listedDatabase twinStored).1]
  owned := by
    rintro workspaceId id ⟨intent, send, found, _⟩
    cases found
  blankUnlisted := by
    intro workspaceId listed
    obtain ⟨suppression, found⟩ := Option.isSome_iff_exists.mp listed
    have keyed := Table.key_of_find? found
    have only : suppression ∈ [{ workspaceId := 1, emailHash := "b@example.com", reason := "hard_bounce" }] :=
      Table.mem_of_find? found
    rw [List.mem_singleton] at only
    subst only
    have blank : "b@example.com" = asciiBoundary.normalizeSuppressionEmail "" := congrArg Prod.snd keyed
    revert blank
    decide +kernel

theorem safe_listedDatabase : SuppressedUnmailable (normalizingPlatform asciiBoundary) listedDatabase := by
  intro id contact email stored live has listed
  obtain ⟨_, rfl⟩ := contact_of_listedDatabase stored
  cases has
  exact absurd listed (by decide +kernel)

def renameToListed : List ContactRequest := [.update 1 1 { email := some "b@example.com" }]

/-- The equivalence at that database and request. -/
theorem suppressed_unmailable_iff_rename :
    Along (contactStep (normalizingPlatform asciiBoundary) asciiBoundary)
        (fun _ _ next => SuppressedUnmailable (normalizingPlatform asciiBoundary) next) listedDatabase renameToListed ↔
      Along (contactStep (normalizingPlatform asciiBoundary) asciiBoundary)
        (fun state label _ => ¬ Exposes (normalizingPlatform asciiBoundary) asciiBoundary state label) listedDatabase
        renameToListed :=
  suppressed_unmailable_iff_never_exposed _ _ (fun _ _ _ => Iff.rfl) _ sound_listedDatabase safe_listedDatabase _

theorem rename_exposes_listed_address :
    ¬ ∀ platform boundary db requests, HashesNormalized platform boundary → Sound platform boundary db →
      SuppressedUnmailable platform db →
        Along (contactStep platform boundary) (fun _ _ next => SuppressedUnmailable platform next) db requests := by
  intro always
  have along := always (normalizingPlatform asciiBoundary) asciiBoundary listedDatabase renameToListed
    (fun _ _ _ => Iff.rfl) sound_listedDatabase safe_listedDatabase
  obtain ⟨next, taken⟩ : ∃ next, contactStep (normalizingPlatform asciiBoundary) asciiBoundary listedDatabase
      (.update 1 1 { email := some "b@example.com" }) = some next :=
    Option.isSome_iff_exists.mp (by decide +kernel)
  have exposes : Exposes (normalizingPlatform asciiBoundary) asciiBoundary listedDatabase
      (.update 1 1 { email := some "b@example.com" }) :=
    ⟨{ id := 1, workspaceId := 1, email := some "a@example.com" }, "b@example.com", by decide +kernel,
      by decide +kernel, by decide +kernel, .inl ⟨rfl, by decide⟩⟩
  exact (unmailable_step_iff (fun _ _ _ => Iff.rfl) sound_listedDatabase safe_listedDatabase taken).mp
    (along next taken).1 exposes

end Exposure

end LocalCrm.Contacts
