import LocalCrm.Contacts.Repository
import LocalCrm.Webhooks.DeliveryFrame

/-! What provider events and unsubscriptions do to contacts and to the suppression list. -/

set_option autoImplicit false

namespace LocalCrm.Contacts

open Library Analytics Delivery Webhooks

/-- The status is kept or is not `subscribed`; only it and the bounce streak may change. -/
structure Lowered (before after : Contact) : Prop where
  columns : { before with
    subscriptionStatus := after.subscriptionStatus
    consecutiveSoftBounces := after.consecutiveSoftBounces } = after
  status : after.subscriptionStatus = before.subscriptionStatus ∨ after.subscriptionStatus ≠ .subscribed

namespace Lowered

variable {before between after : Contact}

theorem refl (contact : Contact) : Lowered contact contact := ⟨rfl, .inl rfl⟩

theorem trans (first : Lowered before between) (second : Lowered between after) : Lowered before after where
  columns := by
    rw [← second.columns, ← first.columns]
  status := by
    rcases second.status with same | lowered
    · rw [same]
      exact first.status
    · exact .inr lowered

theorem email (lowered : Lowered before after) : after.email = before.email := by
  rw [← lowered.columns]

theorem workspaceId (lowered : Lowered before after) : after.workspaceId = before.workspaceId := by
  rw [← lowered.columns]

theorem anonymizedAt (lowered : Lowered before after) : after.anonymizedAt = before.anonymizedAt := by
  rw [← lowered.columns]

theorem subscribed (lowered : Lowered before after) (subscribed : after.subscriptionStatus = .subscribed) :
    before.subscriptionStatus = .subscribed := by
  rcases lowered.status with same | differs
  · rw [← same, subscribed]
  · exact absurd subscribed differs

end Lowered

def Addressed (sends : Sends) (workspaceId : WorkspaceId) (contactId : ContactId) : Prop :=
  ∃ intent send, sends.find? intent = some send ∧ send.intent.workspaceId = workspaceId ∧ send.contactId = contactId

def Listed (suppressions : Table Suppression.key) (workspaceId : WorkspaceId) (emailHash : String) : Prop :=
  (suppressions.find? (workspaceId, emailHash)).isSome

/-- A reason why an address got listed: a contact that has it, was mailed and is off the list. -/
structure Reason (platform : Platform) (db : Database) (workspaceId : WorkspaceId) (emailHash : String)
    (contact : Contact) (email : String) : Prop where
  stored : db.contacts.find? contact.id = some contact
  addressed : Addressed db.sends workspaceId contact.id
  has : contact.email = some email
  nonempty : email ≠ ""
  hashed : platform.hashSuppressionEmail workspaceId email = emailHash
  off : contact.subscriptionStatus ≠ .subscribed

structure Withdrawn (platform : Platform) (db next : Database) : Prop where
  delivery : DeliveryKept db next
  contacts : ∀ id, Option.Rel Lowered (db.contacts.find? id) (next.contacts.find? id)
  listed : ∀ workspaceId emailHash, Listed next.suppressions workspaceId emailHash →
    Listed db.suppressions workspaceId emailHash ∨
      ∃ contact email, Reason platform next workspaceId emailHash contact email

theorem DeliveryKept.addressed {db next : Database} (kept : DeliveryKept db next) {workspaceId : WorkspaceId}
    {contactId : ContactId} (addressed : Addressed db.sends workspaceId contactId) :
    Addressed next.sends workspaceId contactId := by
  obtain ⟨intent, send, found, owner, recipient⟩ := addressed
  have columns := kept.sends intent
  rw [found, Option.map_some, Option.map_eq_some_iff] at columns
  obtain ⟨send', found', same⟩ := columns
  have sameIntent : (ledgerColumns send').intent = (ledgerColumns send).intent := congrArg Send.intent same
  have sameContact : (ledgerColumns send').contactId = (ledgerColumns send).contactId :=
    congrArg Send.contactId same
  exact ⟨intent, send', found', (congrArg SendIntent.workspaceId sameIntent).trans owner, sameContact.trans recipient⟩

theorem DeliveryKept.addressed_iff {db next : Database} (kept : DeliveryKept db next) {workspaceId : WorkspaceId}
    {contactId : ContactId} :
    Addressed next.sends workspaceId contactId ↔ Addressed db.sends workspaceId contactId := by
  constructor
  · intro addressed
    exact DeliveryKept.addressed kept.symm addressed
  · exact DeliveryKept.addressed kept

namespace Withdrawn

variable {platform : Platform} {db next last : Database}

theorem rel_find? (withdrawn : Withdrawn platform db next) {id : ContactId} {contact : Contact}
    (found : next.contacts.find? id = some contact) :
    ∃ before, db.contacts.find? id = some before ∧ Lowered before contact := by
  have related := withdrawn.contacts id
  rw [found] at related
  generalize db.contacts.find? id = stored at related ⊢
  cases related with
  | some lowered => exact ⟨_, rfl, lowered⟩

theorem rel_find?_of (withdrawn : Withdrawn platform db next) {id : ContactId} {contact : Contact}
    (found : db.contacts.find? id = some contact) :
    ∃ after, next.contacts.find? id = some after ∧ Lowered contact after := by
  have related := withdrawn.contacts id
  rw [found] at related
  generalize next.contacts.find? id = stored at related ⊢
  cases related with
  | some lowered => exact ⟨_, rfl, lowered⟩

theorem of_kept (kept : DeliveryKept db next) (contacts : next.contacts = db.contacts)
    (suppressions : next.suppressions = db.suppressions) : Withdrawn platform db next where
  delivery := kept
  contacts id := by
    rw [contacts]
    cases db.contacts.find? id with
    | none => exact .none
    | some contact => exact .some (.refl contact)
  listed workspaceId emailHash listed := by
    rw [suppressions] at listed
    exact .inl listed

theorem refl (db : Database) : Withdrawn platform db db := of_kept (.refl db) rfl rfl

theorem trans (first : Withdrawn platform db next) (second : Withdrawn platform next last) :
    Withdrawn platform db last where
  delivery := first.delivery.trans second.delivery
  contacts id := by
    cases stored : last.contacts.find? id with
    | none =>
      cases before : db.contacts.find? id with
      | none => exact .none
      | some contact =>
        obtain ⟨between, found, _⟩ := first.rel_find?_of before
        obtain ⟨after, present, _⟩ := second.rel_find?_of found
        rw [stored] at present
        cases present
    | some after =>
      obtain ⟨between, found, lowered⟩ := second.rel_find? stored
      obtain ⟨before, present, earlier⟩ := first.rel_find? found
      rw [present]
      exact .some (earlier.trans lowered)
  listed workspaceId emailHash listed := by
    rcases second.listed workspaceId emailHash listed with already | reason
    · rcases first.listed workspaceId emailHash already with old | ⟨contact, email, reason⟩
      · exact .inl old
      · -- the contact of the first write is still off the list after the second
        obtain ⟨after, stored, lowered⟩ := second.rel_find?_of reason.stored
        have sameId : after.id = contact.id := Table.key_of_find? stored
        refine .inr ⟨after, email, ?_, ?_, ?_, reason.nonempty, reason.hashed, ?_⟩
        · rw [sameId]
          exact stored
        · rw [sameId]
          exact DeliveryKept.addressed second.delivery reason.addressed
        · rw [lowered.email, reason.has]
        · intro subscribed
          exact reason.off (lowered.subscribed subscribed)
    · exact .inr reason

end Withdrawn

section Writes

variable {platform : Platform} {ids : SendIdScheme} {now : Timestamp} {db : Database} {workspaceId : WorkspaceId}
  {contactId : ContactId} {send : ResolvedSend} {sendId : SendId} {occurredAt : Timestamp}

theorem rel_setSubscriptionStatus {status : SubscriptionStatus} (lowers : status ≠ .subscribed) (id : ContactId) :
    Option.Rel Lowered (db.contacts.find? id) ((setSubscriptionStatus db contactId status).contacts.find? id) := by
  apply Table.rel_update Lowered.refl
  · intro contact _
    exact ⟨rfl, .inr lowers⟩
  · intro contact
    rfl

theorem withdrawn_of_setSoftBounceStreak (streak : Nat → Nat) :
    Withdrawn platform db (setSoftBounceStreak db contactId streak) where
  delivery := kept_of_setSoftBounceStreak streak
  contacts id := by
    apply Table.rel_update Lowered.refl
    · intro contact _
      exact ⟨rfl, .inl rfl⟩
    · intro contact
      rfl
  listed _ _ listed := .inl listed

theorem withdrawn_of_recordUnsubscribe (source : String) :
    Withdrawn platform db (recordUnsubscribe db workspaceId contactId source) := by
  unfold recordUnsubscribe
  split
  · exact .refl db
  · split
    · exact
        { delivery := ⟨fun _ => rfl, fun _ => rfl, rfl, rfl⟩
          contacts := rel_setSubscriptionStatus (by decide)
          listed := fun _ _ listed => .inl listed }
    · exact .refl db

theorem suppressions_recordUnsubscribe (source : String) :
    (recordUnsubscribe db workspaceId contactId source).suppressions = db.suppressions := by
  unfold recordUnsubscribe
  split
  · rfl
  · split <;> rfl

theorem withdrawn_of_applyUnsubscribe (source : String) :
    Withdrawn platform db
      (applyUnsubscribeWithSendFact ids db workspaceId contactId sendId occurredAt source).2.2 := by
  have kept : DeliveryKept db
      (applyUnsubscribeWithSendFact ids db workspaceId contactId sendId occurredAt source).2.2 :=
    kept_of_applyUnsubscribe source
  have recorded : Withdrawn platform db (recordUnsubscribe db workspaceId contactId source) :=
    withdrawn_of_recordUnsubscribe source
  cases resolved : resolveSend ids db.sends workspaceId sendId with
  | none =>
    rw [applyUnsubscribe_none resolved]
    exact recorded
  | some send =>
    rw [applyUnsubscribe_some resolved] at kept ⊢
    refine { delivery := kept, contacts := recorded.contacts, listed := ?_ }
    intro owner emailHash listed
    left
    rw [← suppressions_recordUnsubscribe source]
    exact listed

section Suppression

variable {contact : Contact}

theorem contacts_applySuppression (found : db.contacts.find? contactId = some contact) (reason : String) :
    (applySuppression platform db workspaceId contactId reason).contacts =
      (setSubscriptionStatus db contactId .suppressed).contacts := by
  simp only [applySuppression, found]
  split <;> split <;> rfl

theorem suppressions_applySuppression (found : db.contacts.find? contactId = some contact) (reason : String) :
    (applySuppression platform db workspaceId contactId reason).suppressions =
      if truthy contact.email then
        db.suppressions.insert
          { workspaceId, emailHash := platform.hashSuppressionEmail workspaceId (contact.email.getD ""), reason }
      else db.suppressions := by
  simp only [applySuppression, found]
  split <;> split <;> rfl

theorem withdrawn_of_applySuppression (reason : String) (addressed : Addressed db.sends workspaceId contactId) :
    Withdrawn platform db (applySuppression platform db workspaceId contactId reason) := by
  have kept : DeliveryKept db (applySuppression platform db workspaceId contactId reason) :=
    kept_of_applySuppression reason
  cases found : db.contacts.find? contactId with
  | none =>
    unfold applySuppression
    rw [found]
    exact .refl db
  | some contact =>
    have sameId : contact.id = contactId := Table.key_of_find? found
    have contacts : (applySuppression platform db workspaceId contactId reason).contacts =
        (setSubscriptionStatus db contactId .suppressed).contacts := contacts_applySuppression found reason
    have suppressed : (setSubscriptionStatus db contactId .suppressed).contacts.find? contactId =
        some { contact with subscriptionStatus := .suppressed } := by
      simp [setSubscriptionStatus, Table.find?_update, found, sameId]
    refine { delivery := kept, contacts := ?_, listed := ?_ }
    · rw [contacts]
      exact rel_setSubscriptionStatus (by decide)
    · intro owner emailHash listed
      rw [suppressions_applySuppression found reason] at listed
      cases present : truthy contact.email with
      | false =>
        rw [present] at listed
        exact .inl listed
      | true =>
        obtain ⟨email, has⟩ : ∃ email, contact.email = some email := by
          cases hasEmail : contact.email with
          | none =>
            rw [hasEmail] at present
            cases present
          | some email => exact ⟨email, rfl⟩
        rw [if_pos present, has] at listed
        unfold Listed at listed
        rw [Table.find?_insert, Option.isSome_or, Bool.or_eq_true] at listed
        rcases listed with already | new
        · exact .inl already
        · -- the only new entry is the address of the suppressed contact
          right
          have keyed : (workspaceId, platform.hashSuppressionEmail workspaceId email) = (owner, emailHash) := by
            split at new
            · next same => exact same
            · cases new
          cases keyed
          refine ⟨{ contact with subscriptionStatus := .suppressed }, email, ?_⟩
          exact
            { stored := by rw [contacts, ← suppressed, sameId]
              addressed := by
                rw [sameId]
                exact DeliveryKept.addressed kept addressed
              has := has
              nonempty := by
                rintro rfl
                rw [has] at present
                cases present
              hashed := rfl
              off := SubscriptionStatus.noConfusion }

end Suppression

theorem addressed_of_resolveSend (resolved : resolveSend ids db.sends workspaceId sendId = some send) :
    Addressed db.sends workspaceId send.contactId := by
  obtain ⟨row, found, rfl⟩ := Option.map_eq_some_iff.mp resolved
  have matched := List.find?_some found
  simp only [Bool.and_eq_true, beq_iff_eq] at matched
  exact ⟨row.intent, row, Table.find?_of_mem (List.mem_of_find?_eq_some found), matched.1, rfl⟩

theorem withdrawn_of_recordTerminal (column : FactColumn) (reasonWrite : Option ReasonWrite) :
    Withdrawn platform db (recordTerminal ids now db workspaceId send column occurredAt reasonWrite).2 := by
  apply Withdrawn.of_kept (kept_of_recordTerminal column reasonWrite)
  · unfold recordTerminal countForDay countForCampaign
    simp only
    split
    · split <;> rfl
    · rfl
  · unfold recordTerminal countForDay countForCampaign
    simp only
    split
    · split <;> rfl
    · rfl

theorem withdrawn_of_recordEngagement (column : FactColumn) (metric : EngagementMetric) :
    Withdrawn platform db (recordEngagement ids now db workspaceId send column occurredAt metric).2 := by
  apply Withdrawn.of_kept (kept_of_recordEngagement column metric)
  · unfold recordEngagement countForDay countForCampaign
    simp only
    split
    · split <;> rfl
    · rfl
  · unfold recordEngagement countForDay countForCampaign
    simp only
    split
    · split <;> rfl
    · rfl

theorem withdrawn_of_countForCampaign (campaignId : Option CampaignId) (metric : EngagementMetric) :
    Withdrawn platform db (countForCampaign db campaignId metric) := by
  apply Withdrawn.of_kept (kept_of_countForCampaign campaignId metric)
  · cases campaignId <;> rfl
  · cases campaignId <;> rfl

theorem withdrawn_of_countForDay (metric : EngagementMetric) :
    Withdrawn platform db (countForDay now db workspaceId occurredAt metric) :=
  .of_kept (kept_of_countForDay metric) rfl rfl

theorem withdrawn_of_countRepeat (set : SendFacts → SendFacts) :
    Withdrawn platform db (countRepeat ids db sendId set) :=
  .of_kept (kept_of_countRepeat set) rfl rfl

theorem withdrawn_of_applyEventSideEffects (event : AppliedEvent)
    (addressed : Addressed db.sends workspaceId send.contactId) :
    Withdrawn platform db (applyEventSideEffects platform now db workspaceId send event) := by
  have suppressed : ∀ between reason, Withdrawn platform db between →
      Withdrawn platform db (applySuppression platform between workspaceId send.contactId reason) := by
    intro between reason before
    exact before.trans (withdrawn_of_applySuppression reason (DeliveryKept.addressed before.delivery addressed))
  unfold applyEventSideEffects
  cases event.normalizedType with
  | delivered =>
    simp only
    split
    · exact (withdrawn_of_recordEngagement _ _).trans (withdrawn_of_setSoftBounceStreak _)
    · exact withdrawn_of_recordEngagement _ _
  | «open» | click => exact (withdrawn_of_recordEngagement _ _).trans (withdrawn_of_countRepeat _)
  | bounceHard | spamReport =>
    simp only
    split
    · exact suppressed _ _ (withdrawn_of_recordTerminal _ _)
    · exact withdrawn_of_recordTerminal _ _
  | bounceSoft =>
    simp only
    split
    · split
      · exact suppressed _ _ ((withdrawn_of_setSoftBounceStreak _).trans (withdrawn_of_recordTerminal _ _))
      · exact (withdrawn_of_setSoftBounceStreak _).trans (withdrawn_of_recordTerminal _ _)
    · exact withdrawn_of_setSoftBounceStreak _
  | dropped =>
    simp only
    split
    · split
      · exact suppressed _ _ (withdrawn_of_recordTerminal _ _)
      · split
        · exact (withdrawn_of_recordTerminal _ _).trans
            ((withdrawn_of_applyUnsubscribe _).trans (withdrawn_of_countForCampaign _ _))
        · exact (withdrawn_of_recordTerminal _ _).trans (withdrawn_of_applyUnsubscribe _)
      · exact withdrawn_of_recordTerminal _ _
      · exact withdrawn_of_recordTerminal _ _
    · exact withdrawn_of_recordTerminal _ _
  | unsubscribe | groupUnsubscribe =>
    simp only
    split
    · exact (withdrawn_of_applyUnsubscribe _).trans
        ((withdrawn_of_countForCampaign _ _).trans (withdrawn_of_countForDay _))
    · exact withdrawn_of_applyUnsubscribe _

theorem withdrawn_of_applyNewRow (row : ExtractedEvent) :
    Withdrawn platform db (applyNewRow platform now workspaceId db row) := by
  unfold applyNewRow
  split
  · exact .refl db
  · split
    · split
      · next resolved => exact withdrawn_of_applyEventSideEffects _ (addressed_of_resolveSend resolved)
      · exact .refl db
    · exact .refl db

theorem withdrawn_of_applyNewRows (rows : List ExtractedEvent) (db : Database) :
    Withdrawn platform db (rows.foldl (applyNewRow platform now workspaceId) db) := by
  induction rows generalizing db with
  | nil => exact .refl db
  | cons row rest ih => exact (withdrawn_of_applyNewRow row).trans (ih _)

theorem withdrawn_of_processWebhookEventBatch (events : List JsonValue) :
    Withdrawn platform db (processWebhookEventBatch platform now db workspaceId events) := by
  unfold processWebhookEventBatch
  split
  · exact .refl db
  · have stored : ∀ candidates sendEvents,
        Withdrawn platform db { writeQuarantinedEvents db workspaceId candidates with sendEvents } :=
      fun _ _ => .of_kept ⟨fun _ => rfl, fun _ => rfl, rfl, rfl⟩ rfl rfl
    exact (stored _ _).trans (withdrawn_of_applyNewRows _ _)

theorem withdrawn_of_unsubscribe :
    Withdrawn platform db (unsubscribe ids now db workspaceId contactId sendId) := by
  unfold unsubscribe
  simp only
  split
  · exact (withdrawn_of_applyUnsubscribe _).trans
      ((withdrawn_of_countForCampaign _ _).trans (withdrawn_of_countForDay _))
  · exact withdrawn_of_applyUnsubscribe _

end Writes

end LocalCrm.Contacts
