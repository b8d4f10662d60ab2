import LocalCrm.Contacts.Repository
import LocalCrm.Webhooks.Books
import LocalCrm.Webhooks.EventDedup

/-! One-click requests and unsubscribe events of a workspace, in any order and any number. -/

set_option autoImplicit false

namespace LocalCrm.Contacts

open Library Analytics Delivery Webhooks

structure Unsubscription where
  now : Timestamp
  occurredAt : Timestamp
  source : String
  sendId : SendId
  contactId : ContactId
  deriving DecidableEq, Repr

section One

variable (ids : SendIdScheme) (workspaceId : WorkspaceId) (db : Database)

def recordUnsubscription (call : Unsubscription) : Database :=
  let (factJustSet, campaignId, db) :=
    applyUnsubscribeWithSendFact ids db workspaceId call.contactId call.sendId call.occurredAt call.source
  if factJustSet then
    countForDay call.now (countForCampaign db campaignId .unsubscribed) workspaceId call.occurredAt .unsubscribed
  else db

theorem unsubscribe_eq (now : Timestamp) (contactId : ContactId) (sendId : SendId) :
    unsubscribe ids now db workspaceId contactId sendId =
      recordUnsubscription ids workspaceId db
        { now, occurredAt := now, source := "unsubscribe_route", sendId, contactId } := rfl

theorem applyEventSideEffects_unsubscribe (platform : Platform) (now : Timestamp) (send : ResolvedSend)
    (event : AppliedEvent) (kind : event.normalizedType = .unsubscribe ∨ event.normalizedType = .groupUnsubscribe) :
    applyEventSideEffects platform now db workspaceId send event =
      recordUnsubscription platform.sendIds workspaceId db
        { now, occurredAt := event.occurredAt, source := "webhook_unsubscribe", sendId := send.id
          contactId := send.contactId } := by
  unfold applyEventSideEffects
  rcases kind with kind | kind <;> (rw [kind]; rfl)

end One

structure Issued (ids : SendIdScheme) (workspaceId : WorkspaceId) (sends : Sends) (call : Unsubscription)
    (row : Send) : Prop where
  located : Locates ids sends call.sendId row
  own : row.intent.workspaceId = workspaceId
  recipient : row.contactId = call.contactId

section Steps

variable {ids : SendIdScheme} {workspaceId : WorkspaceId} {db next : Database} {call : Unsubscription} {row : Send}

def recordedSends (ids : SendIdScheme) (sends : Sends) (call : Unsubscription) : Sends :=
  (setFactColumnOnce ids sends call.sendId .unsubscribedAt call.occurredAt none).2

theorem recordUnsubscription_eq (issued : Issued ids workspaceId db.sends call row) :
    recordUnsubscription ids workspaceId db call =
      { recordUnsubscribe db workspaceId call.contactId call.source with
        sends := recordedSends ids db.sends call
        campaigns := if row.facts.unsubscribedAt.isNone then
            (countForCampaign db row.intent.campaignId .unsubscribed).campaigns else db.campaigns
        dailyRollups := if row.facts.unsubscribedAt.isNone then
            incrementWorkspaceDailyRollup call.now db.dailyRollups workspaceId call.occurredAt .unsubscribed
          else db.dailyRollups } := by
  have justSet : (setFactColumnOnce ids db.sends call.sendId .unsubscribedAt call.occurredAt none).1 =
      row.facts.unsubscribedAt.isNone := justSet_of_located issued.located .unsubscribedAt
  have campaigns : (recordUnsubscribe db workspaceId call.contactId call.source).campaigns = db.campaigns := by
    unfold recordUnsubscribe
    split
    · rfl
    · split <;> rfl
  have rollups : (recordUnsubscribe db workspaceId call.contactId call.source).dailyRollups = db.dailyRollups := by
    unfold recordUnsubscribe
    split
    · rfl
    · split <;> rfl
  have resolved := resolveSend_located issued.located issued.own
  have helper := applyUnsubscribe_some resolved call.contactId call.occurredAt call.source
  rw [recordUnsubscription, helper]
  simp only [justSet]
  cases unset : row.facts.unsubscribedAt.isNone with
  | false =>
    simp only [Bool.false_eq_true, if_false, ← campaigns, ← rollups]
    rfl
  | true =>
    cases row.intent.campaignId with
    | none | some =>
      simp only [countForCampaign, countForDay, ← campaigns, ← rollups]
      rfl

theorem find?_contacts_recordUnsubscribe (contactId id : ContactId) (source : String) :
    (recordUnsubscribe db workspaceId contactId source).contacts.find? id =
      (db.contacts.find? id).map fun contact =>
        if contactId = id then { contact with subscriptionStatus := .unsubscribed } else contact := by
  unfold recordUnsubscribe
  cases found : db.contacts.find? contactId with
  | none =>
    by_cases same : contactId = id
    · rw [← same, found]
      rfl
    · simp only [if_neg same, Option.map_id']
  | some contact =>
    by_cases off : contact.subscriptionStatus = .unsubscribed
    · simp only [off, ne_eq, not_true_eq_false, if_false]
      by_cases same : contactId = id
      · rw [← same, found, Option.map_some, if_pos rfl, ← off]
      · simp only [if_neg same, Option.map_id']
    · simp only [ne_eq, off, not_false_eq_true, if_true]
      show (db.contacts.update _ _).find? id = _
      rw [Table.find?_update]
      cases stored : db.contacts.find? id with
      | none => rfl
      | some other =>
        have keyed : other.id = id := Table.key_of_find? stored
        rw [Option.map_some, Option.map_some, keyed]
        by_cases same : contactId = id
        · simp [same]
        · simp [same, Ne.symm same]

def statusChange (workspaceId : WorkspaceId) (contact : Contact) : SubscriptionStatusChange where
  workspaceId
  contactId := contact.id
  oldStatus := contact.subscriptionStatus
  newStatus := .unsubscribed
  source := ""
  reason := none

def unsourced (change : SubscriptionStatusChange) : SubscriptionStatusChange := { change with source := "" }

def notedChange (workspaceId : WorkspaceId) (contacts : Table Contact.id) (call : Unsubscription) :
    List SubscriptionStatusChange :=
  ((contacts.find? call.contactId).filter fun contact => contact.subscriptionStatus != .unsubscribed).toList.map
    fun contact => { statusChange workspaceId contact with source := call.source }

theorem history_recordUnsubscribe (call : Unsubscription) :
    (recordUnsubscribe db workspaceId call.contactId call.source).subscriptionStatusHistory =
      db.subscriptionStatusHistory ++ notedChange workspaceId db.contacts call := by
  unfold recordUnsubscribe notedChange
  cases found : db.contacts.find? call.contactId with
  | none => exact (List.append_nil _).symm
  | some contact =>
    have keyed : contact.id = call.contactId := Table.key_of_find? found
    by_cases off : contact.subscriptionStatus = .unsubscribed
    · simp [off]
    · have differs : (contact.subscriptionStatus != SubscriptionStatus.unsubscribed) = true := bne_iff_ne.mpr off
      have one : (some contact).filter (fun contact => contact.subscriptionStatus != .unsubscribed) = some contact :=
        Option.filter_eq_some_iff.mpr ⟨rfl, differs⟩
      rw [one]
      simp [off, statusChange, keyed, recordSubscriptionStatusChange, setSubscriptionStatus]

end Steps

section Effects

variable (ids : SendIdScheme) (workspaceId : WorkspaceId)

def reaches (calls : List Unsubscription) (id : ContactId) : Bool := calls.any fun call => call.contactId == id

def covers (calls : List Unsubscription) (sendId : SendId) : Bool := calls.any fun call => call.sendId == sendId

structure SendAfter (covered : Bool) (before after : Send) : Prop where
  columns : after = { before with facts := { before.facts with unsubscribedAt := after.facts.unsubscribedAt } }
  once : ∀ time, before.facts.unsubscribedAt = some time → after.facts.unsubscribedAt = some time
  set : after.facts.unsubscribedAt.isSome = (before.facts.unsubscribedAt.isSome || covered)

def recordedFor (sends : Sends) (id : CampaignId) : Nat :=
  sends.count fun row => row.intent.campaignId == some id && row.facts.unsubscribedAt.isSome

def addUnsubscribed (extra : Nat) (campaign : Campaign) : Campaign :=
  { campaign with
    engagement := { campaign.engagement with unsubscribed := campaign.engagement.unsubscribed + extra } }

@[simp] theorem addUnsubscribed_zero (campaign : Campaign) : addUnsubscribed 0 campaign = campaign := rfl

def sentOn (rollups : Rollups) (key : WorkspaceId × Day) : Nat := ((rollups.find? key).map DailyRollup.sentCount).getD 0

structure Unsubscribed (calls : List Unsubscription) (db final : Database) : Prop where
  sends : ∀ intent, Option.Rel (SendAfter (covers calls (ids.derive intent))) (db.sends.find? intent)
    (final.sends.find? intent)
  contacts : ∀ id, final.contacts.find? id = (db.contacts.find? id).map fun contact =>
    if reaches calls id then { contact with subscriptionStatus := .unsubscribed } else contact
  history : ∃ added, final.subscriptionStatusHistory = db.subscriptionStatusHistory ++ added ∧
    (∀ change ∈ added, ∃ call ∈ calls, change.source = call.source) ∧
    ∀ id, (added.filter fun change => change.contactId == id).map unsourced =
      ((db.contacts.find? id).filter fun contact =>
        reaches calls id && contact.subscriptionStatus != .unsubscribed).toList.map (statusChange workspaceId)
  campaigns : ∀ id, ∃ extra, recordedFor final.sends id = recordedFor db.sends id + extra ∧
    final.campaigns.find? id = (db.campaigns.find? id).map (addUnsubscribed extra)
  rolled : ∀ day metric,
    rolledCount final.dailyRollups workspaceId day metric + recountMetric db.sends workspaceId day metric =
      rolledCount db.dailyRollups workspaceId day metric + recountMetric final.sends workspaceId day metric
  sent : ∀ key, sentOn final.dailyRollups key = sentOn db.dailyRollups key
  elsewhere : ∀ other day, other ≠ workspaceId →
    final.dailyRollups.find? (other, day) = db.dailyRollups.find? (other, day)
  rest : { final with
    sends := db.sends
    contacts := db.contacts
    subscriptionStatusHistory := db.subscriptionStatusHistory
    campaigns := db.campaigns
    dailyRollups := db.dailyRollups } = db

end Effects

section Composition

variable {ids : SendIdScheme} {workspaceId : WorkspaceId} {db middle final : Database}
  {calls more : List Unsubscription}

theorem SendAfter.trans {covered again : Bool} {before between after : Send} (first : SendAfter covered before between)
    (second : SendAfter again between after) : SendAfter (covered || again) before after where
  columns := by
    rw [second.columns, first.columns]
  once time set := second.once time (first.once time set)
  set := by rw [second.set, first.set, Bool.or_assoc]

theorem SendAfter.refl (send : Send) : SendAfter false send send :=
  ⟨rfl, fun _ set => set, (Bool.or_false _).symm⟩

theorem Unsubscribed.refl : Unsubscribed ids workspaceId [] db db where
  sends intent := by
    cases db.sends.find? intent with
    | none => exact .none
    | some row => exact .some (.refl row)
  contacts id := Option.map_id'.symm
  history := by
    refine ⟨[], (List.append_nil _).symm, ?_, ?_⟩
    · intro change member
      cases member
    · intro id
      cases db.contacts.find? id <;> rfl
  campaigns id := ⟨0, rfl, Option.map_id'.symm⟩
  rolled _ _ := rfl
  sent _ := rfl
  elsewhere _ _ _ := rfl
  rest := rfl

theorem filter_comp (found : Option Contact) (first second : Bool) :
    (found.filter fun contact => first && contact.subscriptionStatus != .unsubscribed).toList.map
        (statusChange workspaceId) ++
      ((found.map fun contact => if first then { contact with subscriptionStatus := .unsubscribed } else contact).filter
        fun contact => second && contact.subscriptionStatus != .unsubscribed).toList.map (statusChange workspaceId) =
    (found.filter fun contact => (first || second) && contact.subscriptionStatus != .unsubscribed).toList.map
      (statusChange workspaceId) := by
  cases found with
  | none => rfl
  | some contact => cases first <;> cases second <;> simp [Option.filter]

theorem Unsubscribed.trans (first : Unsubscribed ids workspaceId calls db middle)
    (second : Unsubscribed ids workspaceId more middle final) :
    Unsubscribed ids workspaceId (calls ++ more) db final where
  sends intent := by
    have before := first.sends intent
    have after := second.sends intent
    have both : covers (calls ++ more) (ids.derive intent) =
        (covers calls (ids.derive intent) || covers more (ids.derive intent)) := List.any_append
    rw [both]
    generalize db.sends.find? intent = stored at before ⊢
    generalize middle.sends.find? intent = found at before after
    generalize final.sends.find? intent = last at after ⊢
    cases before with
    | none =>
      cases after
      exact .none
    | some related =>
      cases after with
      | some later => exact .some (related.trans later)
  contacts id := by
    have both : reaches (calls ++ more) id = (reaches calls id || reaches more id) := List.any_append
    rw [second.contacts, first.contacts, Option.map_map, both]
    congr 1
    cases reaches calls id <;> cases reaches more id <;> rfl
  history := by
    obtain ⟨added, history, sources, each⟩ := first.history
    obtain ⟨addedLater, later, sourcesLater, eachLater⟩ := second.history
    refine ⟨added ++ addedLater, by rw [later, history, List.append_assoc], ?_, ?_⟩
    · intro change member
      rcases List.mem_append.mp member with early | late
      · obtain ⟨call, named, same⟩ := sources change early
        exact ⟨call, List.mem_append_left _ named, same⟩
      · obtain ⟨call, named, same⟩ := sourcesLater change late
        exact ⟨call, List.mem_append_right _ named, same⟩
    · intro id
      have both : reaches (calls ++ more) id = (reaches calls id || reaches more id) := List.any_append
      rw [List.filter_append, List.map_append, each, eachLater, first.contacts, both]
      exact filter_comp _ _ _
  campaigns id := by
    obtain ⟨extra, recorded, found⟩ := first.campaigns id
    obtain ⟨extraLater, recordedLater, foundLater⟩ := second.campaigns id
    refine ⟨extra + extraLater, by rw [recordedLater, recorded, Nat.add_assoc], ?_⟩
    rw [foundLater, found, Option.map_map]
    congr 1
    funext campaign
    simp only [Function.comp_apply, addUnsubscribed, Nat.add_assoc]
  rolled day metric := by
    have before := first.rolled day metric
    have after := second.rolled day metric
    omega
  sent key := (second.sent key).trans (first.sent key)
  elsewhere other day differs := (second.elsewhere other day differs).trans (first.elsewhere other day differs)
  rest := by
    have before := first.rest
    rw [← second.rest] at before
    exact before

end Composition

section Runs

variable {ids : SendIdScheme} {workspaceId : WorkspaceId} {db next : Database} {call : Unsubscription} {row : Send}

theorem find?_recordedSends (intent : SendIntent) :
    (recordedSends ids db.sends call).find? intent = (db.sends.find? intent).map fun row =>
      if ids.derive row.intent == call.sendId && row.facts.unsubscribedAt.isNone then
        { row with facts := { row.facts with unsubscribedAt := some call.occurredAt } }
      else row := find?_updateFacts intent

theorem sendAfter_recordedSends (intent : SendIntent) :
    Option.Rel (SendAfter (covers [call] (ids.derive intent))) (db.sends.find? intent)
      ((recordedSends ids db.sends call).find? intent) := by
  rw [find?_recordedSends]
  cases stored : db.sends.find? intent with
  | none => exact .none
  | some row =>
    obtain rfl : row.intent = intent := Table.key_of_find? stored
    have covered : covers [call] (ids.derive row.intent) = (ids.derive row.intent == call.sendId) := by
      rw [covers, List.any_cons, List.any_nil, Bool.or_false]
      exact Bool.beq_comm
    rw [Option.map_some, covered]
    apply Option.Rel.some
    cases ids.derive row.intent == call.sendId with
    | false => exact .refl row
    | true =>
      cases set : row.facts.unsubscribedAt with
      | none =>
        refine ⟨rfl, ?_, by simp⟩
        intro time already
        cases set.symm.trans already
      | some time => exact ⟨rfl, fun _ same => same, by simp [set]⟩

theorem recordedSends_set (issued : Issued ids workspaceId db.sends call row)
    (set : row.facts.unsubscribedAt.isNone = false) : recordedSends ids db.sends call = db.sends :=
  @updateFacts_unguarded ids db.sends row call.sendId issued.located
    (fun facts => (FactColumn.unsubscribedAt.read facts).isNone) _ set

theorem campaigns_recorded (issued : Issued ids workspaceId db.sends call row) (id : CampaignId) :
    ∃ extra, recordedFor (recordedSends ids db.sends call) id = recordedFor db.sends id + extra ∧
      (if row.facts.unsubscribedAt.isNone then
          (countForCampaign db row.intent.campaignId .unsubscribed).campaigns else db.campaigns).find? id =
        (db.campaigns.find? id).map (addUnsubscribed extra) := by
  obtain ⟨found, named⟩ := issued.located
  cases unset : row.facts.unsubscribedAt.isNone with
  | false =>
    exact ⟨0, by rw [recordedSends_set issued unset, Nat.add_zero], Option.map_id'.symm⟩
  | true =>
    have others : ∀ wanted, wanted ≠ row.intent →
        (recordedSends ids db.sends call).find? wanted = db.sends.find? wanted := by
      intro wanted differs
      rw [find?_recordedSends]
      cases stored : db.sends.find? wanted with
      | none => rfl
      | some other =>
        have keyed : other.intent = wanted := Table.key_of_find? stored
        have apart : (ids.derive other.intent == call.sendId) = false := by
          rw [beq_eq_false_iff_ne, ← named, ne_eq, ids.derive_eq, keyed]
          exact differs
        rw [Option.map_some, apart, Bool.false_and, if_neg Bool.false_ne_true]
    have change := Table.count_change db.sends (recordedSends ids db.sends call)
      (fun other => other.intent.campaignId == some id && other.facts.unsubscribedAt.isSome) row.intent
      (fun wanted differs => by rw [others wanted differs])
    have written : (recordedSends ids db.sends call).find? row.intent =
        some { row with facts := { row.facts with unsubscribedAt := some call.occurredAt } } := by
      rw [find?_recordedSends, found, Option.map_some, named, unset, beq_self_eq_true, Bool.and_self, if_pos rfl]
    rw [found, written, Option.any_some, Option.any_some, Option.isSome_some, Bool.and_true,
      Option.isNone_iff_eq_none.mp unset, Option.isSome_none, Bool.and_false, Bool.toNat_false] at change
    refine ⟨(row.intent.campaignId == some id).toNat, by rw [recordedFor, recordedFor]; omega, ?_⟩
    rw [if_pos rfl]
    cases row.intent.campaignId with
    | none => exact Option.map_id'.symm
    | some campaignId =>
      simp only [countForCampaign, incrementCampaignCounter, Table.find?_update]
      cases stored : db.campaigns.find? id with
      | none => rfl
      | some campaign =>
        obtain rfl : campaign.id = id := Table.key_of_find? stored
        by_cases same : campaignId = campaign.id
        · subst same
          simp [addUnsubscribed, EngagementMetric.bump]
        · have apart : (some campaignId == some campaign.id) = false := by simp [same]
          simp [apart, Ne.symm same]

theorem rolled_recorded (issued : Issued ids workspaceId db.sends call row) (day : Day) (metric : EngagementMetric) :
    rolledCount (if row.facts.unsubscribedAt.isNone then
        incrementWorkspaceDailyRollup call.now db.dailyRollups workspaceId call.occurredAt .unsubscribed
      else db.dailyRollups) workspaceId day metric + recountMetric db.sends workspaceId day metric =
    rolledCount db.dailyRollups workspaceId day metric +
      recountMetric (recordedSends ids db.sends call) workspaceId day metric := by
  have books : Books workspaceId db { db with sends := recordedSends ids db.sends call } nothing
      (owedFor .unsubscribedAt call.occurredAt row.facts) :=
    @books_setFactColumnOnce ids workspaceId db ⟨call.sendId, none, 0⟩ row call.occurredAt issued.located issued.own
      .unsubscribedAt none
  have recounted := books.recounted day metric
  rw [recounted]
  cases unset : row.facts.unsubscribedAt.isNone with
  | false =>
    have owed : owedFor .unsubscribedAt call.occurredAt row.facts day metric = 0 := by
      apply if_neg
      intro both
      have empty : row.facts.unsubscribedAt = none := both.1
      rw [empty] at unset
      cases unset
    rw [owed, if_neg Bool.false_ne_true, Nat.add_zero]
  | true =>
    have empty : row.facts.unsubscribedAt = none := Option.isNone_iff_eq_none.mp unset
    have owed : owedFor .unsubscribedAt call.occurredAt row.facts day metric =
        oneOn call.occurredAt .unsubscribed day metric := by
      apply if_pos
      exact ⟨empty, by simp [FactColumn.metric, countsOn, empty, onDay]⟩
    rw [owed, if_pos rfl, rolledCount_increment]
    omega

theorem sentOn_increment (now : Timestamp) (rollups : Rollups) (occurredAt : Timestamp) (metric : EngagementMetric)
    (key : WorkspaceId × Day) :
    sentOn (incrementWorkspaceDailyRollup now rollups workspaceId occurredAt metric) key = sentOn rollups key := by
  have kept : ∀ rollup, (incrementedRollup now metric rollup).sentCount = rollup.sentCount := by
    intro rollup
    unfold incrementedRollup
    split <;> rfl
  rw [sentOn, find?_incrementWorkspaceDailyRollup, sentOn]
  by_cases same : (workspaceId, utcDay occurredAt) = key
  · rw [if_pos same, Option.map_some, Option.getD_some, kept]
    cases rollups.find? key <;> rfl
  · rw [if_neg same]

theorem unsubscribed_one (issued : Issued ids workspaceId db.sends call row) :
    Unsubscribed ids workspaceId [call] db (recordUnsubscription ids workspaceId db call) := by
  rw [recordUnsubscription_eq issued]
  have reached : ∀ id, reaches [call] id = (call.contactId == id) := by
    intro id
    rw [reaches, List.any_cons, List.any_nil, Bool.or_false]
  exact {
    sends := sendAfter_recordedSends
    contacts := by
      intro id
      rw [reached]
      simp only [find?_contacts_recordUnsubscribe, beq_iff_eq]
    history := by
      refine ⟨notedChange workspaceId db.contacts call, history_recordUnsubscribe call, ?_, ?_⟩
      · intro change member
        obtain ⟨contact, _, rfl⟩ := List.mem_map.mp member
        exact ⟨call, List.mem_singleton_self call, rfl⟩
      · intro id
        rw [reached, notedChange]
        by_cases same : call.contactId = id
        · subst same
          cases found : db.contacts.find? call.contactId with
          | none => rfl
          | some contact =>
            have keyed : contact.id = call.contactId := Table.key_of_find? found
            by_cases off : contact.subscriptionStatus = .unsubscribed
            · simp [Option.filter, off]
            · simp [Option.filter, off, statusChange, unsourced, keyed]
        · have apart : (call.contactId == id) = false := beq_false_of_ne same
          cases found : db.contacts.find? call.contactId with
          | none => cases db.contacts.find? id <;> simp [Option.filter, apart]
          | some contact =>
            have keyed : contact.id = call.contactId := Table.key_of_find? found
            have foreign : (contact.id == id) = false := by rw [keyed, apart]
            by_cases off : contact.subscriptionStatus = .unsubscribed
            · cases db.contacts.find? id <;> simp [Option.filter, off, apart]
            · cases db.contacts.find? id <;> simp [Option.filter, off, apart, statusChange, foreign]
    campaigns := campaigns_recorded issued
    rolled := rolled_recorded issued
    sent := by
      intro key
      split
      · exact sentOn_increment _ _ _ _ _
      · rfl
    elsewhere := by
      intro other day differs
      split
      · rw [find?_incrementWorkspaceDailyRollup, if_neg]
        intro same
        exact differs (congrArg Prod.fst same).symm
      · rfl
    rest := by
      unfold recordUnsubscribe
      split
      · rfl
      · split <;> rfl }

theorem Issued.kept (issued : Issued ids workspaceId db.sends call row) (kept : DeliveryKept db next) :
    ∃ later, Issued ids workspaceId next.sends call later := by
  obtain ⟨⟨found, named⟩, own, recipient⟩ := issued
  have columns := kept.sends row.intent
  rw [found, Option.map_some, Option.map_eq_some_iff] at columns
  obtain ⟨later, stored, same⟩ := columns
  have intent : (ledgerColumns later).intent = (ledgerColumns row).intent := congrArg Send.intent same
  have contact : (ledgerColumns later).contactId = (ledgerColumns row).contactId := congrArg Send.contactId same
  simp only [ledgerColumns] at intent contact
  exact ⟨later, ⟨by rw [intent]; exact stored, by rw [intent]; exact named⟩, by rw [intent]; exact own,
    by rw [contact]; exact recipient⟩

theorem kept_of_recordUnsubscription : DeliveryKept db (recordUnsubscription ids workspaceId db call) := by
  unfold recordUnsubscription
  simp only
  split
  · exact (kept_of_applyUnsubscribe call.source).trans ((kept_of_countForCampaign _ _).trans (kept_of_countForDay _))
  · exact kept_of_applyUnsubscribe call.source

theorem unsubscribed_foldl (calls : List Unsubscription) (db : Database)
    (issued : ∀ call ∈ calls, ∃ row, Issued ids workspaceId db.sends call row) :
    Unsubscribed ids workspaceId calls db (calls.foldl (recordUnsubscription ids workspaceId) db) := by
  induction calls generalizing db with
  | nil => exact .refl
  | cons call rest ih =>
    obtain ⟨row, first⟩ := issued call List.mem_cons_self
    refine (unsubscribed_one first).trans (ih _ ?_)
    intro later member
    obtain ⟨row, there⟩ := issued later (List.mem_cons_of_mem _ member)
    exact there.kept kept_of_recordUnsubscription

end Runs

section Deliveries

variable (platform : Platform) (workspaceId : WorkspaceId)

/-- What reaches the system: a request with a verified token, or a batch of provider events. -/
inductive UnsubscribeDelivery where
  | oneClick (now : Timestamp) (contactId : ContactId) (sendId : SendId)
  | batch (now : Timestamp) (events : List JsonValue)
  deriving DecidableEq

def deliver (db : Database) : UnsubscribeDelivery → Database
  | .oneClick now contactId sendId => unsubscribe platform.sendIds now db workspaceId contactId sendId
  | .batch now events => processWebhookEventBatch platform now db workspaceId events

def eventCall (sends : Sends) (now : Timestamp) (row : ExtractedEvent) : Option Unsubscription :=
  if row.isTest = false ∧
      (row.normalizedType = some .unsubscribe ∨ row.normalizedType = some .groupUnsubscribe) then
    ((row.sendId.bind platform.uuidValue).bind (resolveSend platform.sendIds sends workspaceId)).map fun send =>
      { now, occurredAt := row.occurredAt, source := "webhook_unsubscribe", sendId := send.id
        contactId := send.contactId }
  else none

/-- The token names a stored send and its contact, or all events the batch submits are unsubscribe events of
stored sends. -/
def Unsubscribes (db : Database) : UnsubscribeDelivery → Prop
  | .oneClick _ contactId sendId =>
    ∃ row, Locates platform.sendIds db.sends sendId row ∧ row.intent.workspaceId = workspaceId ∧
      row.contactId = contactId
  | .batch now events => ∀ row ∈ submittedRows platform now db workspaceId events,
    (eventCall platform workspaceId db.sends now row).isSome = true

/-- The delivery brings an unsubscription of the send: a request always, an event only under a key that is not
yet stored. -/
def Brings (db : Database) (sendId : SendId) : UnsubscribeDelivery → Prop
  | .oneClick _ _ named => named = sendId
  | .batch now events => isWorkspaceSoftDeleted db.organizations workspaceId = false ∧
    ∃ row ∈ submittedRows platform now db workspaceId events,
      (∀ key ∈ rowKey platform workspaceId row, key ∉ db.sendEvents.filterMap dedupKey) ∧
        row.sendId.bind platform.uuidValue = some sendId

def callsOf (db : Database) : UnsubscribeDelivery → List Unsubscription
  | .oneClick now contactId sendId =>
    [{ now, occurredAt := now, source := "unsubscribe_route", sendId, contactId }]
  | .batch now events =>
    (newRows platform now db workspaceId events).filterMap (eventCall platform workspaceId db.sends now)

def allCalls : Database → List UnsubscribeDelivery → List Unsubscription
  | _, [] => []
  | db, delivery :: rest =>
    callsOf platform workspaceId db delivery ++ allCalls (deliver platform workspaceId db delivery) rest

end Deliveries

section Reduction

variable {platform : Platform} {ids : SendIdScheme} {workspaceId : WorkspaceId} {db next : Database}
  {delivery : UnsubscribeDelivery} {call : Unsubscription} {sends : Sends} {now : Timestamp} {sendId : SendId}

theorem recordUnsubscription_withLogs {events : List SendEvent} {quarantined : List QuarantinedEvent} :
    recordUnsubscription ids workspaceId (withLogs events quarantined db) call =
      withLogs events quarantined (recordUnsubscription ids workspaceId db call) := by
  simp only [recordUnsubscription, applyUnsubscribe_withLogs, countForCampaign_withLogs, countForDay_withLogs]
  split <;> rfl

theorem resolveSend_of_kept (kept : DeliveryKept db next) (sendId : SendId) :
    resolveSend ids next.sends workspaceId sendId = resolveSend ids db.sends workspaceId sendId := by
  have onto : ∀ {db next : Database}, DeliveryKept db next → ∀ send,
      resolveSend ids db.sends workspaceId sendId = some send →
        resolveSend ids next.sends workspaceId sendId = some send := by
    intro db next kept send resolved
    obtain ⟨row, located, own, _⟩ := locates_of_resolveSend resolved
    have issued : Issued ids workspaceId db.sends ⟨0, 0, "", sendId, row.contactId⟩ row := ⟨located, own, rfl⟩
    obtain ⟨later, there⟩ := issued.kept kept
    have same : later.intent = row.intent := ids.derive_eq.mp (there.located.2.trans located.2.symm)
    rw [resolveSend_located located own] at resolved
    rw [resolveSend_located there.located there.own, same, there.recipient]
    exact resolved
  apply Option.ext
  intro send
  exact ⟨onto kept.symm send, onto kept send⟩

theorem eventCall_of_kept (kept : DeliveryKept db next) (row : ExtractedEvent) :
    eventCall platform workspaceId next.sends now row = eventCall platform workspaceId db.sends now row := by
  have same : resolveSend platform.sendIds next.sends workspaceId = resolveSend platform.sendIds db.sends workspaceId :=
    funext (resolveSend_of_kept kept)
  rw [eventCall, eventCall, same]

theorem eventCall_eq_some {row : ExtractedEvent} :
    eventCall platform workspaceId sends now row = some call ↔
      (row.isTest = false ∧ (row.normalizedType = some .unsubscribe ∨ row.normalizedType = some .groupUnsubscribe)) ∧
        ∃ sendId send, row.sendId.bind platform.uuidValue = some sendId ∧
          resolveSend platform.sendIds sends workspaceId sendId = some send ∧
            call = { now, occurredAt := row.occurredAt, source := "webhook_unsubscribe", sendId := send.id
                     contactId := send.contactId } := by
  unfold eventCall
  split
  · next kind =>
    rw [and_iff_right kind, Option.map_eq_some_iff]
    constructor
    · rintro ⟨send, resolved, rfl⟩
      obtain ⟨sendId, named, found⟩ := Option.bind_eq_some_iff.mp resolved
      exact ⟨sendId, send, named, found, rfl⟩
    · rintro ⟨sendId, send, named, found, rfl⟩
      exact ⟨send, by rw [named]; exact found, rfl⟩
  · next kind =>
    constructor
    · intro none
      cases none
    · intro both
      exact absurd both.1 kind

theorem issued_of_eventCall {row : ExtractedEvent} (named : eventCall platform workspaceId sends now row = some call) :
    (∃ stored, Issued platform.sendIds workspaceId sends call stored) ∧
      row.sendId.bind platform.uuidValue = some call.sendId ∧ call.source = "webhook_unsubscribe" := by
  obtain ⟨_, sendId, send, parsed, resolved, rfl⟩ := eventCall_eq_some.mp named
  obtain ⟨stored, found, rfl⟩ := Option.map_eq_some_iff.mp resolved
  have matched := List.find?_some found
  rw [Bool.and_eq_true, beq_iff_eq, beq_iff_eq] at matched
  exact ⟨⟨stored, ⟨Table.find?_of_mem (List.mem_of_find?_eq_some found), matched.2⟩, matched.1, rfl⟩, parsed, rfl⟩

theorem applyNewRow_call {row : ExtractedEvent} (named : eventCall platform workspaceId db.sends now row = some call) :
    applyNewRow platform now workspaceId db row = recordUnsubscription platform.sendIds workspaceId db call := by
  obtain ⟨⟨real, kind⟩, sendId, send, parsed, resolved, rfl⟩ := eventCall_eq_some.mp named
  have applied : ∀ normalizedType, row.normalizedType = some normalizedType →
      applyNewRow platform now workspaceId db row = applyEventSideEffects platform now db workspaceId send
        { normalizedType, reason := row.reason, occurredAt := row.occurredAt } := by
    intro normalizedType typed
    rw [applyNewRow, real, if_neg Bool.false_ne_true, typed, parsed]
    simp only [resolved]
  rcases kind with typed | typed
  · rw [applied _ typed]
    exact applyEventSideEffects_unsubscribe workspaceId db platform now send _ (.inl rfl)
  · rw [applied _ typed]
    exact applyEventSideEffects_unsubscribe workspaceId db platform now send _ (.inr rfl)

theorem applyNewRows_calls (rows : List ExtractedEvent) (db : Database)
    (all : ∀ row ∈ rows, (eventCall platform workspaceId db.sends now row).isSome = true) :
    rows.foldl (applyNewRow platform now workspaceId) db =
      (rows.filterMap (eventCall platform workspaceId db.sends now)).foldl
        (recordUnsubscription platform.sendIds workspaceId) db := by
  induction rows generalizing db with
  | nil => rfl
  | cons row rest ih =>
    obtain ⟨call, named⟩ := Option.isSome_iff_exists.mp (all row List.mem_cons_self)
    have kept : DeliveryKept db (recordUnsubscription platform.sendIds workspaceId db call) :=
      kept_of_recordUnsubscription
    have unchanged :
        eventCall platform workspaceId (recordUnsubscription platform.sendIds workspaceId db call).sends now =
          eventCall platform workspaceId db.sends now := funext (eventCall_of_kept kept)
    rw [List.foldl_cons, applyNewRow_call named, List.filterMap_cons, named, ih, unchanged]
    · rfl
    · intro later member
      rw [unchanged]
      exact all later (List.mem_cons_of_mem _ member)

theorem newRows_subset {events : List JsonValue} {row : ExtractedEvent}
    (member : row ∈ newRows platform now db workspaceId events) :
    row ∈ submittedRows platform now db workspaceId events := by
  cases deleted : isWorkspaceSoftDeleted db.organizations workspaceId with
  | true =>
    rw [newRows, deleted, if_pos rfl] at member
    cases member
  | false =>
    rw [newRows_live events deleted] at member
    exact winners_sublist.subset member

theorem withoutLogs_deliver (unsubscribes : Unsubscribes platform workspaceId db delivery) :
    withoutLogs (deliver platform workspaceId db delivery) =
      (callsOf platform workspaceId db delivery).foldl (recordUnsubscription platform.sendIds workspaceId)
        (withoutLogs db) := by
  cases delivery with
  | oneClick now contactId sendId =>
    rw [deliver, unsubscribe_eq]
    exact recordUnsubscription_withLogs.symm
  | batch now events =>
    rw [deliver, withoutLogs_processWebhookEventBatch]
    exact applyNewRows_calls _ _ fun row member => unsubscribes row (newRows_subset member)

theorem kept_of_deliver : DeliveryKept db (deliver platform workspaceId db delivery) := by
  cases delivery with
  | oneClick now contactId sendId =>
    rw [deliver, unsubscribe_eq]
    exact kept_of_recordUnsubscription
  | batch now events => exact kept_of_processWebhookEventBatch events

theorem Unsubscribes.kept (unsubscribes : Unsubscribes platform workspaceId db delivery)
    (kept : DeliveryKept db next) : Unsubscribes platform workspaceId next delivery := by
  cases delivery with
  | oneClick now contactId sendId =>
    obtain ⟨row, located, own, recipient⟩ := unsubscribes
    have issued : Issued platform.sendIds workspaceId db.sends ⟨0, 0, "", sendId, contactId⟩ row :=
      ⟨located, own, recipient⟩
    obtain ⟨later, there⟩ := issued.kept kept
    exact ⟨later, there.located, there.own, there.recipient⟩
  | batch now events =>
    intro row member
    rw [submittedRows_kept kept] at member
    rw [eventCall_of_kept kept]
    exact unsubscribes row member

theorem withoutLogs_deliveries (deliveries : List UnsubscribeDelivery) (db : Database)
    (unsubscribe : ∀ delivery ∈ deliveries, Unsubscribes platform workspaceId db delivery) :
    withoutLogs (deliveries.foldl (deliver platform workspaceId) db) =
        (allCalls platform workspaceId db deliveries).foldl (recordUnsubscription platform.sendIds workspaceId)
          (withoutLogs db) ∧
      ∀ call ∈ allCalls platform workspaceId db deliveries,
        (∃ row, Issued platform.sendIds workspaceId db.sends call row) ∧
          (call.source = "unsubscribe_route" ∨ call.source = "webhook_unsubscribe") := by
  induction deliveries generalizing db with
  | nil => exact ⟨rfl, fun call member => by cases member⟩
  | cons delivery rest ih =>
    have here := unsubscribe delivery List.mem_cons_self
    have kept : DeliveryKept db (deliver platform workspaceId db delivery) := kept_of_deliver
    obtain ⟨onward, later⟩ := ih (deliver platform workspaceId db delivery) fun other member =>
      (unsubscribe other (List.mem_cons_of_mem _ member)).kept kept
    constructor
    · rw [List.foldl_cons, onward, withoutLogs_deliver here, allCalls, List.foldl_append]
    · intro call member
      rcases List.mem_append.mp member with first | after
      · cases delivery with
        | oneClick now contactId sendId =>
          obtain rfl := List.mem_singleton.mp first
          obtain ⟨row, located, own, recipient⟩ := here
          exact ⟨⟨row, located, own, recipient⟩, .inl rfl⟩
        | batch now events =>
          obtain ⟨row, _, named⟩ := List.mem_filterMap.mp first
          obtain ⟨issued, _, source⟩ := issued_of_eventCall named
          exact ⟨issued, .inr source⟩
      · obtain ⟨⟨row, issued⟩, source⟩ := later call after
        exact ⟨issued.kept kept.symm, source⟩

theorem uuidValue_of_rowKey {row other : ExtractedEvent} (same : rowKey platform workspaceId row =
    rowKey platform workspaceId other) (named : other.sendId.bind platform.uuidValue = some sendId) :
    row.sendId.bind platform.uuidValue = some sendId := by
  have keyed : rowKey platform workspaceId other = some (workspaceId, sendId, other.eventType, other.occurredAt) :=
    rowKey_eq_some.mpr ⟨named, rfl, rfl⟩
  exact (rowKey_eq_some.mp (same.trans keyed)).1

theorem covers_iff {calls : List Unsubscription} :
    covers calls sendId = true ↔ ∃ call ∈ calls, call.sendId = sendId := by
  simp only [covers, List.any_eq_true, beq_iff_eq]

theorem covers_callsOf (unsubscribes : Unsubscribes platform workspaceId db delivery) :
    covers (callsOf platform workspaceId db delivery) sendId = true ↔
      Brings platform workspaceId db sendId delivery := by
  rw [covers_iff]
  cases delivery with
  | oneClick now contactId named => simp [callsOf, Brings]
  | batch now events =>
    cases deleted : isWorkspaceSoftDeleted db.organizations workspaceId with
    | true => simp [callsOf, Brings, newRows, deleted]
    | false =>
      simp only [callsOf, Brings, deleted, true_and, newRows_live events deleted]
      constructor
      · rintro ⟨call, member, rfl⟩
        obtain ⟨row, admitted, named⟩ := List.mem_filterMap.mp member
        obtain ⟨_, parsed, _⟩ := issued_of_eventCall named
        refine ⟨row, winners_sublist.subset admitted, ?_, parsed⟩
        intro key same
        exact ((mem_winners same).mp admitted).1
      · rintro ⟨row, submitted, fresh, parsed⟩
        have keyed : rowKey platform workspaceId row = some _ := rowKey_eq_some.mpr ⟨parsed, rfl, rfl⟩
        have taken : _ ∈ db.sendEvents.filterMap dedupKey ++ (winners (rowKey platform workspaceId)
            (db.sendEvents.filterMap dedupKey) _).filterMap (rowKey platform workspaceId) := key_taken submitted keyed
        rcases List.mem_append.mp taken with stored | new
        · exact absurd stored (fresh _ keyed)
        · obtain ⟨first, admitted, same⟩ := List.mem_filterMap.mp new
          obtain ⟨call, named⟩ := Option.isSome_iff_exists.mp (unsubscribes first (winners_sublist.subset admitted))
          obtain ⟨_, there, _⟩ := issued_of_eventCall named
          have same' := uuidValue_of_rowKey (same.trans keyed.symm) parsed
          exact ⟨call, List.mem_filterMap.mpr ⟨first, admitted, named⟩, Option.some.inj (there.symm.trans same')⟩

theorem sendEvents_recordUnsubscription :
    (recordUnsubscription ids workspaceId db call).sendEvents = db.sendEvents := by
  have same : recordUnsubscription ids workspaceId (withLogs db.sendEvents db.sendEventQuarantine db) call =
      withLogs db.sendEvents db.sendEventQuarantine (recordUnsubscription ids workspaceId db call) :=
    recordUnsubscription_withLogs
  have events := congrArg (fun db : Database => db.sendEvents) same
  exact events

theorem stored_of_deliver {key : WorkspaceId × SendId × String × Timestamp} :
    key ∈ (deliver platform workspaceId db delivery).sendEvents.filterMap dedupKey →
      key ∈ db.sendEvents.filterMap dedupKey ∨ Brings platform workspaceId db key.2.1 delivery := by
  cases delivery with
  | oneClick now contactId named =>
    rw [deliver, unsubscribe_eq, sendEvents_recordUnsubscription]
    exact .inl
  | batch now events =>
    rw [deliver, sendEvents_processWebhookEventBatch, List.filterMap_append, List.mem_append]
    refine Or.imp id ?_
    intro new
    rw [List.filterMap_map] at new
    obtain ⟨row, admitted, keyed⟩ := List.mem_filterMap.mp new
    obtain ⟨workspace, sendId, eventType, occurredAt⟩ := key
    cases deleted : isWorkspaceSoftDeleted db.organizations workspaceId with
    | true =>
      rw [newRows, deleted, if_pos rfl] at admitted
      cases admitted
    | false =>
      rw [newRows_live events deleted] at admitted
      have named : rowKey platform workspaceId row = some (workspace, sendId, eventType, occurredAt) := keyed
      obtain ⟨fresh, _⟩ := (mem_winners named).mp admitted
      refine ⟨deleted, row, winners_sublist.subset admitted, ?_, ?_⟩
      · intro other same
        obtain rfl := Option.some.inj (named.symm.trans same)
        exact fresh
      · obtain ⟨value, parsed, same⟩ := Option.map_eq_some_iff.mp named
        have value' : value = sendId := congrArg (fun key => key.2.1) same
        rw [← value']
        exact parsed

theorem stored_mono {key : WorkspaceId × SendId × String × Timestamp}
    (stored : key ∈ db.sendEvents.filterMap dedupKey) :
    key ∈ (deliver platform workspaceId db delivery).sendEvents.filterMap dedupKey := by
  cases delivery with
  | oneClick now contactId named =>
    rw [deliver, unsubscribe_eq, sendEvents_recordUnsubscription]
    exact stored
  | batch now events =>
    rw [deliver, sendEvents_processWebhookEventBatch, List.filterMap_append]
    exact List.mem_append_left _ stored

/-- Together, deliveries call for the sends that one of them brings an unsubscription of. -/
theorem covers_allCalls (deliveries : List UnsubscribeDelivery) (db : Database)
    (unsubscribe : ∀ delivery ∈ deliveries, Unsubscribes platform workspaceId db delivery) (sendId : SendId) :
    covers (allCalls platform workspaceId db deliveries) sendId = true ↔
      ∃ delivery ∈ deliveries, Brings platform workspaceId db sendId delivery := by
  induction deliveries generalizing db with
  | nil => simp [allCalls, covers]
  | cons delivery rest ih =>
    have here := unsubscribe delivery List.mem_cons_self
    have kept : DeliveryKept db (deliver platform workspaceId db delivery) := kept_of_deliver
    have onward := ih (deliver platform workspaceId db delivery) fun other member =>
      (unsubscribe other (List.mem_cons_of_mem _ member)).kept kept
    have split : covers (allCalls platform workspaceId db (delivery :: rest)) sendId =
        (covers (callsOf platform workspaceId db delivery) sendId ||
          covers (allCalls platform workspaceId (deliver platform workspaceId db delivery) rest) sendId) :=
      List.any_append
    rw [split, Bool.or_eq_true, covers_callsOf here, onward, List.exists_mem_cons_iff]
    constructor
    · rintro (first | ⟨later, member, brings⟩)
      · exact .inl first
      · refine .inr ⟨later, member, ?_⟩
        cases later with
        | oneClick => exact brings
        | batch now events =>
          obtain ⟨live, row, submitted, fresh, parsed⟩ := brings
          rw [submittedRows_kept kept] at submitted
          rw [kept.organizations] at live
          exact ⟨live, row, submitted, fun key same stored => fresh key same (stored_mono stored), parsed⟩
    · rintro (first | ⟨later, member, brings⟩)
      · exact .inl first
      · cases later with
        | oneClick => exact .inr ⟨_, member, brings⟩
        | batch now events =>
          obtain ⟨live, row, submitted, fresh, parsed⟩ := brings
          by_cases earlier : Brings platform workspaceId db sendId delivery
          · exact .inl earlier
          · refine .inr ⟨_, member, by rw [kept.organizations]; exact live, row,
              by rw [submittedRows_kept kept]; exact submitted, ?_, parsed⟩
            intro key same stored
            rcases stored_of_deliver stored with before | brought
            · exact fresh key same before
            · have keyed : rowKey platform workspaceId row = some _ := rowKey_eq_some.mpr ⟨parsed, rfl, rfl⟩
              obtain rfl := Option.some.inj (keyed.symm.trans same)
              exact earlier brought

end Reduction

section Convergence

variable {ids : SendIdScheme} {workspaceId : WorkspaceId} {db first second : Database}
  {calls others : List Unsubscription}

def untimed (row : Send) : Send :=
  { row with facts := { row.facts with unsubscribedAt := row.facts.unsubscribedAt.map fun _ => 0 } }

/-- Two databases that differ in the times of unsubscriptions and what hangs on them, in sources and order of
history rows, and in the logs. -/
structure SameUpToTimes (workspaceId : WorkspaceId) (first second : Database) : Prop where
  sends : ∀ intent, (first.sends.find? intent).map untimed = (second.sends.find? intent).map untimed
  contacts : ∀ id, first.contacts.find? id = second.contacts.find? id
  history : (first.subscriptionStatusHistory.map unsourced).Perm (second.subscriptionStatusHistory.map unsourced)
  campaigns : ∀ id, first.campaigns.find? id = second.campaigns.find? id
  rolled : ∀ day metric,
    rolledCount first.dailyRollups workspaceId day metric + recountMetric second.sends workspaceId day metric =
      rolledCount second.dailyRollups workspaceId day metric + recountMetric first.sends workspaceId day metric
  sent : ∀ key, sentOn first.dailyRollups key = sentOn second.dailyRollups key
  elsewhere : ∀ other day, other ≠ workspaceId →
    first.dailyRollups.find? (other, day) = second.dailyRollups.find? (other, day)
  rest : { withoutLogs first with
    sends := second.sends
    contacts := second.contacts
    subscriptionStatusHistory := second.subscriptionStatusHistory
    campaigns := second.campaigns
    dailyRollups := second.dailyRollups } = withoutLogs second

theorem reaches_iff (issued : ∀ call ∈ calls, ∃ row, Issued ids workspaceId db.sends call row) (id : ContactId) :
    reaches calls id = true ↔ ∃ row, db.sends.find? row.intent = some row ∧ row.contactId = id ∧
      covers calls (ids.derive row.intent) = true := by
  simp only [reaches, List.any_eq_true, beq_iff_eq, covers_iff]
  constructor
  · rintro ⟨call, member, rfl⟩
    obtain ⟨row, there⟩ := issued call member
    exact ⟨row, there.located.1, there.recipient, call, member, there.located.2.symm⟩
  · rintro ⟨row, stored, rfl, call, member, named⟩
    obtain ⟨other, there⟩ := issued call member
    have same : row.intent = other.intent := ids.derive_eq.mp (named.symm.trans there.located.2.symm)
    have equal : row = other := by
      have found := there.located.1
      rw [← same, stored] at found
      exact Option.some.inj found
    exact ⟨call, member, by rw [equal]; exact there.recipient.symm⟩

theorem SendAfter.untimed {covered : Bool} {before one other : Send} (this : SendAfter covered before one)
    (that : SendAfter covered before other) : untimed one = untimed other := by
  have set : one.facts.unsubscribedAt.isSome = other.facts.unsubscribedAt.isSome := this.set.trans that.set.symm
  have times : one.facts.unsubscribedAt.map (fun _ => (0 : Timestamp)) = other.facts.unsubscribedAt.map fun _ => 0 := by
    revert set
    cases one.facts.unsubscribedAt <;> cases other.facts.unsubscribedAt <;> intro set <;> first | rfl | cases set
  rw [this.columns, that.columns]
  simp only [Contacts.untimed, times]

theorem perm_of_contacts {these those : List SubscriptionStatusChange}
    (each : ∀ id, (these.filter fun change => change.contactId == id).map unsourced =
      (those.filter fun change => change.contactId == id).map unsourced) :
    (these.map unsourced).Perm (those.map unsourced) := by
  have counted : ∀ (changes : List SubscriptionStatusChange) (wanted : SubscriptionStatusChange),
      (changes.map unsourced).count wanted =
        ((changes.filter fun change => change.contactId == wanted.contactId).map unsourced).count wanted := by
    intro changes wanted
    have filtered : (changes.filter fun change => change.contactId == wanted.contactId).map unsourced =
        (changes.map unsourced).filter fun change => change.contactId == wanted.contactId := by
      rw [List.filter_map]
      rfl
    rw [filtered]
    apply Eq.symm
    apply List.count_filter
    exact beq_self_eq_true _
  rw [List.perm_iff_count]
  intro wanted
  rw [counted these, counted those, each]

theorem untimed_congr (these : Unsubscribed ids workspaceId calls db first)
    (those : Unsubscribed ids workspaceId others db second)
    (covered : ∀ sendId, covers calls sendId = covers others sendId) (intent : SendIntent) :
    (first.sends.find? intent).map untimed = (second.sends.find? intent).map untimed := by
  have this := these.sends intent
  have that := those.sends intent
  rw [covered] at this
  generalize db.sends.find? intent = stored at this that
  generalize first.sends.find? intent = one at this ⊢
  generalize second.sends.find? intent = other at that ⊢
  cases this with
  | none =>
    cases that
    rfl
  | some related =>
    cases that with
    | some also => exact congrArg some (related.untimed also)

theorem recordedFor_congr {these those : Sends}
    (same : ∀ intent, (these.find? intent).map untimed = (those.find? intent).map untimed) (id : CampaignId) :
    recordedFor these id = recordedFor those id := by
  have asked : ∀ row, ((untimed row).intent.campaignId == some id && (untimed row).facts.unsubscribedAt.isSome) =
      (row.intent.campaignId == some id && row.facts.unsubscribedAt.isSome) := by
    simp [untimed]
  have onto : ∀ {these those : Sends}, (∀ intent, (these.find? intent).map untimed = (those.find? intent).map untimed) →
      recordedFor these id ≤ recordedFor those id := by
    intro these those same
    apply Table.count_le_count
    intro intent counted
    have both := congrArg (fun found : Option Send => found.any fun row =>
      row.intent.campaignId == some id && row.facts.unsubscribedAt.isSome) (same intent)
    simp only [Option.any_map, asked] at both
    exact both.symm.trans counted
  exact Nat.le_antisymm (onto same) (onto fun intent => (same intent).symm)

theorem sameUpToTimes (these : Unsubscribed ids workspaceId calls (withoutLogs db) (withoutLogs first))
    (those : Unsubscribed ids workspaceId others (withoutLogs db) (withoutLogs second))
    (covered : ∀ sendId, covers calls sendId = covers others sendId)
    (reached : ∀ id, reaches calls id = reaches others id) : SameUpToTimes workspaceId first second where
  sends := @untimed_congr ids workspaceId (withoutLogs db) (withoutLogs first) (withoutLogs second) calls others these
    those covered
  contacts id := by
    have this := these.contacts id
    rw [reached] at this
    exact this.trans (those.contacts id).symm
  history := by
    obtain ⟨added, history, _, each⟩ := these.history
    obtain ⟨addedToo, historyToo, _, eachToo⟩ := those.history
    have whole : first.subscriptionStatusHistory = db.subscriptionStatusHistory ++ added := history
    have wholeToo : second.subscriptionStatusHistory = db.subscriptionStatusHistory ++ addedToo := historyToo
    rw [whole, wholeToo, List.map_append, List.map_append]
    apply List.Perm.append_left
    apply perm_of_contacts
    intro id
    rw [each, eachToo, reached]
  campaigns id := by
    obtain ⟨extra, recorded, found⟩ := these.campaigns id
    obtain ⟨extraToo, recordedToo, foundToo⟩ := those.campaigns id
    have counted : recordedFor (withoutLogs first).sends id = recordedFor (withoutLogs second).sends id :=
      recordedFor_congr (untimed_congr these those covered) id
    have same : extra = extraToo := by omega
    rw [same] at found
    exact found.trans foundToo.symm
  rolled day metric := by
    have this : rolledCount first.dailyRollups workspaceId day metric + _ = _ + recountMetric first.sends _ _ _ :=
      these.rolled day metric
    have that : rolledCount second.dailyRollups workspaceId day metric + _ = _ + recountMetric second.sends _ _ _ :=
      those.rolled day metric
    omega
  sent key := (these.sent key).trans (those.sent key).symm
  elsewhere other day differs := (these.elsewhere other day differs).trans (those.elsewhere other day differs).symm
  rest := by
    have both := these.rest.trans those.rest.symm
    exact congrArg (fun other : Database => { other with
      sends := second.sends
      contacts := second.contacts
      subscriptionStatusHistory := second.subscriptionStatusHistory
      campaigns := second.campaigns
      dailyRollups := second.dailyRollups }) both

end Convergence

/-- What is settled by deliveries: times set once, contacts unsubscribed with one history row each, and
campaigns that count each of their sends once. -/
def Settled (platform : Platform) (workspaceId : WorkspaceId) (db : Database) (deliveries : List UnsubscribeDelivery) :
    Prop :=
  ∃ calls, (∀ sendId, covers calls sendId = true ↔
      ∃ delivery ∈ deliveries, Brings platform workspaceId db sendId delivery) ∧
    (∀ call ∈ calls, (∃ row, Issued platform.sendIds workspaceId db.sends call row) ∧
      (call.source = "unsubscribe_route" ∨ call.source = "webhook_unsubscribe")) ∧
    Unsubscribed platform.sendIds workspaceId calls (withoutLogs db)
      (withoutLogs (deliveries.foldl (deliver platform workspaceId) db))

theorem settled (platform : Platform) (workspaceId : WorkspaceId) (db : Database)
    (deliveries : List UnsubscribeDelivery)
    (unsubscribe : ∀ delivery ∈ deliveries, Unsubscribes platform workspaceId db delivery) :
    Settled platform workspaceId db deliveries := by
  obtain ⟨whole, issued⟩ := withoutLogs_deliveries deliveries db unsubscribe
  refine ⟨allCalls platform workspaceId db deliveries, covers_allCalls deliveries db unsubscribe, issued, ?_⟩
  rw [whole]
  exact unsubscribed_foldl _ _ fun call member => (issued call member).1

/-- Requests and events that bring unsubscriptions of the same sends settle the same state up to times and
sources. -/
theorem unsubscriptions_converge (platform : Platform) (workspaceId : WorkspaceId) (db : Database)
    (first second : List UnsubscribeDelivery)
    (unsubscribe : ∀ delivery ∈ first ++ second, Unsubscribes platform workspaceId db delivery)
    (same : ∀ sendId, (∃ delivery ∈ first, Brings platform workspaceId db sendId delivery) ↔
      ∃ delivery ∈ second, Brings platform workspaceId db sendId delivery) :
    Settled platform workspaceId db first ∧
      SameUpToTimes workspaceId (first.foldl (deliver platform workspaceId) db)
        (second.foldl (deliver platform workspaceId) db) := by
  have early := settled platform workspaceId db first fun delivery member =>
    unsubscribe delivery (List.mem_append_left _ member)
  refine ⟨early, ?_⟩
  obtain ⟨calls, named, issued, these⟩ := early
  obtain ⟨others, namedToo, issuedToo, those⟩ := settled platform workspaceId db second fun delivery member =>
    unsubscribe delivery (List.mem_append_right _ member)
  have covered : ∀ sendId, covers calls sendId = covers others sendId := by
    intro sendId
    rw [Bool.eq_iff_iff, named, namedToo, same]
  apply sameUpToTimes these those covered
  intro id
  rw [Bool.eq_iff_iff, reaches_iff fun call member => (issued call member).1,
    reaches_iff fun call member => (issuedToo call member).1]
  simp only [covered]

section Traces

def mailedOnce : Database :=
  { bouncedDatabase with
    campaigns := Table.empty.insert { id := 1, workspaceId := 1, name := "news", segmentId := 1 } }

def click : UnsubscribeDelivery := .oneClick 5 0 10

def unsubscribeEvent : UnsubscribeDelivery :=
  .batch 1000 [.object [("sg_event_id", .string "e1"), ("event", .string "unsubscribe"), ("timestamp", .number 0),
    ("send_id", .string "00000000-0000-0000-0000-00000000000a")]]

theorem unsubscribes_click : Unsubscribes uuidPlatform 1 mailedOnce click :=
  ⟨bouncedSend, ⟨by decide +kernel, by decide +kernel⟩, by decide +kernel, by decide +kernel⟩

theorem unsubscribes_unsubscribeEvent : Unsubscribes uuidPlatform 1 mailedOnce unsubscribeEvent := by
  unfold Unsubscribes unsubscribeEvent
  decide +kernel

theorem unsubscribes_both {delivery : UnsubscribeDelivery} (either : delivery = click ∨ delivery = unsubscribeEvent) :
    Unsubscribes uuidPlatform 1 mailedOnce delivery := by
  rcases either with rfl | rfl
  · exact unsubscribes_click
  · exact unsubscribes_unsubscribeEvent

/-- Whichever comes first names itself in the history row, which holds no time. -/
theorem source_depends_on_order :
    ¬ ∀ (platform : Platform) (workspaceId : WorkspaceId) (db : Database) (first second : List UnsubscribeDelivery),
      (∀ delivery ∈ first ++ second, Unsubscribes platform workspaceId db delivery) → first.Perm second →
        (first.foldl (deliver platform workspaceId) db).subscriptionStatusHistory.Perm
          (second.foldl (deliver platform workspaceId) db).subscriptionStatusHistory := by
  intro always
  have both : ∀ delivery ∈ [click, unsubscribeEvent] ++ [unsubscribeEvent, click],
      Unsubscribes uuidPlatform 1 mailedOnce delivery := by
    intro delivery member
    apply unsubscribes_both
    simp only [List.cons_append, List.nil_append, List.mem_cons, List.not_mem_nil, or_false] at member
    tauto
  have same := always uuidPlatform 1 mailedOnce _ _ both (List.Perm.swap _ _ _)
  revert same
  decide +kernel

theorem click_and_event_converge :
    Settled uuidPlatform 1 mailedOnce [click, unsubscribeEvent, click] ∧
      SameUpToTimes 1 ([click, unsubscribeEvent, click].foldl (deliver uuidPlatform 1) mailedOnce)
        ([unsubscribeEvent, unsubscribeEvent, click].foldl (deliver uuidPlatform 1) mailedOnce) := by
  apply unsubscriptions_converge
  · intro delivery member
    apply unsubscribes_both
    simp only [List.cons_append, List.nil_append, List.mem_cons, List.not_mem_nil, or_false] at member
    tauto
  · intro sendId
    simp only [List.mem_cons, List.not_mem_nil, or_false, exists_eq_or_imp, exists_eq_left]
    tauto

end Traces

end LocalCrm.Contacts
