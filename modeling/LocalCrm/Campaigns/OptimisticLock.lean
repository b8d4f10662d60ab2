import LocalCrm.Campaigns.Repository
import LocalCrm.Library.VersionStamp
import LocalCrm.Webhooks.EventRules

/-! The version token under which a campaign is launched, scheduled and test-sent. -/

set_option autoImplicit false

namespace LocalCrm.Campaigns

open Library Delivery

structure VerifiedSender where
  id : Nat
  fromEmail : String
  fromName : Option String := none
  deriving DecidableEq, Repr

/-- What the workspace's mail provider key yields at the moment it is asked. -/
inductive SenderDirectory where
  | noKey
  | invalidKey
  | senders (verified : List VerifiedSender)
  deriving DecidableEq, Repr

inductive CampaignSenderErrorCode where
  | senderNotFound
  | noKey
  deriving DecidableEq, Repr

structure CampaignSenderError where
  message : String
  code : CampaignSenderErrorCode
  deriving DecidableEq, Repr

structure ResolvedCampaignSender where
  fromEmail : String
  fromName : Option String
  deriving DecidableEq, Repr

def resolveCampaignSender (directory : SenderDirectory) (campaign : Campaign) :
    Except CampaignSenderError ResolvedCampaignSender :=
  match campaign.fromSenderId.filter (!·.isEmpty) with
  | none =>
    match campaign.fromEmail.filter (!·.isEmpty) with
    | some fromEmail => .ok { fromEmail, fromName := none }
    | none => .error { message := "Campaign has no sender configured", code := .senderNotFound }
  | some fromSenderId =>
    match directory with
    | .noKey => .error { message := "No SendGrid key connected for this workspace", code := .noKey }
    | .invalidKey => .error { message := "SendGrid key is not valid", code := .noKey }
    | .senders verified =>
      match verified.find? fun sender => toString sender.id == fromSenderId with
      | none =>
        .error
          { message := s!"Sender {fromSenderId} is not a verified SendGrid sender for this workspace"
            code := .senderNotFound }
      | some matched =>
        .ok
          { fromEmail := matched.fromEmail
            fromName := (matched.fromName.map Webhooks.jsTrim).filter (!·.isEmpty) }

inductive SendAction where
  | launch
  | schedule (scheduledAt : Timestamp)
  | testSend
  deriving DecidableEq, Repr

inductive SendRouteError where
  | notFound
  | noSenderConfigured
  | sender (error : CampaignSenderError)
  deriving DecidableEq, Repr

def hasSender (campaign : Campaign) : Bool := truthy campaign.fromSenderId || truthy campaign.fromEmail

/-- Launch and schedule leave a campaign without a sender to the locked check; a
test send refuses it on the spot. -/
def SendAction.sender (action : SendAction) (directory : SenderDirectory) (loaded : Option Campaign) :
    Except SendRouteError (Option ResolvedCampaignSender) :=
  match loaded, action with
  | none, .testSend => .error .notFound
  | none, _ => .ok none
  | some campaign, _ =>
    if hasSender campaign then
      match resolveCampaignSender directory campaign with
      | .error failure => .error (.sender failure)
      | .ok resolved => .ok (some resolved)
    else if action = .testSend then .error .noSenderConfigured
    else .ok none

/-- A request past its route's read, on its way to the row lock. Nothing the code
does depends on `shown`: whether a response had displayed the version before that read. -/
structure SendRequest where
  workspaceId : WorkspaceId
  campaignId : CampaignId
  action : SendAction
  expectedVersion : Nat
  directory : SenderDirectory
  sender : Option ResolvedCampaignSender
  shown : Bool
  deriving DecidableEq, Repr

def SendRequest.options (request : SendRequest) : ResolvedSenderOptions where
  expectedVersion := request.expectedVersion
  resolvedFromEmail := request.sender.map (·.fromEmail)
  resolvedFromName := some (request.sender.bind (·.fromName))

def SendRequest.perform (request : SendRequest) (now : Timestamp) (campaigns : Campaigns) :
    Except CampaignStateError Campaigns :=
  match request.action with
  | .launch => launchCampaign now campaigns request.workspaceId request.campaignId request.options
  | .schedule scheduledAt =>
    scheduleCampaign campaigns request.workspaceId request.campaignId scheduledAt request.options
  | .testSend => prepareCampaignTestSend campaigns request.workspaceId request.campaignId request.options

structure Displayed where
  workspaceId : WorkspaceId
  campaignId : CampaignId
  version : Nat
  deriving DecidableEq, Repr

structure LockState where
  campaigns : Campaigns
  displayed : List Displayed := []
  requests : List SendRequest := []

inductive LockEvent where
  | display (workspaceId : WorkspaceId) (campaignId : CampaignId)
  | update (workspaceId : WorkspaceId) (campaignId : CampaignId) (patch : UpdateCampaignInput)
  | cancel (workspaceId : WorkspaceId) (campaignId : CampaignId) (now : Timestamp)
  | send (workspaceId : WorkspaceId) (campaignId : CampaignId) (expectedVersion : Nat) (action : SendAction)
    (directory : SenderDirectory)
  | lock (request : SendRequest) (now : Timestamp)

def LockEvent.transaction (campaigns : Campaigns) : LockEvent → Except CampaignStateError Campaigns
  | .display _ _ | .send _ _ _ _ _ => .ok campaigns
  | .update workspaceId campaignId patch => updateCampaign campaigns workspaceId campaignId patch
  | .cancel workspaceId campaignId now => cancelCampaign now campaigns workspaceId campaignId
  | .lock request now => request.perform now campaigns

def committed (campaigns : Campaigns) : Except CampaignStateError Campaigns → Campaigns
  | .ok next => next
  | .error _ => campaigns

/-- Every answer that carries a row shows what a `display` right behind it would. A
caller may send any version its schema takes, displayed or not. -/
def lockStep (state : LockState) (event : LockEvent) : Option LockState :=
  let campaigns := committed state.campaigns (event.transaction state.campaigns)
  match event with
  | .display workspaceId campaignId =>
    (getCampaign state.campaigns workspaceId campaignId).map fun row =>
      { state with displayed := { workspaceId, campaignId, version := row.version } :: state.displayed }
  | .update _ _ _ | .cancel _ _ _ => some { state with campaigns }
  | .send workspaceId campaignId expectedVersion action directory =>
    if expectedVersion < 1 then some state
    else
      match action.sender directory (getCampaign state.campaigns workspaceId campaignId) with
      | .error _ => some state
      | .ok sender =>
        let shown := decide ({ workspaceId, campaignId, version := expectedVersion : Displayed } ∈ state.displayed)
        let request : SendRequest :=
          { workspaceId, campaignId, action, expectedVersion, directory, sender, shown }
        some { state with requests := request :: state.requests }
  | .lock request _ =>
    if request ∈ state.requests then some { state with campaigns, requests := state.requests.erase request }
    else none

section Transactions

variable {campaigns next : Campaigns} {workspaceId : WorkspaceId} {id : CampaignId}

theorem getCampaign_update {guard : Campaign → Bool} {set : Campaign → Campaign}
    {keeps : ∀ row, (set row).id = row.id} (owner : ∀ row, (set row).workspaceId = row.workspaceId) :
    getCampaign (campaigns.update guard set keeps) workspaceId id =
      (getCampaign campaigns workspaceId id).map fun row => if guard row then set row else row := by
  unfold getCampaign
  rw [Table.find?_update]
  cases campaigns.find? id with
  | none => rfl
  | some row =>
    have owned : (if guard row then set row else row).workspaceId = row.workspaceId := by
      split
      · exact owner row
      · rfl
    simp only [Option.map_some, Option.filter_some, owned]
    split <;> rfl

abbrev CampaignsCarry (campaigns next : Campaigns) : Prop :=
  ∀ workspaceId id, Carries Campaign.version (getCampaign · workspaceId id) campaigns next

theorem campaignsCarry_update {guard : Campaign → Bool} {set : Campaign → Campaign}
    {keeps : ∀ row, (set row).id = row.id} (owner : ∀ row, (set row).workspaceId = row.workspaceId)
    (raised : ∀ row, (set row).version = row.version + 1) :
    CampaignsCarry campaigns (campaigns.update guard set keeps) := by
  intro workspaceId id row stored
  refine ⟨if guard row then set row else row, ?_, ?_⟩
  · show getCampaign (campaigns.update guard set keeps) workspaceId id = _
    rw [getCampaign_update owner]
    exact congrArg _ stored
  · split
    · apply Follows.of_raised
      rw [raised]
      exact Nat.lt_succ_self _
    · exact .refl row

theorem updateCampaign_carries {patch : UpdateCampaignInput}
    (done : updateCampaign campaigns workspaceId id patch = .ok next) : CampaignsCarry campaigns next := by
  obtain ⟨_, _, _, rfl⟩ := updateCampaign_ok done
  exact campaignsCarry_update (fun _ => rfl) fun _ => rfl

theorem cancelCampaign_carries {now : Timestamp} (done : cancelCampaign now campaigns workspaceId id = .ok next) :
    CampaignsCarry campaigns next := by
  obtain ⟨_, _, ⟨_, rfl⟩ | ⟨_, rfl⟩⟩ := cancelCampaign_ok done
  · exact campaignsCarry_update (fun _ => rfl) fun _ => rfl
  · exact campaignsCarry_update (fun _ => rfl) fun _ => rfl

def SendRequest.assign (request : SendRequest) (now : Timestamp) (existing : Campaign) : Campaign :=
  match request.action with
  | .launch => request.options.assignLaunch now existing
  | .schedule scheduledAt => request.options.assignSchedule scheduledAt existing
  | .testSend =>
    let fromEmail := request.options.resolvedFromEmail.or existing.fromEmail
    let fromName := request.options.fromName existing
    if existing.fromEmail = fromEmail ∧ existing.fromName = fromName then existing
    else { existing with fromEmail, fromName, version := existing.version + 1 }

theorem SendRequest.perform_ok {request : SendRequest} {now : Timestamp}
    (done : request.perform now campaigns = .ok next) :
    CampaignsCarry campaigns next ∧
      ∃ existing, getCampaign campaigns request.workspaceId request.campaignId = some existing ∧
        existing.version = request.expectedVersion ∧
        getCampaign next request.workspaceId request.campaignId = some (request.assign now existing) := by
  unfold SendRequest.perform at done
  cases action : request.action with
  | launch =>
    rw [action] at done
    obtain ⟨existing, located, _, expected, _, rfl⟩ := launchCampaign_ok done
    refine ⟨campaignsCarry_update (fun _ => rfl) fun _ => rfl, existing, located, expected, ?_⟩
    refine (getCampaign_update ?_).trans ?_
    · intro row
      rfl
    rw [located]
    have keyed := Table.key_of_find? (getCampaign_some located).1
    simp [SendRequest.assign, action, keyed]
  | schedule scheduledAt =>
    rw [action] at done
    obtain ⟨existing, located, _, expected, rfl⟩ := scheduleCampaign_ok done
    refine ⟨campaignsCarry_update (fun _ => rfl) fun _ => rfl, existing, located, expected, ?_⟩
    refine (getCampaign_update ?_).trans ?_
    · intro row
      rfl
    rw [located]
    have keyed := Table.key_of_find? (getCampaign_some located).1
    simp [SendRequest.assign, action, keyed]
  | testSend =>
    rw [action] at done
    obtain ⟨existing, fromEmail, located, expected, effective, rfl⟩ := prepareCampaignTestSend_ok done
    refine ⟨campaignsCarry_update (fun _ => rfl) fun _ => rfl, existing, located, expected, ?_⟩
    refine (getCampaign_update ?_).trans ?_
    · intro row
      rfl
    rw [located]
    have keyed := Table.key_of_find? (getCampaign_some located).1
    have assigned : request.assign now existing =
        if existing.fromEmail = some fromEmail ∧ existing.fromName = request.options.fromName existing then existing
        else withSender fromEmail (request.options.fromName existing) existing := by
      simp only [SendRequest.assign, action, effective, withSender]
    -- the guard of the update is the negation of "nothing changes"
    by_cases same : existing.fromEmail = some fromEmail ∧ existing.fromName = request.options.fromName existing
    · rw [assigned, if_pos same]
      simp [same.1, ← same.2]
    · rw [assigned, if_neg same]
      have changes : (existing.fromEmail != some fromEmail || existing.fromName != request.options.fromName existing) =
          true := by
        rw [Bool.or_eq_true, bne_iff_ne, bne_iff_ne]
        exact not_and_or.mp same
      simp only [Option.map_some, keyed, beq_self_eq_true, Bool.true_and, changes, if_true]

end Transactions

section Runs

variable {state next : LockState} {event : LockEvent}

theorem transaction_carries {campaigns after : Campaigns} (done : event.transaction campaigns = .ok after) :
    CampaignsCarry campaigns after := by
  cases event with
  | display | send =>
    cases done
    exact fun _ _ => carries_of_eq rfl
  | update workspaceId campaignId patch => exact updateCampaign_carries done
  | cancel workspaceId campaignId now => exact cancelCampaign_carries done
  | lock request now => exact (SendRequest.perform_ok done).1

theorem committed_carries (campaigns : Campaigns) :
    CampaignsCarry campaigns (committed campaigns (event.transaction campaigns)) := by
  cases done : event.transaction campaigns with
  | error failure => exact fun _ _ => carries_of_eq rfl
  | ok after => exact transaction_carries done

theorem lockStep_campaigns (taken : lockStep state event = some next) :
    next.campaigns = committed state.campaigns (event.transaction state.campaigns) := by
  cases event with
  | display workspaceId campaignId =>
    obtain ⟨row, _, rfl⟩ := Option.map_eq_some_iff.mp taken
    rfl
  | update | cancel =>
    cases taken
    rfl
  | send workspaceId campaignId expectedVersion action directory =>
    simp only [lockStep] at taken
    split at taken
    · cases taken
      rfl
    · split at taken
      · cases taken
        rfl
      · cases taken
        rfl
  | lock request now =>
    simp only [lockStep] at taken
    split at taken
    · cases taken
      rfl
    · cases taken

theorem lockStep_carries (taken : lockStep state event = some next) (workspaceId : WorkspaceId) (id : CampaignId) :
    Carries Campaign.version (fun reached => getCampaign reached.campaigns workspaceId id) state next := by
  intro row stored
  show ∃ later, getCampaign next.campaigns workspaceId id = some later ∧ _
  rw [lockStep_campaigns taken]
  exact committed_carries state.campaigns workspaceId id row stored

def Displayed.Seen (dialog : Displayed) (campaigns : Campaigns) : Prop :=
  ∃ row, getCampaign campaigns dialog.workspaceId dialog.campaignId = some row ∧ dialog.version ≤ row.version

def SendRequest.Resolved (request : SendRequest) (campaigns : Campaigns) : Prop :=
  ∃ loaded current, request.action.sender request.directory (some loaded) = .ok request.sender ∧
    request.expectedVersion ≤ loaded.version ∧
    getCampaign campaigns request.workspaceId request.campaignId = some current ∧
    Follows Campaign.version loaded current

theorem Displayed.Seen.carried {dialog : Displayed} {campaigns after : Campaigns} (seen : dialog.Seen campaigns)
    (carries : CampaignsCarry campaigns after) : dialog.Seen after := by
  obtain ⟨row, stored, known⟩ := seen
  obtain ⟨later, present, follows⟩ := carries dialog.workspaceId dialog.campaignId row stored
  exact ⟨later, present, Nat.le_trans known follows.rises⟩

theorem SendRequest.Resolved.carried {request : SendRequest} {campaigns after : Campaigns}
    (resolved : request.Resolved campaigns) (carries : CampaignsCarry campaigns after) : request.Resolved after := by
  obtain ⟨loaded, current, sender, known, stored, follows⟩ := resolved
  obtain ⟨later, present, onward⟩ := carries request.workspaceId request.campaignId current stored
  exact ⟨loaded, later, sender, known, present, follows.trans onward⟩

structure LockInvariant (state : LockState) : Prop where
  seen : ∀ dialog ∈ state.displayed, dialog.Seen state.campaigns
  resolved : ∀ request ∈ state.requests, request.shown = true → request.Resolved state.campaigns

theorem LockInvariant.carried (holds : LockInvariant state) {campaigns : Campaigns}
    (carries : CampaignsCarry state.campaigns campaigns) : LockInvariant { state with campaigns } where
  seen := fun dialog shown => (holds.seen dialog shown).carried carries
  resolved := fun request waiting shown => (holds.resolved request waiting shown).carried carries

theorem lockStep_invariant (holds : LockInvariant state) (taken : lockStep state event = some next) :
    LockInvariant next := by
  have onward :
      LockInvariant { state with campaigns := committed state.campaigns (event.transaction state.campaigns) } :=
    holds.carried (committed_carries state.campaigns)
  cases event with
  | display workspaceId campaignId =>
    obtain ⟨row, stored, rfl⟩ := Option.map_eq_some_iff.mp taken
    refine ⟨fun dialog shown => ?_, holds.resolved⟩
    rcases List.mem_cons.mp shown with rfl | older
    · exact ⟨row, stored, Nat.le_refl _⟩
    · exact holds.seen dialog older
  | update | cancel =>
    cases taken
    exact onward
  | send workspaceId campaignId expectedVersion action directory =>
    simp only [lockStep] at taken
    split at taken
    · cases taken
      exact holds
    · split at taken
      · cases taken
        exact holds
      · next sender resolved =>
        cases taken
        refine ⟨holds.seen, fun request waiting shown => ?_⟩
        rcases List.mem_cons.mp waiting with rfl | older
        · obtain ⟨loaded, stored, known⟩ := holds.seen _ (of_decide_eq_true shown)
          rw [stored] at resolved
          exact ⟨loaded, loaded, resolved, known, stored, .refl loaded⟩
        · exact holds.resolved request older shown
  | lock request now =>
    simp only [lockStep] at taken
    split at taken
    · cases taken
      exact ⟨onward.seen, fun other waiting => onward.resolved other (List.mem_of_mem_erase waiting)⟩
    · cases taken

end Runs

section Lock

/-- What an edit can change. -/
structure CampaignContent where
  name : String
  segmentId : SegmentId
  templateId : Option String
  fromSenderId : Option String
  fromEmail : Option String
  fromName : Option String
  deriving DecidableEq, Repr

def campaignContent (campaign : Campaign) : CampaignContent :=
  { name := campaign.name, segmentId := campaign.segmentId, templateId := campaign.templateId
    fromSenderId := campaign.fromSenderId, fromEmail := campaign.fromEmail, fromName := campaign.fromName }

/-- The row a send works from has the confirmed row's content. -/
structure ActsOn (confirmed acted : Campaign) : Prop where
  name : acted.name = confirmed.name
  segment : acted.segmentId = confirmed.segmentId
  template : acted.templateId = confirmed.templateId
  chosenSender : acted.fromSenderId = confirmed.fromSenderId

/-- The address it works under is what the confirmed row's own sender resolves to. -/
def SendRequest.SendsAs (request : SendRequest) (confirmed acted : Campaign) : Prop :=
  ∃ sender, request.action.sender request.directory (some confirmed) = .ok sender ∧
    acted.fromEmail = (sender.map (·.fromEmail)).or confirmed.fromEmail ∧
    acted.fromName = sender.bind (·.fromName)

theorem SendRequest.actsOn_assign {request : SendRequest} {now : Timestamp} {existing : Campaign} :
    ActsOn existing (request.assign now existing) := by
  unfold SendRequest.assign
  cases action : request.action with
  | launch | schedule => exact ⟨rfl, rfl, rfl, rfl⟩
  | testSend =>
    simp only
    split <;> exact ⟨rfl, rfl, rfl, rfl⟩

theorem SendRequest.sendsAs_assign {request : SendRequest} {now : Timestamp} {existing : Campaign}
    (resolved : request.action.sender request.directory (some existing) = .ok request.sender) :
    request.SendsAs existing (request.assign now existing) := by
  refine ⟨request.sender, resolved, ?_⟩
  unfold SendRequest.assign
  cases action : request.action with
  | launch | schedule => exact ⟨rfl, rfl⟩
  | testSend =>
    simp only
    split
    · next unchanged => exact unchanged
    · exact ⟨rfl, rfl⟩

theorem lockStep_acts {state : LockState} (holds : LockInvariant state) {request : SendRequest}
    (waiting : request ∈ state.requests) {now : Timestamp} {campaigns : Campaigns}
    (accepted : request.perform now state.campaigns = .ok campaigns) :
    ∃ confirmed acted, getCampaign state.campaigns request.workspaceId request.campaignId = some confirmed ∧
      confirmed.version = request.expectedVersion ∧
      getCampaign campaigns request.workspaceId request.campaignId = some acted ∧
      ActsOn confirmed acted ∧ (request.shown = true → request.SendsAs confirmed acted) := by
  obtain ⟨_, existing, located, expected, written⟩ := SendRequest.perform_ok accepted
  refine ⟨existing, _, located, expected, written, SendRequest.actsOn_assign, fun shown => ?_⟩
  obtain ⟨loaded, current, sender, known, stored, follows⟩ := holds.resolved request waiting shown
  rw [stored] at located
  cases located
  -- the token stands between the read and the lock, so nothing was written in between
  have unmoved := follows.current known expected
  rw [← unmoved] at sender
  exact SendRequest.sendsAs_assign sender

variable {start : LockState} {events : List LockEvent}

theorem lockInvariant_visited (idle : start.displayed = [] ∧ start.requests = []) {state : LockState}
    (visited : Visited lockStep start events state) : LockInvariant state := by
  obtain ⟨past, _, reached⟩ := visited
  have started : LockInvariant start := by
    refine ⟨fun dialog shown => ?_, fun request waiting => ?_⟩
    · rw [idle.1] at shown
      cases shown
    · rw [idle.2] at waiting
      cases waiting
  exact invariant_of_every_run (fun _ _ _ => lockStep_invariant) started reached

theorem campaign_optimistic_lock (idle : start.displayed = [] ∧ start.requests = []) :
    -- a send that is let through acts on every state's row that has the expected version
    (∀ state, Visited lockStep start events state → ∀ request ∈ state.requests, ∀ now campaigns,
      request.perform now state.campaigns = .ok campaigns →
      ∀ witness, Visited lockStep start events witness → ∀ confirmed,
      getCampaign witness.campaigns request.workspaceId request.campaignId = some confirmed →
      confirmed.version = request.expectedVersion →
      ∃ acted, getCampaign campaigns request.workspaceId request.campaignId = some acted ∧
        ActsOn confirmed acted ∧ (request.shown = true → request.SendsAs confirmed acted)) ∧
    -- equal versions have equal content
    (∀ one other, Visited lockStep start events one → Visited lockStep start events other →
      ∀ workspaceId id row found, getCampaign one.campaigns workspaceId id = some row →
      getCampaign other.campaigns workspaceId id = some found → row.version = found.version →
      campaignContent row = campaignContent found) ∧
    -- versions never decrease
    (∀ earlier later between, Visited lockStep start events earlier → run lockStep earlier between = some later →
      ∀ workspaceId id row, getCampaign earlier.campaigns workspaceId id = some row →
      ∃ found, getCampaign later.campaigns workspaceId id = some found ∧ row.version ≤ found.version) ∧
    -- a refused operation changes nothing
    ∀ state event next failure, lockStep state event = some next →
      event.transaction state.campaigns = .error failure → next.campaigns = state.campaigns := by
  refine ⟨?acts, ?content, ?rises, ?refused⟩
  case acts =>
    intro state visited request waiting now campaigns accepted witness seen confirmed stored expected
    obtain ⟨current, acted, located, same, written, acts⟩ :=
      lockStep_acts (lockInvariant_visited idle visited) waiting accepted
    have equal := eq_of_stamp (fun _ _ _ taken => lockStep_carries taken request.workspaceId request.campaignId)
      visited seen located stored (same.trans expected.symm)
    rw [← equal]
    exact ⟨acted, written, acts⟩
  case content =>
    intro one other visited seen workspaceId id row found stored present same
    exact congrArg campaignContent
      (eq_of_stamp (fun _ _ _ taken => lockStep_carries taken workspaceId id) visited seen stored present same)
  case rises =>
    intro earlier later between _ onward workspaceId id row stored
    obtain ⟨found, present, follows⟩ :=
      carries_of_run (fun _ _ _ taken => lockStep_carries taken workspaceId id) onward row stored
    exact ⟨found, present, follows.rises⟩
  case refused =>
    intro state event next failure taken refused
    rw [lockStep_campaigns taken, refused]
    rfl

def springCampaign : Campaign :=
  { id := 1, workspaceId := 1, name := "Spring", segmentId := 4, templateId := some "d-1"
    fromSenderId := some "7", version := 3 }

def springDialog : Displayed := { workspaceId := 1, campaignId := 1, version := 3 }

def springDirectory : SenderDirectory :=
  .senders
    [{ id := 5, fromEmail := "info@shop.example" },
      { id := 7, fromEmail := "news@shop.example", fromName := some "Shop " }]

def springRequest : SendRequest :=
  { workspaceId := 1, campaignId := 1, action := .launch, expectedVersion := 3, directory := springDirectory
    sender := some { fromEmail := "news@shop.example", fromName := some "Shop" }, shown := true }

def springDialogs : LockState := { campaigns := Table.empty.insert springCampaign }

def springWaiting : LockState :=
  { springDialogs with displayed := [springDialog], requests := [springRequest] }

theorem springWaiting_reached :
    run lockStep springDialogs [.display 1 1, .send 1 1 3 .launch springDirectory] = some springWaiting := by
  rw [run_cons]
  refine ⟨{ springDialogs with displayed := [springDialog] }, rfl, ?_⟩
  rw [run_cons]
  exact ⟨springWaiting, rfl, rfl⟩

theorem spring_launch_acts_on_confirmed :
    ∃ campaigns acted, springRequest.perform 50 springWaiting.campaigns = .ok campaigns ∧
      getCampaign campaigns 1 1 = some acted ∧ ActsOn springCampaign acted ∧
      springRequest.SendsAs springCampaign acted := by
  have visited : Visited lockStep springDialogs [.display 1 1, .send 1 1 3 .launch springDirectory]
      springWaiting := ⟨_, List.prefix_rfl, springWaiting_reached⟩
  have accepted : (springRequest.perform 50 springWaiting.campaigns).toOption.isSome = true := by decide +kernel
  have located : getCampaign springWaiting.campaigns 1 1 = some springCampaign := by decide +kernel
  cases done : springRequest.perform 50 springWaiting.campaigns with
  | error failure =>
    rw [done] at accepted
    cases accepted
  | ok campaigns =>
    obtain ⟨acted, written, acts, sends⟩ := (campaign_optimistic_lock ⟨rfl, rfl⟩).1 springWaiting visited springRequest
      List.mem_cons_self 50 campaigns done springWaiting visited springCampaign located rfl
    exact ⟨campaigns, acted, rfl, written, acts, sends rfl⟩

/-- No response has displayed version 4 when the route reads version 3. -/
def aheadRequest : SendRequest := { springRequest with expectedVersion := 4, shown := false }

def otherSender : UpdateCampaignInput := { fromSenderId := some (some "5") }

def aheadWaiting : LockState :=
  { campaigns := springDialogs.campaigns.update (·.id == 1) otherSender.assign otherSender.id_assign
    requests := [aheadRequest] }

def aheadTrace : List LockEvent := [.send 1 1 4 .launch springDirectory, .update 1 1 otherSender]

theorem aheadWaiting_reached : run lockStep springDialogs aheadTrace = some aheadWaiting := by
  unfold aheadTrace
  rw [run_cons]
  refine ⟨{ springDialogs with requests := [aheadRequest] }, rfl, ?_⟩
  rw [run_cons]
  exact ⟨aheadWaiting, rfl, rfl⟩

/-- The route has resolved version 3's sender by the time version 4 names another. -/
theorem version_ahead_sends_as_other :
    ∃ state campaigns confirmed acted, Visited lockStep springDialogs aheadTrace state ∧
      aheadRequest ∈ state.requests ∧ aheadRequest.perform 50 state.campaigns = .ok campaigns ∧
      getCampaign state.campaigns 1 1 = some confirmed ∧ confirmed.version = aheadRequest.expectedVersion ∧
      getCampaign campaigns 1 1 = some acted ∧ ¬ aheadRequest.SendsAs confirmed acted := by
  let confirmed : Campaign := { springCampaign with fromSenderId := some "5", version := 4 }
  let acted := aheadRequest.options.assignLaunch 50 confirmed
  have located : getCampaign aheadWaiting.campaigns 1 1 = some confirmed := by decide +kernel
  have resolved : SendAction.launch.sender springDirectory (some confirmed) =
      .ok (some { fromEmail := "info@shop.example", fromName := none }) := by decide +kernel
  refine ⟨aheadWaiting, _, confirmed, acted, ⟨_, List.prefix_rfl, aheadWaiting_reached⟩, List.mem_cons_self, rfl,
    located, rfl, rfl, ?_⟩
  rintro ⟨sender, chosen, address, _⟩
  rw [show aheadRequest.action.sender aheadRequest.directory = SendAction.launch.sender springDirectory from rfl,
    resolved] at chosen
  cases chosen
  exact absurd address (by decide +kernel)

end Lock

end LocalCrm.Campaigns
