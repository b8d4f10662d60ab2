import LocalCrm.Webhooks.Provisioning

/-! Provisioning for one workspace leaves the webhooks of the others alone.

A webhook is found by its friendly name, which shows a part of the workspace's id only.
-/

set_option autoImplicit false

namespace LocalCrm.Webhooks.Provisioning

open Library

section Accounts

variable {sendgrid : SendGrid} {account after : Account} {id other : WebhookId} {url : String}
  {friendlyName madeFor : Option String} {webhook : Webhook}

def Known (account : Account) : Prop := ∀ id, (account.find? id).isSome → id ∈ account.issued

theorem find?_patched : (account.patched id url friendlyName).find? other =
    if other = id then (account.find? other).map fun webhook => { webhook with url, friendlyName }
    else account.find? other := by
  have keeps : ∀ webhook : Webhook, ({ webhook with url, friendlyName } : Webhook).id = webhook.id := fun _ => rfl
  exact @Table.find?_update_at _ _ Webhook.id _ account.webhooks other id _ keeps

theorem Known.absent (known : Known account) : account.find? (sendgrid.newId account.issued) = none := by
  rw [← Option.not_isSome_iff_eq_none]
  exact fun present => sendgrid.fresh account.issued (known _ present)

theorem find?_created (known : Known account) : (account.created sendgrid url friendlyName madeFor).find? other =
    if other = sendgrid.newId account.issued then
      some { id := sendgrid.newId account.issued, url, friendlyName, madeFor }
    else account.find? other := by
  have absent : account.webhooks.find? (sendgrid.newId account.issued) = none := known.absent
  exact Table.find?_insert_fresh absent

theorem known_patched (known : Known account) : Known (account.patched id url friendlyName) := by
  intro other present
  rw [find?_patched] at present
  split at present
  · rw [Option.isSome_map] at present
    exact known other present
  · exact known other present

theorem known_created (known : Known account) : Known (account.created sendgrid url friendlyName madeFor) := by
  intro other present
  rw [find?_created known] at present
  split at present
  · next same => exact same ▸ List.mem_cons_self
  · exact List.mem_cons_of_mem _ (known other present)

theorem known_erase (known : Known account) :
    Known { account with webhooks := account.webhooks.erase id } := by
  intro other present
  apply known other
  have kept : ((account.webhooks.erase id).find? other).isSome := present
  rw [Table.find?_erase] at kept
  split at kept
  · cases kept
  · exact kept

end Accounts

section Requests

variable {sendgrid : SendGrid} {account after : Account} {callbackUrl workspaceId : String} {id : WebhookId}
  {reply : Reply} {replies : Replies}

def gone (account : Account) (id : WebhookId) : Reply → Bool
  | .answered => (account.find? id).isNone
  | .refused status => status.code == notFound
  | .lost _ => false

def named (account : Account) (callbackUrl workspaceId : String) (id : WebhookId) : Account :=
  account.patched id callbackUrl (some (webhookFriendlyName workspaceId))

def newlyMade (sendgrid : SendGrid) (account : Account) (callbackUrl workspaceId : String) : Account :=
  account.created sendgrid callbackUrl (some (webhookFriendlyName workspaceId)) (some workspaceId)

inductive Patches (account : Account) (callbackUrl workspaceId : String) (id : WebhookId) (reply : Reply) :
    Option (Except PatchWebhookError WebhookId) × Account → Prop where
  | refused (error : PatchWebhookError) (missing : error.recoverable = true → gone account id reply = true) :
    Patches account callbackUrl workspaceId id reply (some (.error error), account)
  | patched (present : (account.find? id).isSome) :
    Patches account callbackUrl workspaceId id reply (some (.ok id), named account callbackUrl workspaceId id)
  | unsent : Patches account callbackUrl workspaceId id reply (none, account)
  | unanswered : Patches account callbackUrl workspaceId id reply (none, named account callbackUrl workspaceId id)

theorem patches_patchWebhook :
    Patches account callbackUrl workspaceId id reply (patchWebhook account callbackUrl workspaceId id reply) := by
  cases reply with
  | answered =>
    by_cases present : (account.find? id).isSome
    · simp only [patchWebhook, patchSettings, if_pos present]
      exact .patched present
    · simp only [patchWebhook, patchSettings, if_neg present]
      exact .refused _ fun _ => Option.isNone_iff_eq_none.mpr (Option.not_isSome_iff_eq_none.mp present)
  | refused status => exact .refused _ fun same => same
  | lost applied =>
    cases applied with
    | false => exact .unsent
    | true => exact .unanswered

inductive Posts (sendgrid : SendGrid) (account : Account) (callbackUrl workspaceId : String) :
    Response WebhookId × Account → Prop where
  | refused (code : Nat) : Posts sendgrid account callbackUrl workspaceId (.status code, account)
  | created : Posts sendgrid account callbackUrl workspaceId
      (.ok (sendgrid.newId account.issued), newlyMade sendgrid account callbackUrl workspaceId)
  | unsent : Posts sendgrid account callbackUrl workspaceId (.thrown, account)
  | unanswered : Posts sendgrid account callbackUrl workspaceId
      (.thrown, newlyMade sendgrid account callbackUrl workspaceId)

theorem posts_postCreate :
    Posts sendgrid account callbackUrl workspaceId (postCreate sendgrid account callbackUrl workspaceId reply) := by
  cases reply with
  | answered => exact .created
  | refused status => exact .refused status.code
  | lost applied =>
    cases applied with
    | false => exact .unsent
    | true => exact .unanswered

theorem posts_postEither {again : Reply} :
    Posts sendgrid account callbackUrl workspaceId
      (postEither sendgrid account callbackUrl workspaceId reply again) := by
  have first := @posts_postCreate sendgrid account callbackUrl workspaceId reply
  unfold postEither
  generalize postCreate sendgrid account callbackUrl workspaceId reply = posted at first
  cases first with
  | refused code =>
    simp only
    split
    · exact posts_postCreate
    · exact .refused code
  | created => exact .created
  | unsent => exact .unsent
  | unanswered => exact .unanswered

inductive Ensures (sendgrid : SendGrid) (account : Account) (callbackUrl workspaceId : String)
    (aimed : Webhook → Prop) : Created → Prop where
  | kept (result : Option (Except ProvisionEventWebhookError WebhookId)) (none : ∀ id, result ≠ some (.ok id)) :
    Ensures sendgrid account callbackUrl workspaceId aimed (result, account)
  | reused (webhook : Webhook) (stored : account.find? webhook.id = some webhook) (target : aimed webhook)
    (pointed : webhook.url = callbackUrl) :
    Ensures sendgrid account callbackUrl workspaceId aimed (some (.ok webhook.id), account)
  | patched (id : WebhookId) (result : Option (Except ProvisionEventWebhookError WebhookId))
    (target : ∀ webhook, account.find? id = some webhook → aimed webhook)
    (answered : ∀ other, result = some (.ok other) → other = id ∧ (account.find? id).isSome) :
    Ensures sendgrid account callbackUrl workspaceId aimed (result, named account callbackUrl workspaceId id)
  | created (result : Option (Except ProvisionEventWebhookError WebhookId))
    (answered : ∀ other, result = some (.ok other) → other = sendgrid.newId account.issued) :
    Ensures sendgrid account callbackUrl workspaceId aimed (result, newlyMade sendgrid account callbackUrl workspaceId)

theorem Ensures.mono {aimed wider : Webhook → Prop} {made : Created} (more : ∀ webhook, aimed webhook → wider webhook)
    (ensures : Ensures sendgrid account callbackUrl workspaceId aimed made) :
    Ensures sendgrid account callbackUrl workspaceId wider made := by
  cases ensures with
  | kept result none => exact .kept result none
  | reused webhook stored target pointed => exact .reused webhook stored (more webhook target) pointed
  | patched id result target answered =>
    exact .patched id result (fun webhook stored => more webhook (target webhook stored)) answered
  | created result answered => exact .created result answered

theorem ensures_createNew {aimed : Webhook → Prop} :
    Ensures sendgrid account callbackUrl workspaceId aimed
      (createNew sendgrid account callbackUrl workspaceId replies) := by
  have posts := @posts_postEither sendgrid account callbackUrl workspaceId replies.create replies.createAgain
  unfold createNew
  generalize postEither sendgrid account callbackUrl workspaceId replies.create replies.createAgain = posted at posts
  cases posts with
  | refused | unsent => exact .kept _ fun id same => by cases same
  | created => exact .created _ fun other same => by cases same; rfl
  | unanswered => exact .created _ fun other same => by cases same

theorem ensures_takeOver {aimed : Webhook → Prop} {existing : Webhook}
    (stored : account.find? existing.id = some existing) (target : aimed existing) :
    Ensures sendgrid account callbackUrl workspaceId aimed
      (takeOver account callbackUrl workspaceId existing replies) := by
  have only : ∀ webhook, account.find? existing.id = some webhook → aimed webhook := by
    intro webhook found
    rw [← Option.some.inj (stored.symm.trans found)]
    exact target
  unfold takeOver
  split
  · next pointed => exact .reused existing stored target pointed
  · have patches := @patches_patchWebhook account callbackUrl workspaceId existing.id replies.patchFound
    generalize patchWebhook account callbackUrl workspaceId existing.id replies.patchFound = patched at patches
    cases patches with
    | refused | unsent => exact .kept _ fun id same => by cases same
    | patched present => exact .patched _ _ only fun other same => by cases same; exact ⟨rfl, present⟩
    | unanswered => exact .patched _ _ only fun other same => by cases same

def bearsName (workspaceId : String) (webhook : Webhook) : Bool :=
  webhook.friendlyName == some (webhookFriendlyName workspaceId)

theorem ensures_createWebhook :
    Ensures sendgrid account callbackUrl workspaceId (fun webhook => bearsName workspaceId webhook = true)
      (createWebhook sendgrid account callbackUrl workspaceId replies) := by
  unfold createWebhook
  cases replies.list with
  | lost => exact .kept _ fun id same => by cases same
  | refused status => exact ensures_createNew
  | answered order maxAllowed =>
    simp only [getSettings]
    split
    · next existing found =>
      have listed : existing ∈ account.webhooks.rows :=
        (order.complete _).mem_iff.mp (List.mem_of_find?_eq_some found)
      exact ensures_takeOver (Table.find?_of_mem listed) (List.find?_some found)
    · split
      · exact .kept _ fun id same => by cases same
      · exact ensures_createNew

theorem ensures_ensureWebhook {existing : Option WebhookId} :
    Ensures sendgrid account callbackUrl workspaceId
      (fun webhook => existing = some webhook.id ∨
        existing.all (fun id => gone account id replies.patchStored) = true ∧ bearsName workspaceId webhook = true)
      (ensureWebhook sendgrid account callbackUrl workspaceId existing replies) := by
  cases existing with
  | none => exact ensures_createWebhook.mono fun webhook bears => .inr ⟨rfl, bears⟩
  | some id =>
    have stored : ∀ webhook, account.find? id = some webhook → some id = some webhook.id := by
      intro webhook found
      rw [Table.key_of_find? (found : account.webhooks.find? id = some webhook)]
    have patches := @patches_patchWebhook account callbackUrl workspaceId id replies.patchStored
    unfold ensureWebhook
    simp only
    generalize patchWebhook account callbackUrl workspaceId id replies.patchStored = patched at patches
    cases patches with
    | refused error missing =>
      simp only
      split
      · next recoverable =>
        exact ensures_createWebhook.mono fun webhook bears => .inr ⟨missing recoverable, bears⟩
      · exact .kept _ fun id same => by cases same
    | patched present =>
      apply Ensures.patched id
      · exact fun webhook found => .inl (stored webhook found)
      · exact fun other same => by cases same; exact ⟨rfl, present⟩
    | unsent => exact .kept _ fun id same => by cases same
    | unanswered =>
      apply Ensures.patched id
      · exact fun webhook found => .inl (stored webhook found)
      · exact fun other same => by cases same

end Requests

section Calls

variable {sendgrid : SendGrid} {account after : Account} {callbackUrl workspaceId : String} {id : WebhookId}
  {aimed : Webhook → Prop} {made : Created} {existing : Option WebhookId} {replies : Replies}

/-- Only what was made for the workspace was changed, and only for it was anything made. -/
structure Confined (workspaceId : String) (account after : Account) : Prop where
  others : ∀ id webhook, account.find? id = some webhook → webhook.madeFor ≠ some workspaceId →
    after.find? id = some webhook
  owned : ∀ id webhook, after.find? id = some webhook → account.find? id ≠ some webhook →
    webhook.madeFor = some workspaceId ∧ bearsName workspaceId webhook = true
  issued : ∀ id ∈ account.issued, id ∈ after.issued
  revived : ∀ id ∈ account.issued, account.find? id = none → after.find? id = none
  known : Known after

theorem confined_refl (known : Known account) : Confined workspaceId account account where
  others _ _ stored _ := stored
  owned _ _ stored differs := absurd stored differs
  issued _ member := member
  revived _ _ absent := absent
  known := known

theorem confined_named (known : Known account)
    (own : ∀ webhook, account.find? id = some webhook → webhook.madeFor = some workspaceId) :
    Confined workspaceId account (named account callbackUrl workspaceId id) where
  others other webhook stored foreign := by
    rw [named, find?_patched]
    split
    · next same => exact absurd (own webhook (same ▸ stored)) foreign
    · exact stored
  owned other webhook stored differs := by
    rw [named, find?_patched] at stored
    split at stored
    · next same =>
      obtain ⟨before, found, rfl⟩ := Option.map_eq_some_iff.mp stored
      exact ⟨own before (same ▸ found), beq_iff_eq.mpr rfl⟩
    · exact absurd stored differs
  issued _ member := member
  revived other _ absent := by
    rw [named, find?_patched, absent, Option.map_none, ite_self]
  known := known_patched known

theorem confined_newlyMade (known : Known account) :
    Confined workspaceId account (newlyMade sendgrid account callbackUrl workspaceId) where
  others other webhook stored _ := by
    have differs : other ≠ sendgrid.newId account.issued := by
      rintro rfl
      rw [known.absent] at stored
      cases stored
    rw [newlyMade, find?_created known, if_neg differs]
    exact stored
  owned other webhook stored differs := by
    rw [newlyMade, find?_created known] at stored
    split at stored
    · rw [← Option.some.inj stored]
      exact ⟨rfl, beq_iff_eq.mpr rfl⟩
    · exact absurd stored differs
  issued _ member := List.mem_cons_of_mem _ member
  revived other member absent := by
    have differs : other ≠ sendgrid.newId account.issued := fun same => sendgrid.fresh account.issued (same ▸ member)
    rw [newlyMade, find?_created known, if_neg differs]
    exact absent
  known := known_created known

theorem find?_named (present : (account.find? id).isSome) : ∃ webhook before, account.find? id = some before ∧
    (named account callbackUrl workspaceId id).find? id = some webhook ∧ webhook.url = callbackUrl ∧
      webhook.madeFor = before.madeFor := by
  obtain ⟨before, stored⟩ := Option.isSome_iff_exists.mp present
  refine ⟨{ before with url := callbackUrl, friendlyName := some (webhookFriendlyName workspaceId) }, before, stored,
    ?_, rfl, rfl⟩
  rw [named, find?_patched, if_pos rfl, stored]
  rfl

theorem Ensures.pointed (known : Known account) (ensures : Ensures sendgrid account callbackUrl workspaceId aimed made)
    (done : made.1 = some (.ok id)) : ∃ webhook, made.2.find? id = some webhook ∧ webhook.url = callbackUrl := by
  cases ensures with
  | kept result none => exact absurd done (none id)
  | reused webhook stored target pointed =>
    cases done
    exact ⟨webhook, stored, pointed⟩
  | patched target result aims answered =>
    obtain ⟨rfl, present⟩ := answered id done
    obtain ⟨webhook, _, _, stored, pointed, _⟩ := find?_named present
    exact ⟨webhook, stored, pointed⟩
  | created result answered =>
    obtain rfl := answered id done
    have stored := @find?_created sendgrid account (sendgrid.newId account.issued) callbackUrl
      (some (webhookFriendlyName workspaceId)) (some workspaceId) known
    rw [if_pos rfl] at stored
    exact ⟨_, stored, rfl⟩

theorem Ensures.known (known : Known account) (ensures : Ensures sendgrid account callbackUrl workspaceId aimed made) :
    Known made.2 := by
  cases ensures with
  | kept | reused => exact known
  | patched id result target answered => exact known_patched known
  | created result answered => exact known_created known

theorem Ensures.confined (known : Known account) (ensures : Ensures sendgrid account callbackUrl workspaceId aimed made)
    (own : ∀ webhook, account.find? webhook.id = some webhook → aimed webhook → webhook.madeFor = some workspaceId) :
    Confined workspaceId account made.2 ∧
      ∀ id, made.1 = some (.ok id) →
        ∀ webhook, made.2.find? id = some webhook → webhook.madeFor = some workspaceId := by
  have target : ∀ id, (∀ webhook, account.find? id = some webhook → aimed webhook) →
      ∀ webhook, account.find? id = some webhook → webhook.madeFor = some workspaceId := by
    intro id aims webhook stored
    obtain rfl := Table.key_of_find? (stored : account.webhooks.find? id = some webhook)
    exact own webhook stored (aims webhook stored)
  cases ensures with
  | kept result none => exact ⟨confined_refl known, fun id done => absurd done (none id)⟩
  | reused webhook stored aims pointed =>
    refine ⟨confined_refl known, ?_⟩
    intro id done later found
    cases done
    rw [← Option.some.inj (stored.symm.trans found)]
    exact own webhook stored aims
  | patched id result aims answered =>
    refine ⟨confined_named known (target id aims), ?_⟩
    intro other done webhook found
    obtain ⟨rfl, present⟩ := answered other done
    obtain ⟨changed, before, stored, patched, _, maker⟩ := @find?_named account callbackUrl workspaceId other present
    rw [← Option.some.inj (patched.symm.trans found), maker]
    exact target other aims before stored
  | created result answered =>
    refine ⟨confined_newlyMade known, ?_⟩
    intro other done webhook found
    obtain rfl := answered other done
    have stored := @find?_created sendgrid account (sendgrid.newId account.issued) callbackUrl
      (some (webhookFriendlyName workspaceId)) (some workspaceId) known
    rw [if_pos rfl] at stored
    rw [← Option.some.inj (stored.symm.trans found)]

theorem provisionEventWebhook_secure (secure : isSecure callbackUrl = true) :
    (provisionEventWebhook sendgrid account callbackUrl workspaceId existing replies).2 =
        (ensureWebhook sendgrid account callbackUrl workspaceId (existing.filter fun id => id != "") replies).2 ∧
      ∀ id, (provisionEventWebhook sendgrid account callbackUrl workspaceId existing replies).1.webhookId? = some id →
        (ensureWebhook sendgrid account callbackUrl workspaceId (existing.filter fun id => id != "") replies).1 =
          some (.ok id) := by
  unfold provisionEventWebhook
  rw [if_pos secure]
  generalize ensureWebhook sendgrid account callbackUrl workspaceId (existing.filter fun id => id != "") replies = made
  obtain ⟨result, after⟩ := made
  cases result with
  | none => exact ⟨rfl, fun id same => by cases same⟩
  | some ensured =>
    cases ensured with
    | error error => exact ⟨rfl, fun id same => by cases same⟩
    | ok id =>
      refine ⟨rfl, ?_⟩
      intro other same
      have signed : (enableSignedVerification after id replies).webhookId? = some other := same
      unfold enableSignedVerification at signed
      cases replied : replies.sign with
      | answered =>
        by_cases present : (after.find? id).isSome
        · simp only [replied, patchSigned, if_pos present] at signed
          cases signed
          rfl
        · simp only [replied, patchSigned, if_neg present] at signed
          cases signed
          rfl
      | refused status =>
        simp only [replied, patchSigned] at signed
        cases signed
        rfl
      | lost applied =>
        simp only [replied, patchSigned] at signed
        cases signed

theorem provisionEventWebhook_insecure (insecure : isSecure callbackUrl = false) :
    provisionEventWebhook sendgrid account callbackUrl workspaceId existing replies =
      (.error .insecureUrl none, account) := by
  unfold provisionEventWebhook
  rw [insecure]
  rfl

end Calls

section Runs

variable {sendgrid : SendGrid} {world next : Sharing} {event : SharingEvent} {call : Call} {account : Account}

/-- The call has no webhook id to patch, or the account no longer has the webhook. -/
def asksByName (world : Sharing) (call : Call) : Bool :=
  isSecure call.callbackUrl && ((world.existing call).filter fun id => id != "").all fun id =>
    gone world.account id call.replies.patchStored

/-- Where a call asks by name, whatever bears its workspace's friendly name was made for the workspace. -/
def namesItsOwn (world : Sharing) : SharingEvent → Bool
  | .provision call => !asksByName world call || world.account.webhooks.rows.all fun webhook =>
      !bearsName call.workspaceId webhook || webhook.madeFor == some call.workspaceId
  | .ownerCreates _ _ | .ownerPatches _ _ _ | .ownerDeletes _ => true

/-- A call changes no url and no name of a webhook that another workspace obtained or the platform did not create. -/
def KeepsApart (world : Sharing) : SharingEvent → Sharing → Prop
  | .provision call, next => ∀ id webhook, world.account.find? id = some webhook →
      (webhook.madeFor = none ∨ ∃ other ≠ call.workspaceId, (other, id) ∈ world.obtained) →
        ∃ later, next.account.find? id = some later ∧ later.url = webhook.url ∧
          later.friendlyName = webhook.friendlyName
  | .ownerCreates _ _, _ | .ownerPatches _ _ _, _ | .ownerDeletes _, _ => True

/-- A webhook returned with a public key exists and has the callback url of the call. -/
def PointsHome (sendgrid : SendGrid) (world : Sharing) : SharingEvent → Sharing → Prop
  | .provision call, next => ∀ id publicKey, (world.provisioned sendgrid call).1 = .provisioned id publicKey →
      ∃ webhook, next.account.find? id = some webhook ∧ webhook.url = call.callbackUrl
  | .ownerCreates _ _, _ | .ownerPatches _ _ _, _ | .ownerDeletes _, _ => True

inductive SharingStep (sendgrid : SendGrid) (world : Sharing) : SharingEvent → Sharing → Prop where
  | returned (call : Call) {id : WebhookId} (got : (world.provisioned sendgrid call).1.webhookId? = some id) :
    SharingStep sendgrid world (.provision call)
      (({ world with account := (world.provisioned sendgrid call).2 } : Sharing).got call.workspaceId id)
  | ended (call : Call) (nothing : (world.provisioned sendgrid call).1.webhookId? = none) :
    SharingStep sendgrid world (.provision call) { world with account := (world.provisioned sendgrid call).2 }
  | created (url : String) (friendlyName : Option String) :
    SharingStep sendgrid world (.ownerCreates url friendlyName)
      { world with account := world.account.created sendgrid url friendlyName none }
  | patched (id : WebhookId) (url : String) (friendlyName : Option String) :
    SharingStep sendgrid world (.ownerPatches id url friendlyName)
      { world with account := world.account.patched id url friendlyName }
  | deleted (id : WebhookId) :
    SharingStep sendgrid world (.ownerDeletes id)
      { world with account := { world.account with webhooks := world.account.webhooks.erase id } }

theorem step_of_sharingStep (taken : sharingStep sendgrid world event = some next) :
    SharingStep sendgrid world event next := by
  cases event with
  | provision call =>
    cases got : (world.provisioned sendgrid call).1.webhookId? with
    | none =>
      simp only [sharingStep, got, Option.elim_none] at taken
      obtain rfl := Option.some.inj taken
      exact .ended call got
    | some id =>
      simp only [sharingStep, got, Option.elim_some] at taken
      obtain rfl := Option.some.inj taken
      exact .returned call got
  | ownerCreates url friendlyName =>
    obtain rfl := Option.some.inj taken
    exact .created url friendlyName
  | ownerPatches id url friendlyName =>
    obtain rfl := Option.some.inj taken
    exact .patched id url friendlyName
  | ownerDeletes id =>
    obtain rfl := Option.some.inj taken
    exact .deleted id

structure CallEffect (world : Sharing) (call : Call) (result : ProvisionEventWebhookResult) (after : Account) :
    Prop where
  known : Known after
  pointed : ∀ id, result.webhookId? = some id →
    ∃ webhook, after.find? id = some webhook ∧ webhook.url = call.callbackUrl

theorem callEffect_provisioned (known : Known world.account) :
    CallEffect world call (world.provisioned sendgrid call).1 (world.provisioned sendgrid call).2 := by
  cases secure : isSecure call.callbackUrl with
  | false =>
    rw [Sharing.provisioned, provisionEventWebhook_insecure secure]
    exact ⟨known, fun id same => by cases same⟩
  | true =>
    obtain ⟨account, got⟩ := @provisionEventWebhook_secure sendgrid world.account call.callbackUrl call.workspaceId
      (world.existing call) call.replies secure
    refine ⟨?_, ?_⟩
    · rw [Sharing.provisioned, account]
      exact ensures_ensureWebhook.known known
    · intro id returned
      rw [Sharing.provisioned, account]
      exact ensures_ensureWebhook.pointed known (got id returned)

theorem known_step (known : Known world.account) (taken : sharingStep sendgrid world event = some next) :
    Known next.account := by
  cases step_of_sharingStep taken with
  | returned | ended => exact (callEffect_provisioned known).known
  | created url friendlyName => exact known_created known
  | patched id url friendlyName => exact known_patched known
  | deleted id => exact known_erase known

theorem pointsHome_step (known : Known world.account) (taken : sharingStep sendgrid world event = some next) :
    PointsHome sendgrid world event next := by
  cases step_of_sharingStep taken with
  | @returned call id got =>
    intro other publicKey signed
    apply (callEffect_provisioned known).pointed
    rw [signed]
    rfl
  | ended call nothing =>
    intro other publicKey signed
    rw [signed] at nothing
    cases nothing
  | created | patched | deleted => trivial

structure Sound (world : Sharing) : Prop where
  known : Known world.account
  got : ∀ workspaceId id, world.lastGot workspaceId = some id → (workspaceId, id) ∈ world.obtained
  issued : ∀ workspaceId id, (workspaceId, id) ∈ world.obtained → id ∈ world.account.issued
  own : ∀ workspaceId id, (workspaceId, id) ∈ world.obtained →
    ∀ webhook, world.account.find? id = some webhook → webhook.madeFor = some workspaceId

theorem sound_empty : Sound {} where
  known id present := by cases present
  got workspaceId id same := by cases same
  issued workspaceId id member := by cases member
  own workspaceId id member := by cases member

theorem Sound.confined (sound : Sound world) (own : namesItsOwn world (.provision call) = true) :
    Confined call.workspaceId world.account (world.provisioned sendgrid call).2 ∧
      ∀ id, (world.provisioned sendgrid call).1.webhookId? = some id →
        ∀ webhook, (world.provisioned sendgrid call).2.find? id = some webhook →
          webhook.madeFor = some call.workspaceId := by
  cases secure : isSecure call.callbackUrl with
  | false =>
    rw [Sharing.provisioned, provisionEventWebhook_insecure secure]
    exact ⟨confined_refl sound.known, fun id same => by cases same⟩
  | true =>
    obtain ⟨account, got⟩ := @provisionEventWebhook_secure sendgrid world.account call.callbackUrl call.workspaceId
      (world.existing call) call.replies secure
    have ensures := @ensures_ensureWebhook sendgrid world.account call.callbackUrl call.workspaceId call.replies
      ((world.existing call).filter fun id => id != "")
    have confined := ensures.confined sound.known ?_
    · rw [Sharing.provisioned, account]
      exact ⟨confined.1, fun id returned => confined.2 id (got id returned)⟩
    · rintro webhook stored (held | ⟨missing, bears⟩)
      · -- the stored id is the one the workspace got last
        have existing := (Option.filter_eq_some_iff.mp held).1
        unfold Sharing.existing at existing
        split at existing
        · cases existing
        · exact sound.own _ _ (sound.got _ _ existing) webhook stored
      · have asked : asksByName world call = true := by rw [asksByName, secure, missing]; rfl
        rw [namesItsOwn, asked, Bool.not_true, Bool.false_or, List.all_eq_true] at own
        have fine := own webhook (Table.mem_of_find? (stored : world.account.webhooks.find? webhook.id = some webhook))
        rw [bears, Bool.not_true, Bool.false_or] at fine
        exact beq_iff_eq.mp fine

theorem Sound.keepsApart (sound : Sound world) (own : namesItsOwn world event = true)
    (taken : sharingStep sendgrid world event = some next) : KeepsApart world event next := by
  have kept : ∀ call, namesItsOwn world (.provision call) = true → ∀ id webhook,
      world.account.find? id = some webhook →
        (webhook.madeFor = none ∨ ∃ other ≠ call.workspaceId, (other, id) ∈ world.obtained) →
          (world.provisioned sendgrid call).2.find? id = some webhook := by
    intro call own id webhook stored foreign
    apply (sound.confined own).1.others id webhook stored
    rcases foreign with unmade | ⟨other, differs, obtained⟩
    · rw [unmade]
      exact Option.some_ne_none _ |>.symm
    · rw [sound.own other id obtained webhook stored]
      exact fun same => differs (Option.some.inj same)
  cases step_of_sharingStep taken with
  | returned call got | ended call nothing =>
    exact fun id webhook stored foreign => ⟨webhook, kept call own id webhook stored foreign, rfl, rfl⟩
  | created | patched | deleted => trivial

theorem Sound.of_account (sound : Sound world) (known : Known account)
    (issued : ∀ id ∈ world.account.issued, id ∈ account.issued)
    (kept : ∀ id ∈ world.account.issued, ∀ webhook, account.find? id = some webhook →
      ∃ before, world.account.find? id = some before ∧ before.madeFor = webhook.madeFor) :
    Sound { world with account } where
  known := known
  got := sound.got
  issued workspaceId id member := issued id (sound.issued workspaceId id member)
  own workspaceId id member webhook stored := by
    obtain ⟨before, found, same⟩ := kept id (sound.issued workspaceId id member) webhook stored
    rw [← same]
    exact sound.own workspaceId id member before found

theorem Sound.called (sound : Sound world) (confined : Confined call.workspaceId world.account account) :
    Sound { world with account } where
  known := confined.known
  got := sound.got
  issued workspaceId id member := confined.issued id (sound.issued workspaceId id member)
  own workspaceId id member webhook stored := by
    by_cases same : world.account.find? id = some webhook
    · exact sound.own workspaceId id member webhook same
    · -- a webhook that changed was made for the caller, so its holder is the caller
      have mine := (confined.owned id webhook stored same).1
      cases found : world.account.find? id with
      | none =>
        rw [confined.revived id (sound.issued workspaceId id member) found] at stored
        cases stored
      | some before =>
        have maker := sound.own workspaceId id member before found
        by_cases caller : workspaceId = call.workspaceId
        · rw [caller]
          exact mine
        · have foreign : before.madeFor ≠ some call.workspaceId := by
            rw [maker]
            exact fun equal => caller (Option.some.inj equal)
          rw [confined.others id before found foreign] at stored
          rw [← Option.some.inj stored]
          exact maker

theorem Sound.returned (sound : Sound world) {workspaceId : String} {id : WebhookId}
    (issued : id ∈ world.account.issued)
    (own : ∀ webhook, world.account.find? id = some webhook → webhook.madeFor = some workspaceId) :
    Sound (world.got workspaceId id) where
  known := sound.known
  got other later same := by
    have held : Function.update world.lastGot workspaceId (some id) other = some later := same
    rw [Function.update_apply] at held
    split at held
    · next caller =>
      rw [caller, ← Option.some.inj held]
      exact List.mem_cons_self
    · exact List.mem_cons_of_mem _ (sound.got other later held)
  issued other later member := by
    rcases List.mem_cons.mp member with new | old
    · obtain ⟨rfl, rfl⟩ := Prod.mk.inj new
      exact issued
    · exact sound.issued other later old
  own other later member := by
    rcases List.mem_cons.mp member with new | old
    · obtain ⟨rfl, rfl⟩ := Prod.mk.inj new
      exact own
    · exact sound.own other later old

theorem Sound.step (sound : Sound world) (own : namesItsOwn world event = true)
    (taken : sharingStep sendgrid world event = some next) : Sound next := by
  cases step_of_sharingStep taken with
  | @returned call id got =>
    obtain ⟨confined, mine⟩ := @Sound.confined sendgrid world call sound own
    obtain ⟨webhook, stored, _⟩ := (callEffect_provisioned sound.known).pointed id got
    apply (sound.called confined).returned
    · apply confined.known
      rw [stored]
      rfl
    · exact mine id got
  | ended call nothing => exact sound.called (@Sound.confined sendgrid world call sound own).1
  | created url friendlyName =>
    apply sound.of_account (known_created sound.known) (fun id member => List.mem_cons_of_mem _ member)
    intro id member webhook stored
    have differs : id ≠ sendgrid.newId world.account.issued :=
      fun same => sendgrid.fresh world.account.issued (same ▸ member)
    rw [find?_created sound.known, if_neg differs] at stored
    exact ⟨webhook, stored, rfl⟩
  | patched id url friendlyName =>
    apply sound.of_account (known_patched sound.known) (fun id member => member)
    intro other member webhook stored
    rw [find?_patched] at stored
    split at stored
    · obtain ⟨before, found, rfl⟩ := Option.map_eq_some_iff.mp stored
      exact ⟨before, found, rfl⟩
    · exact ⟨webhook, stored, rfl⟩
  | deleted id =>
    apply sound.of_account (known_erase sound.known) (fun id member => member)
    intro other member webhook stored
    have kept : (world.account.webhooks.erase id).find? other = some webhook := stored
    rw [Table.find?_erase] at kept
    split at kept
    · cases kept
    · exact ⟨webhook, kept, rfl⟩

section Prefixes

variable {callers : List String} {one other : String}

theorem webhookFriendlyName_eq_iff :
    webhookFriendlyName one = webhookFriendlyName other ↔ one.toList.take 8 = other.toList.take 8 := by
  unfold webhookFriendlyName
  constructor
  · intro same
    have letters := congrArg String.toList same
    simp only [String.toList_append, String.toList_ofList] at letters
    exact List.append_cancel_left (List.append_cancel_right letters)
  · intro same
    rw [same]

/-- Only these workspaces call, and the owner of the account keeps off their friendly names. -/
def Spelled (callers : List String) : SharingEvent → Prop
  | .provision call => call.workspaceId ∈ callers
  | .ownerCreates _ friendlyName | .ownerPatches _ _ friendlyName =>
    ∀ workspaceId ∈ callers, friendlyName ≠ some (webhookFriendlyName workspaceId)
  | .ownerDeletes _ => True

def NamesTell (callers : List String) (account : Account) : Prop :=
  ∀ id webhook, account.find? id = some webhook → ∀ workspaceId ∈ callers,
    bearsName workspaceId webhook = true → webhook.madeFor = some workspaceId

theorem namesItsOwn_of_namesTell (tell : NamesTell callers world.account) (spelled : Spelled callers event) :
    namesItsOwn world event = true := by
  cases event with
  | provision call =>
    rw [namesItsOwn, Bool.or_eq_true]
    right
    apply List.all_eq_true.mpr
    intro webhook member
    cases bears : bearsName call.workspaceId webhook with
    | false => rfl
    | true =>
      rw [tell webhook.id webhook (Table.find?_of_mem member) call.workspaceId spelled bears]
      exact beq_self_eq_true _
  | ownerCreates url friendlyName | ownerPatches id url friendlyName | ownerDeletes id => rfl

theorem NamesTell.called (tell : NamesTell callers world.account)
    (apart : ∀ one ∈ callers, ∀ other ∈ callers, one.toList.take 8 = other.toList.take 8 → one = other)
    (calls : call.workspaceId ∈ callers) (confined : Confined call.workspaceId world.account account) :
    NamesTell callers account := by
  intro id webhook stored workspaceId member bears
  by_cases same : world.account.find? id = some webhook
  · exact tell id webhook same workspaceId member bears
  · obtain ⟨maker, caller⟩ := confined.owned id webhook stored same
    have names := (beq_iff_eq.mp bears).symm.trans (beq_iff_eq.mp caller)
    rw [apart workspaceId member call.workspaceId calls (webhookFriendlyName_eq_iff.mp (Option.some.inj names))]
    exact maker

theorem NamesTell.step (sound : Sound world) (tell : NamesTell callers world.account)
    (apart : ∀ one ∈ callers, ∀ other ∈ callers, one.toList.take 8 = other.toList.take 8 → one = other)
    (spelled : Spelled callers event) (taken : sharingStep sendgrid world event = some next) :
    NamesTell callers next.account := by
  have own := namesItsOwn_of_namesTell tell spelled
  cases step_of_sharingStep taken with
  | returned call got | ended call nothing =>
    exact tell.called apart spelled (@Sound.confined sendgrid world call sound own).1
  | created url friendlyName =>
    intro id webhook stored workspaceId member bears
    rw [find?_created sound.known] at stored
    split at stored
    · rw [← Option.some.inj stored] at bears
      exact absurd (beq_iff_eq.mp bears) (spelled workspaceId member)
    · exact tell id webhook stored workspaceId member bears
  | patched id url friendlyName =>
    intro other webhook stored workspaceId member bears
    rw [find?_patched] at stored
    split at stored
    · obtain ⟨before, found, rfl⟩ := Option.map_eq_some_iff.mp stored
      exact absurd (beq_iff_eq.mp bears) (spelled workspaceId member)
    · exact tell other webhook stored workspaceId member bears
  | deleted id =>
    intro other webhook stored workspaceId member bears
    have kept : (world.account.webhooks.erase id).find? other = some webhook := stored
    rw [Table.find?_erase] at kept
    split at kept
    · cases kept
    · exact tell other webhook kept workspaceId member bears

theorem namesItsOwn_of_prefixes
    (apart : ∀ one ∈ callers, ∀ other ∈ callers, one.toList.take 8 = other.toList.take 8 → one = other)
    {trace : List SharingEvent} (spelled : ∀ event ∈ trace, Spelled callers event) :
    Along (sharingStep sendgrid) (fun world event _ => namesItsOwn world event = true) {} trace := by
  have keeps : ∀ trace, (∀ event ∈ trace, Spelled callers event) → ∀ world, Sound world →
      NamesTell callers world.account →
        Along (sharingStep sendgrid) (fun world event _ => namesItsOwn world event = true) world trace := by
    intro trace
    induction trace with
    | nil => exact fun _ _ _ _ => trivial
    | cons event rest ih =>
      intro spelled world sound tell next taken
      have spoken := spelled event List.mem_cons_self
      have own := namesItsOwn_of_namesTell tell spoken
      exact ⟨own, ih (fun later member => spelled later (List.mem_cons_of_mem _ member)) next (sound.step own taken)
        (tell.step sound apart spoken taken)⟩
  exact keeps trace spelled {} sound_empty fun id webhook stored => by cases stored

end Prefixes

/-- A returned webhook points to its workspace; where calls by name find only what was made for them, the
webhooks of others are left alone. -/
theorem provisioning_keeps_apart (sendgrid : SendGrid) (trace : List SharingEvent) :
    Along (sharingStep sendgrid) (PointsHome sendgrid) {} trace ∧
      (Along (sharingStep sendgrid) (fun world event _ => namesItsOwn world event = true) {} trace →
        Along (sharingStep sendgrid) KeepsApart {} trace) := by
  constructor
  · have preserved : ∀ world event next, Known world.account → sharingStep sendgrid world event = some next →
        Known next.account := fun world event next known taken => known_step known taken
    have meets : ∀ world event next, Known world.account → sharingStep sendgrid world event = some next →
        PointsHome sendgrid world event next := fun world event next known taken => pointsHome_step known taken
    exact along_of_invariant preserved meets sound_empty.known trace
  · intro own
    have preserved : ∀ world event next, Sound world → namesItsOwn world event = true →
        sharingStep sendgrid world event = some next → Sound next :=
      fun world event next sound own taken => sound.step own taken
    have meets : ∀ world event next, Sound world → namesItsOwn world event = true →
        sharingStep sendgrid world event = some next → KeepsApart world event next :=
      fun world event next sound own taken => sound.keepsApart own taken
    exact along_of_conforming preserved meets sound_empty own

def longerId (issued : List WebhookId) : WebhookId :=
  String.ofList (List.replicate ((issued.map String.length).foldr (· + ·) 0 + 1) 'w')

theorem length_le_of_mem {id : WebhookId} {issued : List WebhookId} (member : id ∈ issued) :
    id.length ≤ (issued.map String.length).foldr (· + ·) 0 := by
  induction issued with
  | nil => cases member
  | cons first rest ih =>
    rcases List.mem_cons.mp member with rfl | later
    · exact Nat.le_add_right _ _
    · exact Nat.le_trans (ih later) (Nat.le_add_left _ _)

def longIds : SendGrid where
  newId := longerId
  fresh issued member := by
    have short := length_le_of_mem member
    rw [longerId, String.length_ofList, List.length_replicate] at short
    omega

def asStored : ListingOrder := ⟨id, fun webhooks => List.Perm.refl webhooks⟩

def connect (workspaceId callbackUrl : String) : SharingEvent :=
  .provision { workspaceId, callbackUrl, replies := { list := .answered asStored none, publicKey := "key" } }

def connections : List SharingEvent :=
  [connect "0f2d2c1e-4a51-4c39-9d0a-6f7f2d5b8e01" "https://crm/webhooks/sendgrid/a",
    connect "c7b1a9d4-93e6-4d2b-8f1c-21e4b5a6d702" "https://crm/webhooks/sendgrid/b",
    connect "0f2d2c1e-4a51-4c39-9d0a-6f7f2d5b8e01" "https://crm/webhooks/sendgrid/c"]

theorem connections_kept_apart : Along (sharingStep longIds) KeepsApart {} connections := by
  have own : checkAlong (sharingStep longIds) namesItsOwn {} connections = true := by decide +kernel
  exact (provisioning_keeps_apart longIds connections).2 (along_of_check own)

theorem connections_names_apart :
    Along (sharingStep longIds) (fun world event _ => namesItsOwn world event = true) {} connections := by
  let callers : List String := ["0f2d2c1e-4a51-4c39-9d0a-6f7f2d5b8e01", "c7b1a9d4-93e6-4d2b-8f1c-21e4b5a6d702"]
  have apart : ∀ one ∈ callers, ∀ other ∈ callers, one.toList.take 8 = other.toList.take 8 → one = other := by
    decide +kernel
  apply namesItsOwn_of_prefixes apart
  intro event member
  simp only [connections, List.mem_cons, List.not_mem_nil, or_false] at member
  rcases member with rfl | rfl | rfl <;> simp [Spelled, connect, callers]

/-- The second workspace's id begins like that of the first, whose webhook it takes over. -/
theorem same_prefix_takes_over : ¬ ∀ sendgrid trace, Along (sharingStep sendgrid) KeepsApart {} trace := by
  intro always
  let first : String := "0f2d2c1e-4a51-4c39-9d0a-6f7f2d5b8e01"
  let second : String := "0f2d2c1e-93e6-4d2b-8f1c-21e4b5a6d702"
  have ran : (run (sharingStep longIds) {} [connect first "https://crm/webhooks/sendgrid/a"]).any (fun middle =>
      (sharingStep longIds middle (connect second "https://crm/webhooks/sendgrid/b")).any fun final =>
        (middle.account.find? "w").map Webhook.url == some "https://crm/webhooks/sendgrid/a" &&
        (final.account.find? "w").map Webhook.url == some "https://crm/webhooks/sendgrid/b" &&
        middle.obtained == [(first, "w")]) = true := by
    decide +kernel
  obtain ⟨middle, reached, ran⟩ := Option.any_eq_true _ _ |>.mp ran
  obtain ⟨final, taken, facts⟩ := Option.any_eq_true _ _ |>.mp ran
  simp only [Bool.and_eq_true, beq_iff_eq] at facts
  obtain ⟨⟨before, after⟩, obtained⟩ := facts
  have apart := along_last (always longIds ([connect first "https://crm/webhooks/sendgrid/a"] ++
    [connect second "https://crm/webhooks/sendgrid/b"])) reached taken
  obtain ⟨webhook, stored, pointed⟩ := Option.map_eq_some_iff.mp before
  have foreign : ∃ other ≠ second, (other, ("w" : WebhookId)) ∈ middle.obtained := by
    refine ⟨first, by decide +kernel, ?_⟩
    rw [obtained]
    exact List.mem_cons_self
  obtain ⟨later, found, same, _⟩ := apart "w" webhook stored (.inr foreign)
  rw [found, Option.map_some, same, pointed] at after
  exact absurd after (by decide +kernel)

end Runs

end LocalCrm.Webhooks.Provisioning
