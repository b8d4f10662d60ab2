import LocalCrm.Library.Table
import LocalCrm.Library.Transition
import Mathlib.Logic.Function.Basic

/-! Provisioning of the event webhooks of workspaces that share one SendGrid account. -/

set_option autoImplicit false

namespace LocalCrm.Webhooks.Provisioning

open Library

abbrev WebhookId := String

/-- For whom the platform made the webhook is recorded, and read by no request. -/
structure Webhook where
  id : WebhookId
  url : String
  friendlyName : Option String
  madeFor : Option String := none
  deriving DecidableEq, Repr

/-- With every id that was ever given out. -/
structure Account where
  webhooks : Table Webhook.id := .empty
  issued : List WebhookId := []

/-- New webhooks get ids that were never given out before. -/
structure SendGrid where
  newId : List WebhookId → WebhookId
  fresh : ∀ issued, newId issued ∉ issued

section Requests

structure FailureStatus where
  code : Nat
  failure : ¬ (200 ≤ code ∧ code < 300)

inductive Reply where
  | answered
  | refused (status : FailureStatus)
  | lost (applied : Bool)

structure ListingOrder where
  arrange : List Webhook → List Webhook
  complete : ∀ webhooks, (arrange webhooks).Perm webhooks

inductive ListReply where
  | answered (order : ListingOrder) (maxAllowed : Option Nat)
  | refused (status : FailureStatus)
  | lost

inductive Response (Answer : Type) where
  | ok (answer : Answer)
  | status (code : Nat)
  | thrown

structure Listing where
  webhooks : List Webhook
  maxAllowed : Option Nat

def notFound : Nat := 404

variable (sendgrid : SendGrid) (account : Account)

def Account.find? (id : WebhookId) : Option Webhook := account.webhooks.find? id

def Account.patched (id : WebhookId) (url : String) (friendlyName : Option String) : Account :=
  { account with
    webhooks := account.webhooks.update (fun webhook => webhook.id == id) fun webhook =>
      { webhook with url, friendlyName } }

def Account.created (url : String) (friendlyName madeFor : Option String) : Account :=
  let id := sendgrid.newId account.issued
  { webhooks := account.webhooks.insert { id, url, friendlyName, madeFor }, issued := id :: account.issued }

def getSettings : ListReply → Response Listing
  | .answered order maxAllowed => .ok { webhooks := order.arrange account.webhooks.rows, maxAllowed }
  | .refused status => .status status.code
  | .lost => .thrown

def patchSettings (id : WebhookId) (url friendlyName : String) : Reply → Response WebhookId × Account
  | .answered =>
    if (account.find? id).isSome then (.ok id, account.patched id url (some friendlyName))
    else (.status notFound, account)
  | .refused status => (.status status.code, account)
  | .lost applied => (.thrown, if applied then account.patched id url (some friendlyName) else account)

def postSettings (workspaceId url friendlyName : String) : Reply → Response WebhookId × Account
  | .answered =>
    (.ok (sendgrid.newId account.issued), account.created sendgrid url (some friendlyName) (some workspaceId))
  | .refused status => (.status status.code, account)
  | .lost applied =>
    (.thrown, if applied then account.created sendgrid url (some friendlyName) (some workspaceId) else account)

def patchSigned (id : WebhookId) (publicKey : String) : Reply → Response (WebhookId × String)
  | .answered => if (account.find? id).isSome then .ok (id, publicKey) else .status notFound
  | .refused status => .status status.code
  | .lost _ => .thrown

end Requests

section Names

def webhookFriendlyNameBase : String := "Mega CRM Delivery Tracking"

def webhookFriendlyName (workspaceId : String) : String :=
  webhookFriendlyNameBase ++ " (" ++ String.ofList (workspaceId.toList.take 8) ++ ")"

inductive ProvisionEventWebhookError where
  | missingScope
  | capReached
  | failed
  | insecureUrl
  deriving DecidableEq, Repr

inductive ProvisionEventWebhookResult where
  | provisioned (id : WebhookId) (publicKey : String)
  | error (error : ProvisionEventWebhookError) (webhookId : Option WebhookId)
  deriving DecidableEq, Repr

def errorForStatus (status : Nat) : ProvisionEventWebhookError :=
  if status = 401 ∨ status = 403 then .missingScope else .failed

end Names

section Calls

structure Replies where
  patchStored : Reply := .answered
  list : ListReply
  patchFound : Reply := .answered
  create : Reply := .answered
  createAgain : Reply := .answered
  sign : Reply := .answered
  publicKey : String

structure PatchWebhookError where
  error : ProvisionEventWebhookError
  recoverable : Bool

variable (sendgrid : SendGrid) (account : Account) (callbackUrl workspaceId : String)

/-- `none` where the request threw. -/
def patchWebhook (id : WebhookId) (reply : Reply) : Option (Except PatchWebhookError WebhookId) × Account :=
  let (response, after) := patchSettings account id callbackUrl (webhookFriendlyName workspaceId) reply
  match response with
  | .ok id => (some (.ok id), after)
  | .status code => (some (.error { error := errorForStatus code, recoverable := code == notFound }), after)
  | .thrown => (none, after)

def postCreate (reply : Reply) : Response WebhookId × Account :=
  postSettings sendgrid account workspaceId callbackUrl (webhookFriendlyName workspaceId) reply

/-- On 404 or 405 the other path is tried. -/
def postEither (create createAgain : Reply) : Response WebhookId × Account :=
  match postCreate sendgrid account callbackUrl workspaceId create with
  | (.status code, after) =>
    if code = notFound ∨ code = 405 then postCreate sendgrid after callbackUrl workspaceId createAgain
    else (.status code, after)
  | (.ok id, after) => (.ok id, after)
  | (.thrown, after) => (.thrown, after)

abbrev Created := Option (Except ProvisionEventWebhookError WebhookId) × Account

def createNew (replies : Replies) : Created :=
  let (response, after) := postEither sendgrid account callbackUrl workspaceId replies.create replies.createAgain
  match response with
  | .ok id => (some (.ok id), after)
  | .status code => (some (.error (errorForStatus code)), after)
  | .thrown => (none, after)

/-- A listed webhook of the workspace's friendly name is taken over. -/
def takeOver (existing : Webhook) (replies : Replies) : Created :=
  if existing.url = callbackUrl then (some (.ok existing.id), account)
  else
    let (result, after) := patchWebhook account callbackUrl workspaceId existing.id replies.patchFound
    (result.map fun patched => patched.mapError (·.error), after)

def createWebhook (replies : Replies) : Created :=
  match getSettings account replies.list with
  | .thrown => (none, account)
  | .status _ => createNew sendgrid account callbackUrl workspaceId replies
  | .ok listing =>
    match listing.webhooks.find? fun webhook => webhook.friendlyName == some (webhookFriendlyName workspaceId) with
    | some existing => takeOver account callbackUrl workspaceId existing replies
    | none =>
      if listing.maxAllowed.any fun maxAllowed => decide (maxAllowed ≤ listing.webhooks.length) then
        (some (.error .capReached), account)
      else createNew sendgrid account callbackUrl workspaceId replies

def ensureWebhook (existingWebhookId : Option WebhookId) (replies : Replies) : Created :=
  match existingWebhookId with
  | none => createWebhook sendgrid account callbackUrl workspaceId replies
  | some id =>
    match patchWebhook account callbackUrl workspaceId id replies.patchStored with
    | (some (.error patchError), after) =>
      if patchError.recoverable then createWebhook sendgrid after callbackUrl workspaceId replies
      else (some (.error patchError.error), after)
    | (some (.ok id), after) => (some (.ok id), after)
    | (none, after) => (none, after)

def enableSignedVerification (id : WebhookId) (replies : Replies) : ProvisionEventWebhookResult :=
  match patchSigned account id replies.publicKey replies.sign with
  | .ok (id, publicKey) => .provisioned id publicKey
  | .status code => .error (errorForStatus code) (some id)
  | .thrown => .error .failed none

def isSecure (callbackUrl : String) : Bool := "https://".toList.isPrefixOf callbackUrl.toList

/-- An empty stored id counts as none. -/
def provisionEventWebhook (existingWebhookId : Option WebhookId) (replies : Replies) :
    ProvisionEventWebhookResult × Account :=
  if isSecure callbackUrl then
    match ensureWebhook sendgrid account callbackUrl workspaceId (existingWebhookId.filter fun id => id != "")
        replies with
    | (some (.ok id), after) => (enableSignedVerification after id replies, after)
    | (some (.error error), after) => (.error error none, after)
    | (none, after) => (.error .failed none, after)
  else (.error .insecureUrl none, account)

end Calls

section Runs

def ProvisionEventWebhookResult.webhookId? : ProvisionEventWebhookResult → Option WebhookId
  | provisioned id _ => some id
  | error _ webhookId => webhookId

structure Call where
  workspaceId : String
  callbackUrl : String
  /-- The stored id was lost before the call. -/
  lost : Bool := false
  replies : Replies

/-- The shared account, with the id each workspace last got and all that were ever got. -/
structure Sharing where
  account : Account := {}
  lastGot : String → Option WebhookId := fun _ => none
  obtained : List (String × WebhookId) := []

def Sharing.existing (world : Sharing) (call : Call) : Option WebhookId :=
  if call.lost then none else world.lastGot call.workspaceId

def Sharing.provisioned (sendgrid : SendGrid) (world : Sharing) (call : Call) : ProvisionEventWebhookResult × Account :=
  provisionEventWebhook sendgrid world.account call.callbackUrl call.workspaceId (world.existing call) call.replies

def Sharing.got (world : Sharing) (workspaceId : String) (id : WebhookId) : Sharing :=
  { world with
    lastGot := Function.update world.lastGot workspaceId (some id)
    obtained := (workspaceId, id) :: world.obtained }

inductive SharingEvent where
  | provision (call : Call)
  | ownerCreates (url : String) (friendlyName : Option String)
  | ownerPatches (id : WebhookId) (url : String) (friendlyName : Option String)
  | ownerDeletes (id : WebhookId)

def sharingStep (sendgrid : SendGrid) (world : Sharing) : SharingEvent → Option Sharing
  | .provision call =>
    let (result, account) := world.provisioned sendgrid call
    let after := { world with account }
    some (result.webhookId?.elim after (after.got call.workspaceId))
  | .ownerCreates url friendlyName =>
    some { world with account := world.account.created sendgrid url friendlyName none }
  | .ownerPatches id url friendlyName => some { world with account := world.account.patched id url friendlyName }
  | .ownerDeletes id =>
    some { world with account := { world.account with webhooks := world.account.webhooks.erase id } }

end Runs

end LocalCrm.Webhooks.Provisioning
