import LocalCrm.Schema

/-! Who may be mailed right now: the workspace freeze, the send settings and the
gate that campaigns and flows share. -/

set_option autoImplicit false

namespace LocalCrm.Delivery

open Library

def workspaceDeletedExclusionReason : String := "workspace_deleted"

/-- Fails closed: a workspace with no row counts as deleted. -/
def isWorkspaceSoftDeleted (organizations : Table Organization.id) (workspaceId : WorkspaceId) : Bool :=
  match organizations.find? workspaceId with
  | none => true
  | some organization => organization.deletedAt.isSome

def defaultSendSettings (workspaceId : WorkspaceId) : SendSettings :=
  { workspaceId, frequencyCap := 3, frequencyWindowHours := 24, rpsLimit := none }

def getWorkspaceSendSettings (sendSettings : Table SendSettings.workspaceId) (workspaceId : WorkspaceId) :
    SendSettings :=
  (sendSettings.find? workspaceId).getD (defaultSendSettings workspaceId)

inductive PreSendSkipReason where
  | unsubscribed
  | suppressed
  | noEmail
  | frequencyCap
  deriving DecidableEq, Repr

def PreSendSkipReason.text : PreSendSkipReason → String
  | unsubscribed => "unsubscribed"
  | suppressed => "suppressed"
  | noEmail => "no_email"
  | frequencyCap => "frequency_cap"

inductive PreSendDecision where
  | sendable
  | skip (reason : PreSendSkipReason)
  deriving DecidableEq, Repr

def recentlySent (now : Timestamp) (sends : Sends) (workspaceId : WorkspaceId) (contactId : ContactId)
    (windowHours : Nat) : Nat :=
  sends.count fun row =>
    row.intent.workspaceId == workspaceId && row.contactId == contactId && row.status == .sent &&
      row.sentAt.any fun sentAt => sentAt > now - windowHours * millisecondsPerHour

def evaluatePreSendGate (now : Timestamp) (db : Database) (workspaceId : WorkspaceId) (contact : Contact) :
    PreSendDecision :=
  if contact.subscriptionStatus = .suppressed then .skip .suppressed
  else if contact.subscriptionStatus = .unsubscribed then .skip .unsubscribed
  else if !truthy contact.email then .skip .noEmail
  else
    let settings := getWorkspaceSendSettings db.sendSettings workspaceId
    if recentlySent now db.sends workspaceId contact.id settings.frequencyWindowHours ≥ settings.frequencyCap then
      .skip .frequencyCap
    else .sendable

end LocalCrm.Delivery
