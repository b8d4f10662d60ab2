import LocalCrm.Delivery.SendLedger

/-! The reconciler's verdict on one row and the transaction that applies it. -/

set_option autoImplicit false

namespace LocalCrm.Delivery

open Library

def reconcileResolutionWindowMs : Int := 24 * 60 * 60000

def reconcileRescanHorizonMs : Int := 72 * 60 * 60000

def staleDispatchingAgeMs : Int := 2 * 60 * 60000

inductive ReconcileVerdict where
  | resolveSent
  | resolveUnknown
  | sweepToReconciling
  | hold
  deriving DecidableEq, Repr

def classifyReconcilableSend (now : Timestamp) (row : Send) (hasEvidence : Bool) : ReconcileVerdict :=
  if row.status = .dispatching ∧ now - row.queuedAt > staleDispatchingAgeMs then .sweepToReconciling
  else if row.status = .reconciling ∧ hasEvidence then .resolveSent
  else if row.status = .reconciling ∧ ¬ hasEvidence ∧
      now - row.reconcilingSince.getD row.queuedAt > reconcileResolutionWindowMs then .resolveUnknown
  else if row.status = .unknown ∧ hasEvidence ∧ now - row.queuedAt ≤ reconcileRescanHorizonMs then .resolveSent
  else .hold

def hasEvidence (sendEvents : List SendEvent) (sendId : SendId) : Bool :=
  sendEvents.any fun event => event.sendId == some sendId

/-- One locked row, at most one transition. The counter moves only with the row. -/
def resolveOneSend (ids : SendIdScheme) (now : Timestamp) (db : Database) (sendId : SendId) : Database :=
  match db.sends.rows.find? fun row =>
      ids.derive row.intent == sendId && row.status ∈ [.reconciling, .unknown, .dispatching] with
  | none => db
  | some row =>
    match classifyReconcilableSend now row (hasEvidence db.sendEvents sendId) with
    | .resolveSent =>
      let (resolved, sends) := resolveReconcilingSend ids db.sends sendId .resolveSent
      match row.intent.campaignId with
      | some campaignId =>
        if resolved then
          let counted := backfillCampaignSendCounter db.campaigns campaignId .sent
          { db with sends, campaigns := tryCompleteCampaign now sends counted campaignId }
        else { db with sends }
      | none => { db with sends }
    | .resolveUnknown => { db with sends := (resolveReconcilingSend ids db.sends sendId .resolveUnknown).2 }
    | .sweepToReconciling => { db with sends := (sweepStaleDispatchingSend ids now db.sends sendId).2 }
    | .hold => db

inductive ResolutionCommits (ids : SendIdScheme) (now : Timestamp) (db : Database) (sendId : SendId) :
    Database → Prop where
  | held : ResolutionCommits ids now db sendId db
  | swept (intent : SendIntent) (derived : ids.derive intent = sendId)
      (status : statusOf db.sends intent = some .dispatching)
      (stale : ∃ row ∈ db.sends.rows, row.intent = intent ∧
        classifyReconcilableSend now row (hasEvidence db.sendEvents sendId) = .sweepToReconciling) :
      ResolutionCommits ids now db sendId
        { db with sends := (sweepStaleDispatchingSend ids now db.sends (ids.derive intent)).2 }
  | unresolved (intent : SendIntent) (derived : ids.derive intent = sendId)
      (status : statusOf db.sends intent = some .reconciling) :
      ResolutionCommits ids now db sendId
        { db with sends := (resolveReconcilingSend ids db.sends (ids.derive intent) .resolveUnknown).2 }
  | resolved (intent : SendIntent) (derived : ids.derive intent = sendId)
      (status : statusOf db.sends intent = some .reconciling ∨ statusOf db.sends intent = some .unknown) :
      ResolutionCommits ids now db sendId
        { db with
          sends := (resolveReconcilingSend ids db.sends (ids.derive intent) .resolveSent).2
          campaigns :=
            match intent.campaignId with
            | some campaignId =>
              tryCompleteCampaign now (resolveReconcilingSend ids db.sends (ids.derive intent) .resolveSent).2
                (backfillCampaignSendCounter db.campaigns campaignId .sent) campaignId
            | none => db.campaigns }

theorem classifyReconcilableSend_swept {now : Timestamp} {row : Send} {evidence : Bool}
    (verdict : classifyReconcilableSend now row evidence = .sweepToReconciling) : row.status = .dispatching := by
  unfold classifyReconcilableSend at verdict
  split at verdict
  · next chosen => exact chosen.1
  · split at verdict
    · cases verdict
    · split at verdict
      · cases verdict
      · split at verdict <;> cases verdict

theorem classifyReconcilableSend_unknown {now : Timestamp} {row : Send} {evidence : Bool}
    (verdict : classifyReconcilableSend now row evidence = .resolveUnknown) : row.status = .reconciling := by
  unfold classifyReconcilableSend at verdict
  split at verdict
  · cases verdict
  · split at verdict
    · cases verdict
    · split at verdict
      · next chosen => exact chosen.1
      · split at verdict <;> cases verdict

theorem classifyReconcilableSend_sent {now : Timestamp} {row : Send} {evidence : Bool}
    (verdict : classifyReconcilableSend now row evidence = .resolveSent) :
    row.status = .reconciling ∨ row.status = .unknown := by
  unfold classifyReconcilableSend at verdict
  split at verdict
  · cases verdict
  · split at verdict
    · next chosen => exact .inl chosen.1
    · split at verdict
      · cases verdict
      · split at verdict
        · next chosen => exact .inr chosen.1
        · cases verdict

theorem resolveOneSend_commits (ids : SendIdScheme) (now : Timestamp) (db : Database) (sendId : SendId) :
    ResolutionCommits ids now db sendId (resolveOneSend ids now db sendId) := by
  unfold resolveOneSend
  split
  · exact .held
  · next row located =>
    have member : row ∈ db.sends.rows := List.mem_of_find?_eq_some located
    have matched := List.find?_some located
    have derived : ids.derive row.intent = sendId := by
      simp only [Bool.and_eq_true, beq_iff_eq] at matched
      exact matched.1
    have status : statusOf db.sends row.intent = some row.status := by
      rw [statusOf, Table.find?_of_mem member]
      rfl
    subst derived
    split
    · next verdict =>
      have awaiting := classifyReconcilableSend_sent verdict
      have statuses : statusOf db.sends row.intent = some .reconciling ∨
          statusOf db.sends row.intent = some .unknown := by
        rw [status]
        simpa using awaiting
      have transitioned : (resolveReconcilingSend ids db.sends (ids.derive row.intent) .resolveSent).1 = true := by
        refine List.any_eq_true.mpr ⟨row, member, ?_⟩
        rcases awaiting with waiting | waiting <;> simp [awaitsReconciler, waiting]
      have commits : ResolutionCommits ids now db _ _ := .resolved row.intent rfl statuses
      cases campaign : row.intent.campaignId with
      | none => simpa only [campaign] using commits
      | some campaignId => simpa only [campaign, if_pos transitioned] using commits
    · next verdict => exact .unresolved row.intent rfl (by rw [status, classifyReconcilableSend_unknown verdict])
    · next verdict =>
      exact .swept row.intent rfl (by rw [status, classifyReconcilableSend_swept verdict]) ⟨row, member, rfl, verdict⟩
    · exact .held

end LocalCrm.Delivery
