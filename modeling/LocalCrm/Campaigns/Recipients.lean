import LocalCrm.Campaigns.Kickoff

/-! The frozen recipients and the pages they are walked in. -/

set_option autoImplicit false

namespace LocalCrm.Campaigns

open Library

section Snapshot

variable {recipients : Table Recipient.key} {workspaceId : WorkspaceId} {campaignId other : CampaignId}
  {contactId : ContactId}

theorem find?_insertRecipients (contactIds : List ContactId) :
    (insertRecipients recipients workspaceId campaignId contactIds).find? (other, contactId) =
      (recipients.find? (other, contactId)).or
        (if other = campaignId ∧ contactId ∈ contactIds then some { campaignId, workspaceId, contactId } else none) := by
  induction contactIds generalizing recipients with
  | nil => simp [insertRecipients]
  | cons first rest ih =>
    have inserted : insertRecipients recipients workspaceId campaignId (first :: rest) =
        insertRecipients (recipients.insert { campaignId, workspaceId, contactId := first }) workspaceId campaignId
          rest := rfl
    rw [inserted, ih, Table.find?_insert, Option.or_assoc]
    by_cases same : other = campaignId
    · by_cases chosen : contactId = first
      · simp [Recipient.key, same, chosen]
      · simp [Recipient.key, same, chosen, Ne.symm chosen]
    · simp [Recipient.key, same, Ne.symm same]

theorem find?_materialized {db : Database} {matching : List ContactId} {cursor : Option ContactId}
    (nobody : (materializeBatch db workspaceId campaignId matching cursor).1.isEmpty = true) :
    (materializeBatch db workspaceId campaignId matching cursor).2.2.campaignRecipients.find? (other, contactId) =
      db.campaignRecipients.find? (other, contactId) := by
  simp only [materializeBatch, List.isEmpty_iff, List.filter_eq_nil_iff, Option.isNone_iff_eq_none] at nobody ⊢
  rw [find?_insertRecipients]
  cases found : db.campaignRecipients.find? (other, contactId) with
  | some recipient => rfl
  | none =>
    rw [Option.none_or, if_neg]
    rintro ⟨rfl, member⟩
    exact nobody contactId member found

end Snapshot

section Pages

theorem mem_take_or_after {sorted : List ContactId} (ascending : sorted.Pairwise (· < ·)) {contactId : ContactId}
    (member : contactId ∈ sorted) (size : Nat) :
    contactId ∈ sorted.take size ∨ ∀ other ∈ sorted.take size, other < contactId := by
  rw [← List.take_append_drop size sorted, List.mem_append] at member
  rw [← List.take_append_drop size sorted, List.pairwise_append] at ascending
  rcases member with first | later
  · exact .inl first
  · exact .inr fun other taken => ascending.2.2 other taken contactId later

theorem le_getLast {sorted : List ContactId} (ascending : sorted.Pairwise (· < ·)) {contactId last : ContactId}
    (member : contactId ∈ sorted) (ends : sorted.getLast? = some last) : contactId ≤ last := by
  obtain ⟨init, rfl⟩ := List.getLast?_eq_some_iff.mp ends
  rcases List.mem_append.mp member with before | final
  · exact Nat.le_of_lt ((List.pairwise_append.mp ascending).2.2 contactId before last (List.mem_singleton_self last))
  · rw [List.mem_singleton.mp final]

variable {recipients : Table Recipient.key} {campaignId : CampaignId} {cursor : Option ContactId}
  {contactId : ContactId}

def upcomingRecipients (recipients : Table Recipient.key) (campaignId : CampaignId) (cursor : Option ContactId) :
    List ContactId :=
  ((recipients.rows.filter fun recipient =>
    recipient.campaignId == campaignId && isAfter cursor recipient.contactId).map
      Recipient.contactId).insertionSort (· ≤ ·)

theorem mem_upcomingRecipients : contactId ∈ upcomingRecipients recipients campaignId cursor ↔
    (recipients.find? (campaignId, contactId)).isSome ∧ isAfter cursor contactId = true := by
  simp only [upcomingRecipients, List.mem_insertionSort, List.mem_map, List.mem_filter, Bool.and_eq_true, beq_iff_eq]
  constructor
  · rintro ⟨recipient, ⟨stored, rfl, after⟩, rfl⟩
    have found := Table.find?_of_mem stored
    simp only [Recipient.key] at found
    exact ⟨by rw [found]; rfl, after⟩
  · rintro ⟨present, after⟩
    obtain ⟨recipient, found⟩ := Option.isSome_iff_exists.mp present
    have keyed : recipient.key = (campaignId, contactId) := Table.key_of_find? found
    simp only [Recipient.key, Prod.mk.injEq] at keyed
    exact ⟨recipient, ⟨Table.mem_of_find? found, keyed.1, by rw [keyed.2]; exact after⟩, keyed.2⟩

theorem ascending_upcomingRecipients (recipients : Table Recipient.key) (campaignId : CampaignId)
    (cursor : Option ContactId) : (upcomingRecipients recipients campaignId cursor).Pairwise (· < ·) := by
  have distinct : ((recipients.rows.filter fun recipient =>
      recipient.campaignId == campaignId && isAfter cursor recipient.contactId).map Recipient.contactId).Nodup := by
    refine List.Nodup.map_on ?_ (List.Nodup.filter _ (List.Nodup.of_map _ recipients.unique))
    intro left chosen right picked same
    simp only [List.mem_filter, Bool.and_eq_true, beq_iff_eq] at chosen picked
    have keyed : right.key = left.key := by
      simp only [Recipient.key, same, chosen.2.1, picked.2.1]
    have found : recipients.find? left.key = some left := Table.find?_of_mem chosen.1
    exact (Table.eq_of_find? found picked.1 keyed).symm
  have sorted := List.pairwise_insertionSort (· ≤ ·) ((recipients.rows.filter fun recipient =>
      recipient.campaignId == campaignId && isAfter cursor recipient.contactId).map Recipient.contactId)
  have once := (List.perm_insertionSort (· ≤ ·) _).nodup_iff.mpr distinct
  exact List.Pairwise.imp₂ (fun _ _ le ne => Nat.lt_of_le_of_ne le ne) sorted once

theorem recipientPage_eq : recipientPage recipients campaignId cursor =
    (upcomingRecipients recipients campaignId cursor).take breakdownPageSize := rfl

theorem ascending_recipientPage : (recipientPage recipients campaignId cursor).Pairwise (· < ·) :=
  (ascending_upcomingRecipients recipients campaignId cursor).sublist (List.take_sublist _ _)

theorem mem_recipientPage (member : contactId ∈ recipientPage recipients campaignId cursor) :
    (recipients.find? (campaignId, contactId)).isSome ∧ isAfter cursor contactId = true :=
  mem_upcomingRecipients.mp (List.mem_of_mem_take member)

theorem upcoming_page (present : (recipients.find? (campaignId, contactId)).isSome) :
    (decide (contactId ∈ recipientPage recipients campaignId cursor) ||
      isAfter ((recipientPage recipients campaignId cursor).getLast?.or cursor) contactId) =
        isAfter cursor contactId := by
  have sorted := ascending_upcomingRecipients recipients campaignId cursor
  rw [Bool.eq_iff_iff, Bool.or_eq_true, decide_eq_true_iff]
  constructor
  · rintro (member | after)
    · exact (mem_recipientPage member).2
    · cases ends : (recipientPage recipients campaignId cursor).getLast? with
      | none =>
        rw [ends] at after
        exact after
      | some last =>
        rw [ends] at after
        have earlier := (mem_recipientPage (List.mem_of_getLast? ends)).2
        simp only [Option.some_or, isAfter, Option.all_some, decide_eq_true_eq] at after
        cases cursor with
        | none => rfl
        | some start =>
          simp only [isAfter, Option.all_some, decide_eq_true_eq] at earlier ⊢
          exact Nat.lt_trans earlier after
  · intro after
    rcases mem_take_or_after sorted (mem_upcomingRecipients.mpr ⟨present, after⟩) breakdownPageSize with
      member | later
    · exact .inl member
    · right
      cases ends : (recipientPage recipients campaignId cursor).getLast? with
      | none => exact after
      | some last =>
        simp only [Option.some_or, isAfter, Option.all_some, decide_eq_true_eq]
        exact later last (List.mem_of_getLast? ends)

theorem not_after_of_empty (present : (recipients.find? (campaignId, contactId)).isSome)
    (nobody : recipientPage recipients campaignId cursor = []) : isAfter cursor contactId = false := by
  rw [← Bool.not_eq_true]
  intro after
  have member := mem_upcomingRecipients.mpr ⟨present, after⟩
  rw [recipientPage_eq, List.take_eq_nil_iff] at nobody
  rcases nobody with none | empty
  · exact absurd none (by decide)
  · rw [empty] at member
    cases member

theorem not_after_pageEnd {page : List ContactId} (ascending : page.Pairwise (· < ·)) (member : contactId ∈ page) :
    isAfter (page.getLast?.or cursor) contactId = false := by
  cases ends : page.getLast? with
  | none =>
    rw [List.getLast?_eq_none_iff.mp ends] at member
    cases member
  | some last =>
    have bounded := le_getLast ascending member ends
    simp only [Option.some_or, isAfter, Option.all_some, decide_eq_false_iff_not]
    exact Nat.not_lt.mpr bounded

end Pages

end LocalCrm.Campaigns
