import LocalCrm.Imports.RowOutcome
import LocalCrm.Library.RowView

/-! The identities that a workspace has on file, and what the row of an import changes of them. -/

set_option autoImplicit false

namespace LocalCrm.Imports

open Library Contacts Delivery

structure NewIds (contacts : Table Contact.id) where
  idOf : Nat → ContactId
  injective : Function.Injective idOf
  absent : ∀ rowNumber, contacts.find? (idOf rowNumber) = none

def Distinct (contacts : Table Contact.id) : Prop := ∀ contact ∈ contacts.rows, uniqueViolation contacts contact = none

section Distinct

variable {contacts : Table Contact.id} {first second : Contact} {value : String}

theorem Distinct.eq_of_email (distinct : Distinct contacts) (member : first ∈ contacts.rows)
    (other : second ∈ contacts.rows) (same : first.workspaceId = second.workspaceId)
    (named : first.email = some value) (again : second.email = some value) : first = second := by
  by_contra differ
  have keyed : first.id ≠ second.id := by
    intro keyed
    exact differ (Table.eq_of_find? (Table.find?_of_mem other) member keyed)
  exact ((uniqueViolation_eq_none.mp (distinct second other)) first member keyed same).2 value again named

end Distinct

section Writes

variable {now after : Table Contact.id} {written existing : Contact}

def Writes (now after : Table Contact.id) (written : Contact) : Prop :=
  ∀ contact, contact ∈ after.rows ↔ contact = written ∨ contact ∈ now.rows ∧ contact.id ≠ written.id

theorem writes_insert (fresh : now.find? written.id = none) : Writes now (now.insert written) written := by
  intro contact
  rw [Table.mem_insert_of_fresh fresh]
  constructor
  · rintro (old | new)
    · refine .inr ⟨old, fun same => ?_⟩
      rw [← same, Table.find?_of_mem old] at fresh
      cases fresh
    · exact .inl new
  · rintro (new | ⟨old, _⟩)
    · exact .inr new
    · exact .inl old

theorem writes_writeContact {db : Database} {target : Contact} {source : String}
    (stored : db.contacts.find? existing.id = some existing) :
    Writes db.contacts (writeContact db existing target source).contacts (assignColumns target existing) := by
  intro contact
  have looked := @find?_writeContact db existing target contact.id source stored
  rw [Table.mem_iff_find?, looked]
  by_cases same : contact.id = existing.id
  · rw [if_pos same]
    constructor
    · intro found
      exact .inl (Option.some.inj found).symm
    · rintro (written | ⟨_, differs⟩)
      · rw [written]
      · exact absurd same differs
  · rw [if_neg same, ← Table.mem_iff_find?]
    constructor
    · intro member
      exact .inr ⟨member, same⟩
    · rintro (written | ⟨member, _⟩)
      · rw [written] at same
        exact absurd rfl same
      · exact member

theorem Distinct.write (distinct : Distinct now) (writes : Writes now after written)
    (free : uniqueViolation now written = none) : Distinct after := by
  intro contact member
  apply uniqueViolation_eq_none.mpr
  intro other stored differs same
  have apart := uniqueViolation_eq_none.mp free
  rcases (writes contact).mp member with rfl | ⟨old, keyed⟩
  · rcases (writes other).mp stored with rfl | ⟨before, _⟩
    · exact absurd rfl differs
    · exact apart other before differs same
  · rcases (writes other).mp stored with rfl | ⟨before, _⟩
    · -- the written row is the other one: what it shares, it shares both ways
      obtain ⟨externalIds, emails⟩ := apart contact old keyed same.symm
      exact ⟨fun value has also => externalIds value also has, fun value has also => emails value also has⟩
    · exact uniqueViolation_eq_none.mp (distinct contact old) other before differs same

end Writes

section Effects

variable (workspaceId : WorkspaceId) (contacts : Table Contact.id) (policy : DuplicatePolicy)
  (input : UpsertContactIdentityInput)

def standing : Option Contact := matchIdentity contacts workspaceId input.externalId input.email

def expected : RowStatus :=
  (standing workspaceId contacts input).elim .created fun _ => if policy = .update then .updated else .skipped

/-- The external id that a row gives to a contact: a new one, or one that had none. -/
def broughtExternalId : Option String :=
  (standing workspaceId contacts input).elim input.externalId fun existing =>
    if policy = .update ∧ attachesExternalId contacts existing input = true then input.externalId else none

/-- The row changes the contact's address, and the change is not skipped. -/
def readdresses (existing : Contact) : Bool :=
  decide (policy = .update) && changesEmail existing (given input.email) && !emailChangeSkipped contacts existing input

def broughtEmail : Option String :=
  (standing workspaceId contacts input).elim input.email fun existing =>
    if readdresses contacts policy input existing then given input.email else none

def freedEmail : Option String :=
  (standing workspaceId contacts input).bind fun existing =>
    if readdresses contacts policy input existing then existing.email else none

end Effects

/-- The external ids and emails that the live contacts of a workspace have. -/
structure OnFile where
  externalIds : List String
  emails : List String
  deriving DecidableEq, Repr

namespace OnFile

def ofContacts (workspaceId : WorkspaceId) (contacts : Table Contact.id) : OnFile :=
  let live := contacts.rows.filter fun contact => contact.workspaceId == workspaceId && contact.anonymizedAt.isNone
  { externalIds := live.filterMap Contact.externalId, emails := live.filterMap Contact.email }

def knows (file : OnFile) (input : UpsertContactIdentityInput) : Bool :=
  (given input.externalId).any (file.externalIds.contains ·) || (given input.email).any (file.emails.contains ·)

/-- A row that is stored adds what it brings and takes away the address it frees. -/
def after (workspaceId : WorkspaceId) (contacts : Table Contact.id) (policy : DuplicatePolicy)
    (input : UpsertContactIdentityInput) (file : OnFile) : OnFile where
  externalIds := (broughtExternalId workspaceId contacts policy input).toList ++ file.externalIds
  emails := (broughtEmail workspaceId contacts policy input).toList ++
    file.emails.filter fun email => freedEmail workspaceId contacts policy input != some email

end OnFile

/-- What is on file is what live contacts have; nobody is found by an empty value. -/
structure Files (workspaceId : WorkspaceId) (contacts : Table Contact.id) (file : OnFile) : Prop where
  externalIds : ∀ value, value ≠ "" → (value ∈ file.externalIds ↔
    ∃ contact, Live contacts workspaceId contact ∧ contact.externalId = some value)
  emails : ∀ value, value ≠ "" → (value ∈ file.emails ↔
    ∃ contact, Live contacts workspaceId contact ∧ contact.email = some value)

section Files

variable {workspaceId : WorkspaceId} {contacts after : Table Contact.id} {file : OnFile} {policy : DuplicatePolicy}
  {input : UpsertContactIdentityInput} {existing written : Contact}

theorem Writes.holder_iff (writes : Writes contacts after written)
    (living : written.workspaceId = workspaceId ∧ written.anonymizedAt = none) (column : Contact → Option String)
    (value : String) :
    (∃ contact, Live after workspaceId contact ∧ column contact = some value) ↔
      column written = some value ∨
        ∃ contact, Live contacts workspaceId contact ∧ contact.id ≠ written.id ∧ column contact = some value := by
  constructor
  · rintro ⟨contact, live, holds⟩
    rcases (writes contact).mp live.1 with rfl | ⟨old, differs⟩
    · exact .inl holds
    · exact .inr ⟨contact, ⟨old, live.2⟩, differs, holds⟩
  · rintro (holds | ⟨contact, live, differs, holds⟩)
    · exact ⟨written, ⟨(writes written).mpr (.inl rfl), living⟩, holds⟩
    · exact ⟨contact, ⟨(writes contact).mpr (.inr ⟨live.1, differs⟩), live.2⟩, holds⟩

theorem mem_after_externalIds {value : String} :
    value ∈ (file.after workspaceId contacts policy input).externalIds ↔
      broughtExternalId workspaceId contacts policy input = some value ∨ value ∈ file.externalIds := by
  rw [OnFile.after, List.mem_append, Option.mem_toList]

theorem mem_after_emails {value : String} : value ∈ (file.after workspaceId contacts policy input).emails ↔
    broughtEmail workspaceId contacts policy input = some value ∨
      value ∈ file.emails ∧ freedEmail workspaceId contacts policy input ≠ some value := by
  rw [OnFile.after, List.mem_append, Option.mem_toList, List.mem_filter, bne_iff_ne]

theorem Files.created (files : Files workspaceId contacts file) (writes : Writes contacts after written)
    (unmatched : standing workspaceId contacts input = none) (fresh : contacts.find? written.id = none)
    (living : written.workspaceId = workspaceId ∧ written.anonymizedAt = none)
    (named : written.externalId = input.externalId) (addressed : written.email = input.email) :
    Files workspaceId after (file.after workspaceId contacts policy input) := by
  have others : ∀ contact, Live contacts workspaceId contact → contact.id ≠ written.id := by
    intro contact live same
    rw [← same, Table.find?_of_mem live.1] at fresh
    cases fresh
  constructor
  · intro value nonempty
    rw [mem_after_externalIds, files.externalIds value nonempty, writes.holder_iff living, named, broughtExternalId,
      unmatched, Option.elim_none]
    apply or_congr_right
    constructor
    · rintro ⟨contact, live, holds⟩
      exact ⟨contact, live, others contact live, holds⟩
    · rintro ⟨contact, live, _, holds⟩
      exact ⟨contact, live, holds⟩
  · intro value nonempty
    rw [mem_after_emails, files.emails value nonempty, writes.holder_iff living, addressed, broughtEmail, freedEmail,
      unmatched, Option.elim_none, Option.bind_none]
    apply or_congr_right
    constructor
    · rintro ⟨⟨contact, live, holds⟩, _⟩
      exact ⟨contact, live, others contact live, holds⟩
    · rintro ⟨contact, live, _, holds⟩
      exact ⟨⟨contact, live, holds⟩, (Option.some_ne_none value).symm⟩

theorem Files.skipped (files : Files workspaceId contacts file)
    (matched : standing workspaceId contacts input = some existing) :
    Files workspaceId contacts (file.after workspaceId contacts .skip input) := by
  constructor
  · intro value nonempty
    rw [mem_after_externalIds, broughtExternalId, matched, ← files.externalIds value nonempty]
    simp
  · intro value nonempty
    rw [mem_after_emails, broughtEmail, freedEmail, matched, ← files.emails value nonempty]
    simp [readdresses]

theorem holder_iff_or (live : Live contacts workspaceId existing) (column : Contact → Option String) (value : String) :
    (∃ contact, Live contacts workspaceId contact ∧ column contact = some value) ↔
      column existing = some value ∨
        ∃ contact, Live contacts workspaceId contact ∧ contact.id ≠ existing.id ∧ column contact = some value := by
  constructor
  · rintro ⟨contact, lives, holds⟩
    by_cases same : contact.id = existing.id
    · rw [Table.eq_of_find? (Table.find?_of_mem live.1) lives.1 same] at holds
      exact .inl holds
    · exact .inr ⟨contact, lives, same, holds⟩
  · rintro (holds | ⟨contact, lives, _, holds⟩)
    · exact ⟨existing, live, holds⟩
    · exact ⟨contact, lives, holds⟩

theorem email_updatedContact_eq : (updatedContact contacts existing input).email =
    if readdresses contacts .update input existing then given input.email else existing.email := by
  have assigned : (updatedContact contacts existing input).email =
      if emailChangeSkipped contacts existing input then existing.email
      else (given input.email).or existing.email := rfl
  rw [assigned, readdresses]
  cases emailChangeSkipped contacts existing input with
  | true => simp
  | false =>
    cases brought : given input.email with
    | none => simp [changesEmail]
    | some email =>
      by_cases same : existing.email = some email
      · simp [changesEmail, same]
      · simp [changesEmail, same]

theorem Files.updated (files : Files workspaceId contacts file) (distinct : Distinct contacts)
    (matched : standing workspaceId contacts input = some existing)
    (writes : Writes contacts after (updatedContact contacts existing input)) :
    Files workspaceId after (file.after workspaceId contacts .update input) := by
  have live : Live contacts workspaceId existing := live_of_matchIdentity matched
  have same : (updatedContact contacts existing input).id = existing.id := rfl
  constructor
  · intro value nonempty
    rw [mem_after_externalIds, files.externalIds value nonempty, writes.holder_iff live.2, broughtExternalId, matched,
      Option.elim_some, holder_iff_or live, same]
    by_cases attached : attachesExternalId contacts existing input = true
    · -- a contact to which an external id is attached had none
      have bare : existing.externalId ≠ some value := by
        intro holds
        have anchorless := anchorless_of_attaches attached
        rw [truthy_eq_true.mpr ⟨value, holds, nonempty⟩] at anchorless
        cases anchorless
      rw [if_pos ⟨rfl, attached⟩, or_iff_right bare, externalId_updatedContact, if_pos attached]
    · rw [if_neg fun both => attached both.2, externalId_updatedContact, if_neg attached]
      simp
  · intro value nonempty
    rw [mem_after_emails, files.emails value nonempty, writes.holder_iff live.2, broughtEmail, freedEmail, matched,
      Option.elim_some, Option.bind_some, email_updatedContact_eq, same]
    by_cases moved : readdresses contacts .update input existing = true
    · rw [if_pos moved, if_pos moved, if_pos moved, holder_iff_or live]
      apply or_congr_right
      constructor
      · rintro ⟨holds | elsewhere, left⟩
        · exact absurd holds left
        · exact elsewhere
      · rintro ⟨contact, lives, differs, holds⟩
        refine ⟨.inr ⟨contact, lives, differs, holds⟩, fun had => differs ?_⟩
        rw [distinct.eq_of_email lives.1 live.1 (lives.2.1.trans live.2.1.symm) holds had]
    · rw [if_neg moved, if_neg moved, if_neg moved, holder_iff_or live]
      simp

end Files

end LocalCrm.Imports
