import LocalCrm.Library.Base64Url
import LocalCrm.Library.JsonText
import Mathlib.Data.List.Nodup

/-! Unsubscribe tokens, signed under the primary secret and verified under every retained one. -/

set_option autoImplicit false

namespace LocalCrm.Delivery.Unsubscription

open Library Library.JsonText

structure ProcessEnv where
  unsubscribeTokenSecret : Option Text
  unsubscribeTokenSecretPrevious : Option Text
  deriving DecidableEq

/-- The keyed digest, apart for every secret and every message. -/
structure Hmac where
  digest : Text → Text → List UInt8
  nonempty : ∀ secret message, digest secret message ≠ []
  injective : ∀ secret message other text, digest secret message = digest other text → secret = other ∧ message = text

/-- The expiry is in Unix seconds: an integer when signed, any number when read back. -/
structure UnsubscribeTokenPayload (Seconds : Type) where
  sendId : Text
  contactId : Text
  workspaceId : Text
  exp : Seconds
  deriving DecidableEq

def UnsubscribeTokenPayload.members (payload : UnsubscribeTokenPayload Int) : List (Text × Plain) :=
  [(ascii "sendId", .string payload.sendId), (ascii "contactId", .string payload.contactId),
    (ascii "workspaceId", .string payload.workspaceId), (ascii "exp", .integer payload.exp)]

def UnsubscribeTokenPayload.verified (payload : UnsubscribeTokenPayload Int) : UnsubscribeTokenPayload Rat :=
  { sendId := payload.sendId, contactId := payload.contactId, workspaceId := payload.workspaceId, exp := payload.exp }

def comma : UInt16 := 0x2C

def dot : UInt16 := 0x2E

section Secrets

variable (env : ProcessEnv)

-- an empty variable is as good as none
def getPrimarySecret : Except String Text :=
  match env.unsubscribeTokenSecret with
  | none => .error "UNSUBSCRIBE_TOKEN_SECRET is not set"
  | some secret => if secret = [] then .error "UNSUBSCRIBE_TOKEN_SECRET is not set" else .ok secret

def getPreviousSecrets : List Text :=
  match env.unsubscribeTokenSecretPrevious with
  | none => []
  | some raw => if raw = [] then [] else raw.splitOn comma

def candidates : Except String (List Text) := (getPrimarySecret env).map (· :: getPreviousSecrets env)

end Secrets

section Tokens

variable (hmac : Hmac)

def signWith (secret encodedPayload : Text) : Text := Base64Url.encode (hmac.digest secret encodedPayload)

def sign (env : ProcessEnv) (encodedPayload : Text) : Except String Text :=
  (getPrimarySecret env).map fun secret => signWith hmac secret encodedPayload

def encodePayload (payload : UnsubscribeTokenPayload Int) : Text :=
  Base64Url.encode (utf8 (stringify payload.members))

def signUnsubscribeToken (env : ProcessEnv) (payload : UnsubscribeTokenPayload Int) : Except String Text :=
  (sign hmac env (encodePayload payload)).map fun signature => encodePayload payload ++ dot :: signature

def property (name : String) : Value → Option Value
  | .object fields => ((fields.filter (·.1 = ascii name)).getLast?).map Prod.snd
  | _ => none

def asString : Value → Option Text
  | .string text => some text
  | _ => none

def asNumber : Value → Option Rat
  | .number value => some value
  | _ => none

def decodePayload (encodedPayload : Text) : Option (UnsubscribeTokenPayload Rat) := do
  let parsed ← parse (textOf (Base64Url.decode encodedPayload))
  let sendId ← (property "sendId" parsed).bind asString
  let contactId ← (property "contactId" parsed).bind asString
  let workspaceId ← (property "workspaceId" parsed).bind asString
  let exp ← (property "exp" parsed).bind asNumber
  return { sendId, contactId, workspaceId, exp }

/-- The place of the first candidate whose signature has the same bytes. -/
def matchedIndex (secrets : List Text) (encodedPayload signature : Text) : Option Nat :=
  secrets.findIdx? fun secret => Base64Url.decode (signWith hmac secret encodedPayload) = Base64Url.decode signature

def verifyUnsubscribeToken (env : ProcessEnv) (token : Text) : Option (UnsubscribeTokenPayload Rat) :=
  match token.splitOn dot with
  | [encodedPayload, signature] =>
    if encodedPayload = [] ∨ signature = [] then none
    else
      match candidates env with
      | .error _ => none
      | .ok secrets =>
        match matchedIndex hmac secrets encodedPayload signature with
        | none => none
        | some _ => decodePayload encodedPayload
  | _ => none

end Tokens

section EnvSchema

structure Issue where
  message : String
  path : String
  deriving DecidableEq, Repr

def maxUnsubscribePreviousSecrets : Nat := 5

def primaryIssues (secret : Text) : List Issue :=
  (if secret.length < 32 then
    [⟨"UNSUBSCRIBE_TOKEN_SECRET must be at least 32 characters", "UNSUBSCRIBE_TOKEN_SECRET"⟩] else []) ++
  (if secret.any fun unit => unit == comma || isWhitespace unit then
    [⟨"UNSUBSCRIBE_TOKEN_SECRET must not contain a comma or whitespace (D-03)", "UNSUBSCRIBE_TOKEN_SECRET"⟩] else [])

def previousPath : String := "UNSUBSCRIBE_TOKEN_SECRET_PREVIOUS"

/-- The loop over the entries, with the ones it has seen. -/
def entryIssues (primary : Text) : List Text → List Text → List Issue
  | _, [] => []
  | seen, entry :: rest =>
    (if entry.length = 0 then [⟨"UNSUBSCRIBE_TOKEN_SECRET_PREVIOUS must not contain empty entries", previousPath⟩]
      else if entry.length < 32 then
        [⟨"each UNSUBSCRIBE_TOKEN_SECRET_PREVIOUS entry must be at least 32 characters", previousPath⟩]
      else []) ++
    (if entry = primary ∨ entry ∈ seen then
      [⟨"UNSUBSCRIBE_TOKEN_SECRET_PREVIOUS must not duplicate the primary secret or another entry", previousPath⟩]
      else []) ++
    entryIssues primary (entry :: seen) rest

def previousIssues (primary raw : Text) : List Issue :=
  if raw = [] then []
  else
    (if raw.any isWhitespace then
      [⟨"UNSUBSCRIBE_TOKEN_SECRET_PREVIOUS entries must not contain whitespace (D-03)", previousPath⟩] else []) ++
    (if maxUnsubscribePreviousSecrets < (raw.splitOn comma).length then
      [⟨s!"UNSUBSCRIBE_TOKEN_SECRET_PREVIOUS supports at most {maxUnsubscribePreviousSecrets} retired secrets",
        previousPath⟩] else []) ++
    entryIssues primary [] (raw.splitOn comma)

/-- What `envSchema` says of the two variables; a missing primary secret ends the parse. -/
def envIssues (env : ProcessEnv) : List Issue :=
  match env.unsubscribeTokenSecret with
  | none => [⟨"Invalid input: expected string, received undefined", "UNSUBSCRIBE_TOKEN_SECRET"⟩]
  | some primary =>
    primaryIssues primary ++ env.unsubscribeTokenSecretPrevious.elim [] (previousIssues primary)

def Accepted (env : ProcessEnv) : Prop := envIssues env = []

instance (env : ProcessEnv) : Decidable (Accepted env) := inferInstanceAs (Decidable (envIssues env = []))

end EnvSchema

section Schema

variable {env : ProcessEnv} {primary secret raw : Text} {seen entries : List Text}

structure Sound (secret : Text) : Prop where
  long : 32 ≤ secret.length
  whole : comma ∉ secret
  visible : ∀ unit ∈ secret, isWhitespace unit = false

theorem primaryIssues_eq_nil : primaryIssues secret = [] ↔ Sound secret := by
  unfold primaryIssues
  rw [List.append_eq_nil_iff]
  constructor
  · rintro ⟨long, clean⟩
    have plain : ∀ unit ∈ secret, unit ≠ comma ∧ isWhitespace unit = false := by
      intro unit member
      by_contra dirty
      have found : (secret.any fun unit => unit == comma || isWhitespace unit) = true := by
        apply List.any_eq_true.mpr
        refine ⟨unit, member, ?_⟩
        rw [Bool.or_eq_true, beq_iff_eq]
        by_cases separator : unit = comma
        · exact .inl separator
        · exact .inr (Bool.not_eq_false _ ▸ fun blank => dirty ⟨separator, blank⟩)
      rw [if_pos found] at clean
      exact List.cons_ne_nil _ _ clean
    refine ⟨?_, fun member => (plain _ member).1 rfl, fun unit member => (plain unit member).2⟩
    by_contra short
    rw [if_pos (Nat.lt_of_not_le short)] at long
    exact List.cons_ne_nil _ _ long
  · intro sound
    refine ⟨if_neg (Nat.not_lt.mpr sound.long), if_neg ?_⟩
    intro found
    obtain ⟨unit, member, dirty⟩ := List.any_eq_true.mp found
    rw [sound.visible unit member, Bool.or_false, beq_iff_eq] at dirty
    exact sound.whole (dirty ▸ member)

theorem entries_of_no_issues (clean : entryIssues primary seen entries = []) :
    (∀ entry ∈ entries, 32 ≤ entry.length ∧ entry ≠ primary ∧ entry ∉ seen) ∧ entries.Nodup := by
  induction entries generalizing seen with
  | nil => exact ⟨fun _ absent => absurd absent List.not_mem_nil, List.nodup_nil⟩
  | cons entry rest ih =>
    rw [entryIssues, List.append_eq_nil_iff, List.append_eq_nil_iff] at clean
    obtain ⟨⟨sized, fresh⟩, later⟩ := clean
    obtain ⟨others, distinct⟩ := ih later
    have long : 32 ≤ entry.length := by
      by_contra short
      by_cases empty : entry.length = 0
      · rw [if_pos empty] at sized
        exact List.cons_ne_nil _ _ sized
      · rw [if_neg empty, if_pos (Nat.lt_of_not_le short)] at sized
        exact List.cons_ne_nil _ _ sized
    have new : ¬ (entry = primary ∨ entry ∈ seen) := by
      intro repeated
      rw [if_pos repeated] at fresh
      exact List.cons_ne_nil _ _ fresh
    rw [not_or] at new
    constructor
    · intro other member
      rcases List.mem_cons.mp member with rfl | member
      · exact ⟨long, new.1, new.2⟩
      · obtain ⟨otherLong, differs, unseen⟩ := others other member
        exact ⟨otherLong, differs, fun before => unseen (List.mem_cons_of_mem _ before)⟩
    · exact List.nodup_cons.mpr ⟨fun member => (others entry member).2.2 List.mem_cons_self, distinct⟩

theorem pieces_of_splitOn {separator : UInt16} {piece : Text} (member : piece ∈ raw.splitOn separator) :
    separator ∉ piece ∧ ∀ unit ∈ piece, unit ∈ raw := by
  induction raw generalizing piece with
  | nil =>
    rw [List.splitOn_nil, List.mem_singleton] at member
    rw [member]
    exact ⟨List.not_mem_nil, fun unit absent => absurd absent List.not_mem_nil⟩
  | cons first rest ih =>
    rw [List.splitOn_cons_eq_if_modifyHead] at member
    split at member
    · rcases List.mem_cons.mp member with rfl | later
      · exact ⟨List.not_mem_nil, fun unit absent => absurd absent List.not_mem_nil⟩
      · exact ⟨(ih later).1, fun unit inside => List.mem_cons_of_mem _ ((ih later).2 unit inside)⟩
    · case isFalse differs =>
      -- the first piece grows by a unit that is not the separator
      cases pieces : rest.splitOn separator with
      | nil => exact absurd pieces (List.splitOn_ne_nil _ _)
      | cons head tail =>
        rw [pieces, List.modifyHead_cons] at member
        rcases List.mem_cons.mp member with rfl | later
        · obtain ⟨absent, inside⟩ := @ih head (pieces ▸ List.mem_cons_self)
          refine ⟨?_, List.forall_mem_cons.mpr ⟨List.mem_cons_self, fun unit member =>
            List.mem_cons_of_mem _ (inside unit member)⟩⟩
          intro found
          rcases List.mem_cons.mp found with same | later
          · exact differs (beq_iff_eq.mpr same.symm)
          · exact absent later
        · obtain ⟨absent, inside⟩ := @ih piece (pieces ▸ List.mem_cons_of_mem _ later)
          exact ⟨absent, fun unit member => List.mem_cons_of_mem _ (inside unit member)⟩

/-- What an accepted environment verifies with. -/
structure Usable (env : ProcessEnv) (primary : Text) : Prop where
  primary_eq : getPrimarySecret env = .ok primary
  sound : ∀ secret ∈ primary :: getPreviousSecrets env, Sound secret
  distinct : (primary :: getPreviousSecrets env).Nodup
  few : (getPreviousSecrets env).length ≤ maxUnsubscribePreviousSecrets

theorem usable_of_accepted (accepted : Accepted env) : ∃ primary, Usable env primary := by
  obtain ⟨primary, previous⟩ := env
  cases primary with
  | none => exact absurd accepted (List.cons_ne_nil _ _)
  | some primary =>
    obtain ⟨first, others⟩ := List.append_eq_nil_iff.mp accepted
    have sound := primaryIssues_eq_nil.mp first
    have set : getPrimarySecret ⟨some primary, previous⟩ = .ok primary := by
      apply if_neg
      rintro rfl
      exact absurd sound.long (by decide)
    refine ⟨primary, ?_⟩
    have none_ : getPreviousSecrets ⟨some primary, previous⟩ = [] → Usable ⟨some primary, previous⟩ primary := by
      intro empty
      refine ⟨set, ?_, ?_, ?_⟩
      · rw [empty]
        exact List.forall_mem_singleton.mpr sound
      · rw [empty]
        exact List.nodup_singleton _
      · rw [empty]
        exact Nat.zero_le _
    cases previous with
    | none => exact none_ rfl
    | some raw =>
      by_cases empty : raw = []
      · exact none_ (if_pos empty)
      · have listed : getPreviousSecrets ⟨some primary, some raw⟩ = raw.splitOn comma := if_neg empty
        rw [Option.elim_some, previousIssues, if_neg empty, List.append_eq_nil_iff, List.append_eq_nil_iff] at others
        obtain ⟨⟨visible, few⟩, entries⟩ := others
        obtain ⟨each, distinct⟩ := entries_of_no_issues entries
        refine ⟨set, ?_, ?_, ?_⟩
        · rw [listed]
          refine List.forall_mem_cons.mpr ⟨sound, fun entry member => ?_⟩
          obtain ⟨whole, inside⟩ := pieces_of_splitOn member
          refine ⟨(each entry member).1, whole, fun unit present => ?_⟩
          by_contra blank
          rw [if_pos (List.any_eq_true.mpr ⟨unit, inside unit present, by simpa using blank⟩)] at visible
          exact List.cons_ne_nil _ _ visible
        · rw [listed]
          exact List.nodup_cons.mpr ⟨fun member => (each primary member).2.1 rfl, distinct⟩
        · rw [listed]
          by_contra many
          rw [if_pos (Nat.lt_of_not_le many)] at few
          exact List.cons_ne_nil _ _ few

theorem Usable.candidates_eq (usable : Usable env primary) :
    candidates env = .ok (primary :: getPreviousSecrets env) := by
  rw [candidates, usable.primary_eq]
  rfl

end Schema

section Verification

variable {hmac : Hmac} {env : ProcessEnv} {secrets : List Text} {secret other token encoded : Text}
  {payload : UnsubscribeTokenPayload Int}

def SignedUnder (hmac : Hmac) (secret encoded token : Text) : Prop :=
  ∃ signature, token = encoded ++ dot :: signature ∧ dot ∉ encoded ∧ dot ∉ signature ∧ encoded ≠ [] ∧
    Base64Url.decode signature = hmac.digest secret encoded

def tokenUnder (hmac : Hmac) (secret : Text) (payload : UnsubscribeTokenPayload Int) : Text :=
  encodePayload payload ++ dot :: signWith hmac secret (encodePayload payload)

theorem decode_signWith : Base64Url.decode (signWith hmac secret encoded) = hmac.digest secret encoded :=
  Base64Url.decode_encode

theorem dot_not_mem_encode {bytes : List UInt8} : dot ∉ Base64Url.encode bytes := by
  intro member
  obtain ⟨value, small, same⟩ := Base64Url.exists_of_mem_encode member
  have differs : ∀ value < 64, Base64Url.digit value ≠ dot := by decide
  exact differs value small same

theorem signedUnder_tokenUnder : SignedUnder hmac secret (encodePayload payload) (tokenUnder hmac secret payload) := by
  refine ⟨signWith hmac secret (encodePayload payload), rfl, dot_not_mem_encode, dot_not_mem_encode, ?_,
    decode_signWith⟩
  intro empty
  have text := textOf_utf8 (@wellFormed_stringify payload.members)
  rw [Base64Url.encode_eq_nil.mp empty] at text
  exact absurd text (List.cons_ne_nil _ _).symm

theorem splitOn_pair {first second : Text} (firstWhole : dot ∉ first) (secondWhole : dot ∉ second) :
    (first ++ dot :: second).splitOn dot = [first, second] := by
  rw [List.splitOn_append_cons_self_of_not_mem firstWhole, List.splitOn_eq_singleton secondWhole]

theorem SignedUnder.secret_eq {text : Text} (first : SignedUnder hmac secret encoded token)
    (second : SignedUnder hmac other text token) : secret = other ∧ encoded = text := by
  obtain ⟨signature, rfl, whole, signatureWhole, _, digest⟩ := first
  obtain ⟨otherSignature, same, otherWhole, otherSignatureWhole, _, otherDigest⟩ := second
  have parts := congrArg (List.splitOn dot) same
  rw [splitOn_pair whole signatureWhole, splitOn_pair otherWhole otherSignatureWhole] at parts
  obtain ⟨rfl, rest⟩ := List.cons.inj parts
  obtain rfl : signature = otherSignature := (List.cons.inj rest).1
  exact ⟨(hmac.injective _ _ _ _ (digest.symm.trans otherDigest)).1, rfl⟩

theorem matchedIndex_eq_none {signature : Text} :
    matchedIndex hmac secrets encoded signature = none ↔
      ∀ secret ∈ secrets, Base64Url.decode signature ≠ hmac.digest secret encoded := by
  unfold matchedIndex
  rw [List.findIdx?_eq_none_iff]
  constructor
  · intro unmatched secret member same
    have differs := of_decide_eq_false (unmatched secret member)
    exact differs (decode_signWith.trans same.symm)
  · intro differs secret member
    exact decide_eq_false fun same => differs secret member (same.symm.trans decode_signWith)

theorem verify_of_signed (known : candidates env = .ok secrets)
    (member : secret ∈ secrets) (signed : SignedUnder hmac secret encoded token) :
    verifyUnsubscribeToken hmac env token = decodePayload encoded := by
  obtain ⟨signature, rfl, whole, signatureWhole, nonempty, digest⟩ := signed
  have present : signature ≠ [] := by
    rintro rfl
    exact hmac.nonempty secret encoded digest.symm
  rw [verifyUnsubscribeToken, splitOn_pair whole signatureWhole]
  simp only [nonempty, present, or_self, if_false, known]
  cases matched : matchedIndex hmac secrets encoded signature with
  | none => exact absurd digest (matchedIndex_eq_none.mp matched secret member)
  | some place => rfl

theorem signed_of_verify {found : UnsubscribeTokenPayload Rat} (known : candidates env = .ok secrets)
    (verified : verifyUnsubscribeToken hmac env token = some found) :
    ∃ secret ∈ secrets, ∃ encoded, SignedUnder hmac secret encoded token ∧ decodePayload encoded = some found := by
  have pieces := fun piece member => (@pieces_of_splitOn token dot piece member).1
  have joined : [dot].intercalate (token.splitOn dot) = token := List.intercalate_splitOn dot
  unfold verifyUnsubscribeToken at verified
  split at verified
  · case h_1 encoded signature parts =>
    rw [parts] at pieces joined
    split at verified
    · exact absurd verified (by simp)
    · case isFalse nonempty =>
      rw [not_or] at nonempty
      rw [known] at verified
      cases matched : matchedIndex hmac secrets encoded signature with
      | none => simp [matched] at verified
      | some place =>
        have exists_ : ∃ secret ∈ secrets, Base64Url.decode signature = hmac.digest secret encoded := by
          by_contra unmatched
          push Not at unmatched
          rw [matchedIndex_eq_none.mpr unmatched] at matched
          exact absurd matched (by simp)
        obtain ⟨secret, member, digest⟩ := exists_
        simp only [matched] at verified
        refine ⟨secret, member, encoded, ⟨signature, ?_, ?_, ?_, nonempty.1, digest⟩, verified⟩
        · rw [← joined]
          simp [List.intercalate]
        · exact pieces encoded List.mem_cons_self
        · exact pieces signature (List.mem_cons_of_mem _ List.mem_cons_self)
  · exact absurd verified (by simp)

theorem decodePayload_encodePayload : decodePayload (encodePayload payload) = some payload.verified := by
  rw [decodePayload, encodePayload, Base64Url.decode_encode, textOf_utf8 wellFormed_stringify, parse_stringify]
  rfl

end Verification

end LocalCrm.Delivery.Unsubscription
