import LocalCrm.Delivery.UnsubscribeToken
import LocalCrm.Library.Transition
import Mathlib.Logic.Encodable.Basic
import Mathlib.Logic.Equiv.List

/-! Rotations of the unsubscribe secret. -/

set_option autoImplicit false

namespace LocalCrm.Delivery.Unsubscription

open Library Library.JsonText

structure Rotation where
  primary : Text
  before : List Text
  after : List Text

def Rotation.written (rotation : Rotation) (old : Text) : List Text := rotation.before ++ old :: rotation.after

def rotated (env : ProcessEnv) (rotation : Rotation) : Option ProcessEnv :=
  env.unsubscribeTokenSecret.map fun old =>
    { unsubscribeTokenSecret := some rotation.primary
      unsubscribeTokenSecretPrevious := some ([comma].intercalate (rotation.written old)) }

def rotate (env : ProcessEnv) (rotation : Rotation) : Option ProcessEnv :=
  (rotated env rotation).filter fun next => Accepted next

def Listed (secret : Text) (env : ProcessEnv) : Prop :=
  env.unsubscribeTokenSecret = some secret ∨
    ∃ raw, env.unsubscribeTokenSecretPrevious = some raw ∧ raw ≠ [] ∧ secret ∈ raw.splitOn comma

/-- The secret is the one that the rotation retires, or one that it writes back into the list. -/
def KeepsSecret (secret : Text) (env : ProcessEnv) (rotation : Rotation) (_ : ProcessEnv) : Prop :=
  env.unsubscribeTokenSecret = some secret ∨ secret ∈ rotation.before ++ rotation.after

section Listing

variable {env : ProcessEnv} {primary secret : Text}

theorem Usable.set (usable : Usable env primary) : env.unsubscribeTokenSecret = some primary := by
  have found := usable.primary_eq
  unfold getPrimarySecret at found
  cases stored : env.unsubscribeTokenSecret with
  | none =>
    rw [stored] at found
    exact absurd found (by simp)
  | some other =>
    rw [stored] at found
    dsimp only at found
    split at found
    · exact absurd found (by simp)
    · exact congrArg some (Except.ok.inj found)

theorem mem_getPreviousSecrets : secret ∈ getPreviousSecrets env ↔
    ∃ raw, env.unsubscribeTokenSecretPrevious = some raw ∧ raw ≠ [] ∧ secret ∈ raw.splitOn comma := by
  unfold getPreviousSecrets
  cases env.unsubscribeTokenSecretPrevious with
  | none => simp
  | some raw => by_cases empty : raw = [] <;> simp [empty]

theorem Usable.listed_iff (usable : Usable env primary) :
    Listed secret env ↔ secret ∈ primary :: getPreviousSecrets env := by
  unfold Listed
  rw [usable.set, List.mem_cons, mem_getPreviousSecrets, Option.some_inj]
  exact or_congr_left eq_comm

end Listing

section Rotating

variable {env next final : ProcessEnv} {rotation : Rotation} {rotations : List Rotation} {secret : Text}

theorem splitOn_intercalate_pieces {separator : UInt16} {pieces : List Text} (nonempty : pieces ≠ []) :
    ([separator].intercalate pieces).splitOn separator = pieces.flatMap (·.splitOn separator) := by
  induction pieces with
  | nil => exact absurd rfl nonempty
  | cons piece others ih =>
    cases others with
    | nil => simp
    | cons second others =>
      rw [List.intercalate_cons_of_ne_nil (List.cons_ne_nil _ _), List.append_assoc, List.singleton_append,
        List.splitOn_append_cons_self, ih (List.cons_ne_nil _ _)]
      rfl

theorem mem_splitOn_intercalate {separator : UInt16} {piece : Text} {pieces : List Text} (member : piece ∈ pieces)
    (whole : separator ∉ piece) : piece ∈ ([separator].intercalate pieces).splitOn separator := by
  rw [splitOn_intercalate_pieces (List.ne_nil_of_mem member)]
  apply List.mem_flatMap.mpr
  refine ⟨piece, member, ?_⟩
  rw [List.splitOn_eq_singleton whole]
  exact List.mem_singleton_self piece

theorem listed_of_written {pieces : List Text} (sound : Sound secret) (member : secret ∈ pieces)
    (written : next.unsubscribeTokenSecretPrevious = some ([comma].intercalate pieces)) : Listed secret next := by
  have split := mem_splitOn_intercalate member sound.whole
  refine .inr ⟨_, written, ?_, split⟩
  intro empty
  rw [empty, List.splitOn_nil, List.mem_singleton] at split
  rw [split] at sound
  exact absurd sound.long (by decide)

theorem rotate_eq_some (step : rotate env rotation = some next) : Accepted next ∧ rotated env rotation = some next := by
  obtain ⟨written, accepted⟩ := Option.filter_eq_some_iff.mp step
  exact ⟨of_decide_eq_true accepted, written⟩

theorem listed_rotate (accepted : Accepted env) (listed : Listed secret env) (kept : KeepsSecret secret env rotation next)
    (step : rotate env rotation = some next) : Listed secret next := by
  obtain ⟨primary, usable⟩ := usable_of_accepted accepted
  obtain ⟨_, written⟩ := rotate_eq_some step
  rw [rotated, usable.set] at written
  obtain rfl := Option.some.inj written
  have sound := usable.sound secret (usable.listed_iff.mp listed)
  apply listed_of_written sound _ rfl
  rcases kept with retired | again
  · obtain rfl := Option.some.inj (usable.set.symm.trans retired)
    exact List.mem_append_right _ List.mem_cons_self
  · rcases List.mem_append.mp again with before | after
    · exact List.mem_append_left _ before
    · exact List.mem_append_right _ (List.mem_cons_of_mem _ after)

theorem accepted_run (accepted : Accepted env) (ran : run rotate env rotations = some final) : Accepted final := by
  have preserved : ∀ env rotation next, Accepted env → rotate env rotation = some next → Accepted next :=
    fun _ _ _ _ step => (rotate_eq_some step).1
  exact invariant_of_every_run preserved accepted ran

theorem listed_run (accepted : Accepted env) (listed : Listed secret env)
    (kept : Along rotate (KeepsSecret secret) env rotations) (ran : run rotate env rotations = some final) :
    Listed secret final := by
  have preserved : ∀ env rotation next, Accepted env ∧ Listed secret env → KeepsSecret secret env rotation next →
      rotate env rotation = some next → Accepted next ∧ Listed secret next := by
    rintro env rotation next ⟨accepted, listed⟩ kept step
    exact ⟨(rotate_eq_some step).1, listed_rotate accepted listed kept step⟩
  exact (invariant_of_run preserved ⟨accepted, listed⟩ kept ran).2

end Rotating

section Tokens

variable {env : ProcessEnv} {secret encoded token : Text}

theorem verify_of_listed {hmac : Hmac} (accepted : Accepted env) (listed : Listed secret env)
    (signed : SignedUnder hmac secret encoded token) :
    verifyUnsubscribeToken hmac env token = decodePayload encoded := by
  obtain ⟨primary, usable⟩ := usable_of_accepted accepted
  exact verify_of_signed usable.candidates_eq (usable.listed_iff.mp listed) signed

theorem verified_by_one {hmac : Hmac} {found : UnsubscribeTokenPayload Rat} (accepted : Accepted env)
    (verified : verifyUnsubscribeToken hmac env token = some found) :
    ∃ encoded, decodePayload encoded = some found ∧
      ∃! secret, Listed secret env ∧ SignedUnder hmac secret encoded token := by
  obtain ⟨primary, usable⟩ := usable_of_accepted accepted
  obtain ⟨secret, member, encoded, signed, decoded⟩ := signed_of_verify usable.candidates_eq verified
  refine ⟨encoded, decoded, secret, ⟨usable.listed_iff.mpr member, signed⟩, ?_⟩
  intro other same
  exact (same.2.secret_eq signed).1

theorem sign_eq {hmac : Hmac} {primary : Text} {payload : UnsubscribeTokenPayload Int} (usable : Usable env primary) :
    signUnsubscribeToken hmac env payload = .ok (tokenUnder hmac primary payload) := by
  rw [signUnsubscribeToken, sign, usable.primary_eq]
  rfl

end Tokens

theorem tokens_survive_rotations (hmac : Hmac) :
    (∀ env, Accepted env →
      (∃ primary, Usable env primary ∧
        ∀ payload, signUnsubscribeToken hmac env payload = .ok (tokenUnder hmac primary payload)) ∧
      (∀ secret payload, Listed secret env →
        verifyUnsubscribeToken hmac env (tokenUnder hmac secret payload) = some payload.verified) ∧
      (∀ token found, verifyUnsubscribeToken hmac env token = some found →
        ∃ encoded, decodePayload encoded = some found ∧
          ∃! secret, Listed secret env ∧ SignedUnder hmac secret encoded token)) ∧
    (∀ env rotations final, Accepted env → run rotate env rotations = some final →
      (∀ secret encoded token, Listed secret env → Listed secret final → SignedUnder hmac secret encoded token →
        verifyUnsubscribeToken hmac final token = verifyUnsubscribeToken hmac env token) ∧
      (∀ secret, Listed secret env → Along rotate (KeepsSecret secret) env rotations → Listed secret final)) := by
  constructor
  · intro env accepted
    refine ⟨?_, ?_, fun token found verified => verified_by_one accepted verified⟩
    · obtain ⟨primary, usable⟩ := usable_of_accepted accepted
      exact ⟨primary, usable, fun payload => sign_eq usable⟩
    · intro secret payload listed
      rw [verify_of_listed accepted listed signedUnder_tokenUnder, decodePayload_encodePayload]
  · intro env rotations final accepted ran
    refine ⟨?_, fun secret listed kept => listed_run accepted listed kept ran⟩
    intro secret encoded token listed still signed
    rw [verify_of_listed (accepted_run accepted ran) still signed, verify_of_listed accepted listed signed]

def unaryHmac : Hmac where
  digest secret message :=
    List.replicate (Encodable.encode (secret.map UInt16.toNat, message.map UInt16.toNat) + 1) 0
  nonempty secret message := by
    rw [List.replicate_succ]
    exact List.cons_ne_nil _ _
  injective secret message other text := by
    intro same
    have length := congrArg List.length same
    rw [List.length_replicate, List.length_replicate] at length
    have pairs := Prod.mk.inj (Encodable.encode_injective (Nat.succ.inj length))
    have units : Function.Injective UInt16.toNat := fun first second => UInt16.toNat_inj.mp
    exact ⟨units.list_map pairs.1, units.list_map pairs.2⟩

def mailedSecret : Text := List.replicate 32 (unitOf 'a')

def mailedEnv : ProcessEnv :=
  { unsubscribeTokenSecret := some mailedSecret, unsubscribeTokenSecretPrevious := none }

def retirement : Rotation := { primary := List.replicate 32 (unitOf 'b'), before := [], after := [] }

def mailedPayload : UnsubscribeTokenPayload Int :=
  { sendId := ascii "s1", contactId := ascii "c1", workspaceId := ascii "w1", exp := 1767225600 }

theorem mailed_link_opens :
    ∃ final, run rotate mailedEnv [retirement] = some final ∧
      verifyUnsubscribeToken unaryHmac final (tokenUnder unaryHmac mailedSecret mailedPayload) =
        some mailedPayload.verified := by
  have accepted : Accepted mailedEnv := by decide +kernel
  have started : (run rotate mailedEnv [retirement]).isSome = true := by decide +kernel
  obtain ⟨final, ran⟩ := Option.isSome_iff_exists.mp started
  obtain ⟨opens, runs⟩ := tokens_survive_rotations unaryHmac
  have listed : Listed mailedSecret mailedEnv := .inl rfl
  have kept : Along rotate (KeepsSecret mailedSecret) mailedEnv [retirement] := fun next _ => ⟨.inl rfl, trivial⟩
  obtain ⟨same, stays⟩ := runs mailedEnv [retirement] final accepted ran
  refine ⟨final, ran, ?_⟩
  rw [same mailedSecret _ _ listed (stays mailedSecret listed kept) signedUnder_tokenUnder,
    (opens mailedEnv accepted).2.1 mailedSecret mailedPayload listed]

end LocalCrm.Delivery.Unsubscription
