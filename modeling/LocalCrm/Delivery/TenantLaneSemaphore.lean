import LocalCrm.Library.SortedSet
import LocalCrm.Library.Transition
import Mathlib.Logic.Function.Basic

/-! The slots of a workspace in a send lane: leases in a sorted set, purged lazily and removed by token. -/

set_option autoImplicit false

namespace LocalCrm.Delivery

open Library

inductive TenantLane where
  | broadcast
  | triggered
  deriving DecidableEq, Repr

def TenantLane.text : TenantLane → String
  | broadcast => "broadcast"
  | triggered => "triggered"

structure AcquireSlotResult where
  acquired : Bool
  token : Option String := none
  retryAfterMs : Option Int := none
  deriving DecidableEq, Repr

structure AcquireSlotOptions where
  cap : Option Nat := none
  leaseTtlMs : Option Int := none
  deriving DecidableEq, Repr

section Limits

def sendgridTimeoutMs : Int := 20000

def claimTxMarginMs : Int := 5000

def recordTxMarginMs : Int := 5000

def sendSlotLeaseMarginMs : Int := 10000

def sendSlotLeaseTtlMs : Int := sendgridTimeoutMs + claimTxMarginMs + recordTxMarginMs + sendSlotLeaseMarginMs

def tenantLaneConcurrencyDefaults : TenantLane → Nat
  | .broadcast => 3
  | .triggered => 12

def envVarByLane : TenantLane → String
  | .broadcast => "TENANT_LANE_CONCURRENCY_BROADCAST"
  | .triggered => "TENANT_LANE_CONCURRENCY_TRIGGERED"

/-- What the process reads from outside: its variables, and the integer that `Number` makes of a text, if any. -/
structure LaneEnvironment where
  processEnv : String → Option String
  number : String → Option Int

variable (environment : LaneEnvironment) (lane : TenantLane)

/-- An override that is no positive integer falls back to the default. -/
def resolveTenantLaneCap : Nat :=
  ((((environment.processEnv (envVarByLane lane)).filter fun raw => raw != "").bind environment.number).filter
    fun parsed => decide (0 < parsed)).elim (tenantLaneConcurrencyDefaults lane) Int.toNat

def slotCap (options : AcquireSlotOptions) : Nat := options.cap.getD (resolveTenantLaneCap environment lane)

def slotLeaseTtlMs (options : AcquireSlotOptions) : Int := options.leaseTtlMs.getD sendSlotLeaseTtlMs

end Limits

section Redis

structure SlotKey where
  holders : SortedSet String Int := .empty
  expiresAt : Option Int := none

def SlotKey.read (key : SlotKey) (now : Int) : SlotKey :=
  if key.expiresAt.any fun expiresAt => decide (expiresAt < now) then {} else key

/-- A key goes with its last member. -/
def SlotKey.withHolders (key : SlotKey) (holders : SortedSet String Int) : SlotKey :=
  if holders.entries.isEmpty then {} else { key with holders }

abbrev SlotStore := String → SlotKey

def semaphoreKeyPrefix : String := "tenant-lane-sem"

def buildKey (workspaceId : String) (lane : TenantLane) : String :=
  semaphoreKeyPrefix ++ ":" ++ workspaceId ++ ":" ++ lane.text

/-- The script; without an answer where it fails, at the score of a member that is not there. -/
def acquireScript (key : SlotKey) (now leaseTtlMs : Int) (cap : Nat) (token : String) :
    Option (Bool × Int) × SlotKey :=
  let stored := key.read now
  let survivors := stored.holders.removeUpTo (now - leaseTtlMs)
  if survivors.card < cap then
    (some (true, 0), { holders := survivors.add token now, expiresAt := some (now + leaseTtlMs) })
  else
    (survivors.first?.map fun oldest => (false, max 1 (leaseTtlMs - (now - oldest.2))), stored.withHolders survivors)

def slotResult (token : String) (answer : Bool × Int) : AcquireSlotResult :=
  if answer.1 then { acquired := true, token := some token }
  else { acquired := false, retryAfterMs := some answer.2 }

def acquireTenantLaneSlot (environment : LaneEnvironment) (redis : SlotStore) (workspaceId : String)
    (lane : TenantLane) (options : AcquireSlotOptions) (token : String) (now : Int) :
    Option AcquireSlotResult × SlotStore :=
  let key := buildKey workspaceId lane
  let (answer, after) :=
    acquireScript (redis key) now (slotLeaseTtlMs options) (slotCap environment lane options) token
  (answer.map (slotResult token), Function.update redis key after)

/-- An absent token, as a failed acquire returns it, and an empty one release nothing. -/
def releasable (token : Option String) : Option String := token.filter fun token => token != ""

def releaseTenantLaneSlot (redis : SlotStore) (workspaceId : String) (lane : TenantLane) (token : Option String)
    (now : Int) : SlotStore :=
  match releasable token with
  | none => redis
  | some token =>
    let key := buildKey workspaceId lane
    let stored := (redis key).read now
    Function.update redis key (stored.withHolders (stored.holders.remove token))

theorem buildKey_inj {workspaceId other : String} {lane otherLane : TenantLane} :
    buildKey workspaceId lane = buildKey other otherLane ↔ workspaceId = other ∧ lane = otherLane := by
  constructor
  · intro same
    have characters := congrArg String.toList same
    simp only [buildKey, String.toList_append, List.append_assoc, List.append_cancel_left_eq] at characters
    -- the last letters tell the lanes apart
    have lanes : lane = otherLane := by
      have last := congrArg List.getLast? characters
      cases lane <;> cases otherLane <;> first | rfl | simp [TenantLane.text] at last
    subst lanes
    exact ⟨String.toList_injective (List.append_cancel_right characters), rfl⟩
  · rintro ⟨rfl, rfl⟩
    rfl

end Redis

section Calls

inductive LaneCall where
  | acquire (workspaceId : String) (lane : TenantLane) (token : String) (now : Int)
  | release (workspaceId : String) (lane : TenantLane) (token : Option String) (now : Int)
  deriving DecidableEq, Repr

def LaneCall.asks (workspaceId : String) (lane : TenantLane) : LaneCall → Bool
  | acquire workspaceId' lane' _ _ => decide (workspaceId' = workspaceId ∧ lane' = lane)
  | release .. => false

inductive LaneEvent where
  | answered (workspaceId : String) (lane : TenantLane) (now : Int) (result : Option AcquireSlotResult)
  | released (workspaceId : String) (lane : TenantLane) (token : Option String)
  deriving DecidableEq, Repr

/-- A token and when it was granted. -/
abbrev Lease := String × Int

def Lease.unexpired (leaseTtlMs now : Int) (lease : Lease) : Bool := decide (now < lease.2 + leaseTtlMs)

/-- What was granted under a key and not given back since; the newest event stands first. -/
def leases (workspaceId : String) (lane : TenantLane) : List LaneEvent → List Lease
  | [] => []
  | .answered workspaceId' lane' now result :: past =>
    if workspaceId' = workspaceId ∧ lane' = lane then
      ((result.bind AcquireSlotResult.token).map fun token => (token, now)).toList ++ leases workspaceId lane past
    else leases workspaceId lane past
  | .released workspaceId' lane' token :: past =>
    if workspaceId' = workspaceId ∧ lane' = lane then
      (leases workspaceId lane past).filter fun lease => releasable token != some lease.1
    else leases workspaceId lane past

structure LaneState where
  clock : Int
  redis : SlotStore := fun _ => {}
  minted : List String := []
  past : List LaneEvent := []

variable (environment : LaneEnvironment) (options : TenantLane → AcquireSlotOptions)

/-- The clock never goes back, and a generated token is a new one. -/
def laneStep (state : LaneState) : LaneCall → Option LaneState
  | .acquire workspaceId lane token now =>
    if state.clock ≤ now ∧ token ∉ state.minted then
      let (result, redis) :=
        acquireTenantLaneSlot environment state.redis workspaceId lane (options lane) token now
      some { clock := now, redis, minted := token :: state.minted,
             past := .answered workspaceId lane now result :: state.past }
    else none
  | .release workspaceId lane token now =>
    if state.clock ≤ now then
      some { state with
        clock := now
        redis := releaseTenantLaneSlot state.redis workspaceId lane token now
        past := .released workspaceId lane token :: state.past }
    else none

end Calls

section Slots

variable {leaseTtlMs clock now : Int} {cap : Nat} {minted : List String} {held : List Lease} {key : SlotKey}
  {token : String} {lease : Lease}

/-- How the set under a key stands to the leases that were granted under it. -/
structure SlotSound (leaseTtlMs : Int) (cap : Nat) (clock : Int) (minted : List String) (held : List Lease)
    (key : SlotKey) : Prop where
  agrees : ∀ lease : Lease, clock < lease.2 + leaseTtlMs → (lease ∈ held ↔ lease ∈ key.holders.entries)
  bounded : key.holders.card ≤ cap
  outlived : ∀ lease ∈ key.holders.entries, ∃ expiresAt, key.expiresAt = some expiresAt ∧
    lease.2 + leaseTtlMs ≤ expiresAt
  granted : ∀ lease ∈ key.holders.entries, lease.2 ≤ clock
  distinct : (held.map Prod.fst).Nodup
  heldMinted : ∀ lease ∈ held, lease.1 ∈ minted
  storedMinted : ∀ lease ∈ key.holders.entries, lease.1 ∈ minted

theorem SlotSound.start : SlotSound leaseTtlMs cap clock minted [] {} where
  agrees lease _ := by simp
  bounded := Nat.zero_le cap
  outlived lease present := by cases present
  granted lease present := by cases present
  distinct := List.nodup_nil
  heldMinted lease present := by cases present
  storedMinted lease present := by cases present

theorem SlotSound.later (sound : SlotSound leaseTtlMs cap clock minted held key) (after : clock ≤ now)
    {mintedLater : List String} (more : minted ⊆ mintedLater) :
    SlotSound leaseTtlMs cap now mintedLater held key where
  agrees lease unexpired := sound.agrees lease (by omega)
  bounded := sound.bounded
  outlived := sound.outlived
  granted lease present := Int.le_trans (sound.granted lease present) after
  distinct := sound.distinct
  heldMinted lease present := more (sound.heldMinted lease present)
  storedMinted lease present := more (sound.storedMinted lease present)

theorem SlotSound.shrink {shrunk : SlotKey} (sound : SlotSound leaseTtlMs cap clock minted held key)
    (fewer : ∀ lease ∈ shrunk.holders.entries, lease ∈ key.holders.entries ∧ shrunk.expiresAt = key.expiresAt)
    (count : shrunk.holders.card ≤ key.holders.card)
    (stays : ∀ lease ∈ key.holders.entries, clock < lease.2 + leaseTtlMs → lease ∈ shrunk.holders.entries) :
    SlotSound leaseTtlMs cap clock minted held shrunk where
  agrees lease unexpired := by
    rw [sound.agrees lease unexpired]
    exact ⟨fun present => stays lease present unexpired, fun present => (fewer lease present).1⟩
  bounded := Nat.le_trans count sound.bounded
  outlived lease present := by
    obtain ⟨stored, same⟩ := fewer lease present
    rw [same]
    exact sound.outlived lease stored
  granted lease present := sound.granted lease (fewer lease present).1
  distinct := sound.distinct
  heldMinted := sound.heldMinted
  storedMinted lease present := sound.storedMinted lease (fewer lease present).1

theorem holders_withHolders {holders : SortedSet String Int} :
    (key.withHolders holders).holders.entries = holders.entries := by
  unfold SlotKey.withHolders
  split
  · next gone => exact (List.isEmpty_iff.mp gone).symm
  · rfl

theorem SlotSound.kept {holders : SortedSet String Int}
    (sound : SlotSound leaseTtlMs cap clock minted held { key with holders }) :
    SlotSound leaseTtlMs cap clock minted held (key.withHolders holders) := by
  unfold SlotKey.withHolders
  split
  · next gone =>
    apply sound.shrink
    · intro lease present
      cases present
    · exact Nat.zero_le _
    · intro lease present _
      rw [List.isEmpty_iff.mp gone] at present
      cases present
  · exact sound

theorem SlotSound.read (sound : SlotSound leaseTtlMs cap clock minted held key) :
    SlotSound leaseTtlMs cap clock minted held (key.read clock) := by
  unfold SlotKey.read
  split
  · next expired =>
    apply sound.shrink
    · intro lease present
      cases present
    · exact Nat.zero_le _
    · intro lease present unexpired
      obtain ⟨expiresAt, same, outlived⟩ := sound.outlived lease present
      rw [same, Option.any_some, decide_eq_true_eq] at expired
      omega
  · exact sound

theorem SlotSound.purge (sound : SlotSound leaseTtlMs cap clock minted held key) :
    SlotSound leaseTtlMs cap clock minted held
      { key with holders := key.holders.removeUpTo (clock - leaseTtlMs) } := by
  apply sound.shrink
  · intro lease present
    exact ⟨(SortedSet.mem_removeUpTo.mp present).1, rfl⟩
  · exact SortedSet.card_keep_le
  · intro lease present unexpired
    rw [SortedSet.mem_removeUpTo]
    exact ⟨present, by omega⟩

theorem SlotSound.grant (sound : SlotSound leaseTtlMs cap clock minted held key) (free : key.holders.card < cap)
    (fresh : token ∉ minted) :
    SlotSound leaseTtlMs cap clock (token :: minted) ((token, clock) :: held)
      { holders := key.holders.add token clock, expiresAt := some (clock + leaseTtlMs) } := by
  have absent : ∀ lease ∈ key.holders.entries, lease.1 ≠ token := by
    intro lease present same
    exact fresh (same ▸ sound.storedMinted lease present)
  have added : ∀ lease, lease ∈ (key.holders.add token clock).entries ↔
      lease = (token, clock) ∨ lease ∈ key.holders.entries := by
    intro lease
    rw [SortedSet.mem_add, and_iff_left_of_imp (absent lease)]
  exact {
    agrees := by
      intro lease unexpired
      rw [added, List.mem_cons, sound.agrees lease unexpired]
    bounded := by
      rw [SortedSet.card_add]
      · omega
      · intro present
        obtain ⟨lease, stored, same⟩ := List.mem_map.mp present
        exact absent lease stored same
    outlived := by
      intro lease present
      refine ⟨_, rfl, ?_⟩
      rcases (added lease).mp present with rfl | stored
      · exact Int.le_refl _
      · have before := sound.granted lease stored
        omega
    granted := by
      intro lease present
      rcases (added lease).mp present with rfl | stored
      · exact Int.le_refl _
      · exact sound.granted lease stored
    distinct := by
      rw [List.map_cons, List.nodup_cons]
      refine ⟨fun present => ?_, sound.distinct⟩
      obtain ⟨lease, stored, same⟩ := List.mem_map.mp present
      have known := sound.heldMinted lease stored
      rw [same] at known
      exact fresh known
    heldMinted := by
      intro lease present
      rcases List.mem_cons.mp present with rfl | stored
      · exact List.mem_cons_self
      · exact List.mem_cons_of_mem _ (sound.heldMinted lease stored)
    storedMinted := by
      intro lease present
      rcases (added lease).mp present with rfl | stored
      · exact List.mem_cons_self
      · exact List.mem_cons_of_mem _ (sound.storedMinted lease stored) }

theorem SlotSound.give (sound : SlotSound leaseTtlMs cap clock minted held key) :
    SlotSound leaseTtlMs cap clock minted (held.filter fun lease => some token != some lease.1)
      { key with holders := key.holders.remove token } := by
  have others : ∀ lease : Lease, (some token != some lease.1) = true ↔ lease.1 ≠ token := by
    intro lease
    rw [bne_iff_ne, ne_eq, Option.some.injEq]
    exact ne_comm
  exact {
    agrees := by
      intro lease unexpired
      rw [SortedSet.mem_remove, List.mem_filter, others, sound.agrees lease unexpired]
    bounded := Nat.le_trans SortedSet.card_keep_le sound.bounded
    outlived := fun lease present => sound.outlived lease (SortedSet.mem_remove.mp present).1
    granted := fun lease present => sound.granted lease (SortedSet.mem_remove.mp present).1
    distinct := sound.distinct.sublist (List.filter_sublist.map Prod.fst)
    heldMinted := fun lease present => sound.heldMinted lease (List.mem_filter.mp present).1
    storedMinted := fun lease present => sound.storedMinted lease (SortedSet.mem_remove.mp present).1 }

theorem SlotSound.perm (sound : SlotSound leaseTtlMs cap clock minted held key) (now : Int) (later : clock ≤ now) :
    (held.filter (Lease.unexpired leaseTtlMs now)).Perm
      (key.holders.entries.filter (Lease.unexpired leaseTtlMs now)) := by
  rw [List.perm_ext_iff_of_nodup (sound.distinct.of_map.filter _) (SortedSet.nodup_entries.filter _)]
  intro lease
  rw [List.mem_filter, List.mem_filter]
  apply and_congr_left
  intro unexpired
  rw [Lease.unexpired, decide_eq_true_eq] at unexpired
  exact sound.agrees lease (by omega)

theorem SlotSound.count (sound : SlotSound leaseTtlMs cap clock minted held key) (now : Int) (later : clock ≤ now) :
    (held.filter (Lease.unexpired leaseTtlMs now)).length ≤ cap := by
  rw [(sound.perm now later).length_eq]
  exact Nat.le_trans (List.length_filter_le _ _) sound.bounded

end Slots

section Runs

variable {environment : LaneEnvironment} {options : TenantLane → AcquireSlotOptions} {state next : LaneState}
  {workspaceId other : String} {lane otherLane : TenantLane} {token : String} {now : Int} {call : LaneCall}

/-- The key of a lane as a call at this time finds it, without what has expired. -/
def survivors (options : TenantLane → AcquireSlotOptions) (state : LaneState) (workspaceId : String)
    (lane : TenantLane) (now : Int) : SortedSet String Int :=
  ((state.redis (buildKey workspaceId lane)).read now).holders.removeUpTo (now - slotLeaseTtlMs (options lane))

theorem acquireScript_granted {key : SlotKey} {leaseTtlMs : Int} {cap : Nat}
    (free : ((key.read now).holders.removeUpTo (now - leaseTtlMs)).card < cap) :
    acquireScript key now leaseTtlMs cap token =
      (some (true, 0),
        { holders := ((key.read now).holders.removeUpTo (now - leaseTtlMs)).add token now
          expiresAt := some (now + leaseTtlMs) }) := by
  unfold acquireScript
  rw [if_pos free]

theorem acquireScript_denied {key : SlotKey} {leaseTtlMs : Int} {cap : Nat}
    (full : ¬ ((key.read now).holders.removeUpTo (now - leaseTtlMs)).card < cap) :
    acquireScript key now leaseTtlMs cap token =
      (((key.read now).holders.removeUpTo (now - leaseTtlMs)).first?.map fun oldest =>
          (false, max 1 (leaseTtlMs - (now - oldest.2))),
        (key.read now).withHolders ((key.read now).holders.removeUpTo (now - leaseTtlMs))) := by
  unfold acquireScript
  rw [if_neg full]

inductive LaneEffect (environment : LaneEnvironment) (options : TenantLane → AcquireSlotOptions) (state : LaneState) :
    LaneCall → LaneState → Prop where
  | grants {workspaceId : String} {lane : TenantLane} {token : String} {now : Int} (later : state.clock ≤ now)
      (fresh : token ∉ state.minted)
      (free : (survivors options state workspaceId lane now).card < slotCap environment lane (options lane)) :
      LaneEffect environment options state (.acquire workspaceId lane token now)
        { clock := now
          redis := Function.update state.redis (buildKey workspaceId lane)
            { holders := (survivors options state workspaceId lane now).add token now
              expiresAt := some (now + slotLeaseTtlMs (options lane)) }
          minted := token :: state.minted
          past := .answered workspaceId lane now (some { acquired := true, token := some token }) :: state.past }
  | denies {workspaceId : String} {lane : TenantLane} {token : String} {now : Int} (later : state.clock ≤ now)
      (full : slotCap environment lane (options lane) ≤ (survivors options state workspaceId lane now).card) :
      LaneEffect environment options state (.acquire workspaceId lane token now)
        { clock := now
          redis := Function.update state.redis (buildKey workspaceId lane)
            (((state.redis (buildKey workspaceId lane)).read now).withHolders
              (survivors options state workspaceId lane now))
          minted := token :: state.minted
          past := .answered workspaceId lane now
            ((survivors options state workspaceId lane now).first?.map fun oldest =>
              { acquired := false
                retryAfterMs := some (max 1 (slotLeaseTtlMs (options lane) - (now - oldest.2))) }) :: state.past }
  | releases {workspaceId : String} {lane : TenantLane} {given : Option String} {token : String} {now : Int}
      (later : state.clock ≤ now) (named : releasable given = some token) :
      LaneEffect environment options state (.release workspaceId lane given now)
        { state with
          clock := now
          redis := Function.update state.redis (buildKey workspaceId lane)
            (((state.redis (buildKey workspaceId lane)).read now).withHolders
              (((state.redis (buildKey workspaceId lane)).read now).holders.remove token))
          past := .released workspaceId lane given :: state.past }
  | passes {workspaceId : String} {lane : TenantLane} {token : Option String} {now : Int} (later : state.clock ≤ now)
      (unnamed : releasable token = none) :
      LaneEffect environment options state (.release workspaceId lane token now)
        { state with clock := now, past := .released workspaceId lane token :: state.past }

theorem laneEffect (taken : laneStep environment options state call = some next) :
    LaneEffect environment options state call next := by
  cases call with
  | acquire workspaceId lane token now =>
    simp only [laneStep] at taken
    split at taken
    · next guard =>
      obtain rfl := Option.some.inj taken
      by_cases free : (survivors options state workspaceId lane now).card < slotCap environment lane (options lane)
      · simp only [acquireTenantLaneSlot, acquireScript_granted free]
        exact .grants guard.1 guard.2 free
      · simp only [acquireTenantLaneSlot, acquireScript_denied free, Option.map_map, Function.comp_def]
        exact .denies guard.1 (Nat.le_of_not_lt free)
    · cases taken
  | release workspaceId lane token now =>
    simp only [laneStep] at taken
    split at taken
    · next later =>
      obtain rfl := Option.some.inj taken
      cases named : releasable token with
      | none =>
        simp only [releaseTenantLaneSlot, named]
        exact .passes later named
      | some token' =>
        simp only [releaseTenantLaneSlot, named]
        exact .releases later named
    · cases taken

def LaneSound (environment : LaneEnvironment) (options : TenantLane → AcquireSlotOptions) (state : LaneState) : Prop :=
  ∀ workspaceId lane,
    SlotSound (slotLeaseTtlMs (options lane)) (slotCap environment lane (options lane)) state.clock state.minted
      (leases workspaceId lane state.past) (state.redis (buildKey workspaceId lane))

theorem LaneSound.start {clock : Int} : LaneSound environment options { clock } := by
  intro workspaceId lane
  exact .start

theorem update_elsewhere {key : SlotKey} (apart : ¬ (workspaceId = other ∧ lane = otherLane)) :
    Function.update state.redis (buildKey workspaceId lane) key (buildKey other otherLane) =
      state.redis (buildKey other otherLane) := by
  apply Function.update_of_ne
  intro same
  exact apart (buildKey_inj.mp same.symm)

theorem LaneSound.survivors (sound : LaneSound environment options state) (workspaceId : String) (lane : TenantLane)
    (later : state.clock ≤ now) :
    SlotSound (slotLeaseTtlMs (options lane)) (slotCap environment lane (options lane)) now state.minted
      (leases workspaceId lane state.past)
      { (state.redis (buildKey workspaceId lane)).read now with
        holders := Delivery.survivors options state workspaceId lane now } :=
  ((sound workspaceId lane).later later (List.Subset.refl _)).read.purge

theorem LaneSound.step (sound : LaneSound environment options state)
    (taken : laneStep environment options state call = some next) : LaneSound environment options next := by
  intro other otherLane
  cases laneEffect taken with
  | @grants workspaceId lane token now later fresh free =>
    simp only [leases]
    by_cases here : workspaceId = other ∧ lane = otherLane
    · obtain ⟨rfl, rfl⟩ := here
      rw [if_pos ⟨rfl, rfl⟩, Function.update_self]
      exact (sound.survivors workspaceId lane later).grant free fresh
    · rw [if_neg here, update_elsewhere here]
      exact (sound other otherLane).later later (List.subset_cons_self _ _)
  | @denies workspaceId lane token now later full =>
    simp only [leases]
    by_cases here : workspaceId = other ∧ lane = otherLane
    · obtain ⟨rfl, rfl⟩ := here
      rw [if_pos ⟨rfl, rfl⟩, Function.update_self]
      have nothing : ((Delivery.survivors options state workspaceId lane now).first?.map fun oldest =>
          ({ acquired := false
             retryAfterMs := some (max 1 (slotLeaseTtlMs (options lane) - (now - oldest.2))) } :
            AcquireSlotResult)).bind AcquireSlotResult.token = none := by
        cases (Delivery.survivors options state workspaceId lane now).first? <;> rfl
      rw [nothing]
      exact (sound.survivors workspaceId lane later).kept.later (Int.le_refl _) (List.subset_cons_self _ _)
    · rw [if_neg here, update_elsewhere here]
      exact (sound other otherLane).later later (List.subset_cons_self _ _)
  | @releases workspaceId lane given token now later named =>
    simp only [leases]
    by_cases here : workspaceId = other ∧ lane = otherLane
    · obtain ⟨rfl, rfl⟩ := here
      rw [if_pos ⟨rfl, rfl⟩, Function.update_self, named]
      exact ((sound workspaceId lane).later later (List.Subset.refl _)).read.give.kept
    · rw [if_neg here, update_elsewhere here]
      exact (sound other otherLane).later later (List.Subset.refl _)
  | @passes workspaceId lane token now later unnamed =>
    have same : leases other otherLane (.released workspaceId lane token :: state.past) =
        leases other otherLane state.past := by
      rw [leases, unnamed]
      split
      · exact List.filter_eq_self.mpr fun lease _ => rfl
      · rfl
    simp only [same]
    exact (sound other otherLane).later later (List.Subset.refl _)

theorem LaneSound.run {calls : List LaneCall} {final : LaneState} (sound : LaneSound environment options state)
    (ran : run (laneStep environment options) state calls = some final) : LaneSound environment options final := by
  have preserved : ∀ state call next, LaneSound environment options state →
      laneStep environment options state call = some next → LaneSound environment options next :=
    fun _ _ _ holds taken => holds.step taken
  exact invariant_of_every_run preserved sound ran

def answer (environment : LaneEnvironment) (options : TenantLane → AcquireSlotOptions) (state : LaneState)
    (workspaceId : String) (lane : TenantLane) (token : String) (now : Int) : Option AcquireSlotResult :=
  (acquireTenantLaneSlot environment state.redis workspaceId lane (options lane) token now).1

theorem answer_granted
    (free : (survivors options state workspaceId lane now).card < slotCap environment lane (options lane)) :
    answer environment options state workspaceId lane token now = some { acquired := true, token := some token } := by
  simp only [answer, acquireTenantLaneSlot, acquireScript_granted free]
  rfl

theorem answer_denied {result : AcquireSlotResult}
    (answered : answer environment options state workspaceId lane token now = some result)
    (denied : result.acquired = false) :
    slotCap environment lane (options lane) ≤ (survivors options state workspaceId lane now).card ∧
      ∃ oldest, (survivors options state workspaceId lane now).first? = some oldest ∧
        result.retryAfterMs = some (slotLeaseTtlMs (options lane) - (now - oldest.2)) := by
  by_cases free : (survivors options state workspaceId lane now).card < slotCap environment lane (options lane)
  · rw [answer_granted free] at answered
    cases answered
    cases denied
  · refine ⟨Nat.le_of_not_lt free, ?_⟩
    simp only [answer, acquireTenantLaneSlot, acquireScript_denied free, Option.map_map] at answered
    obtain ⟨oldest, first, rfl⟩ := Option.map_eq_some_iff.mp answered
    refine ⟨oldest, first, ?_⟩
    have kept := (SortedSet.mem_removeUpTo.mp (SortedSet.mem_of_first? first)).2
    -- a purged set holds unexpired leases only, so the wait is positive without the clamp
    have waits : max 1 (slotLeaseTtlMs (options lane) - (now - oldest.2)) =
        slotLeaseTtlMs (options lane) - (now - oldest.2) := by
      omega
    simp only [Function.comp_apply, slotResult, Bool.false_eq_true, if_false, waits]

def Occupies (options : TenantLane → AcquireSlotOptions) (state : LaneState) (workspaceId : String)
    (lane : TenantLane) (now : Int) (lease : Lease) : Prop :=
  lease ∈ (survivors options state workspaceId lane now).entries

theorem LaneSound.perm_survivors (sound : LaneSound environment options state) (workspaceId : String)
    (lane : TenantLane) (later : state.clock ≤ now) :
    ((leases workspaceId lane state.past).filter (Lease.unexpired (slotLeaseTtlMs (options lane)) now)).Perm
      (Delivery.survivors options state workspaceId lane now).entries := by
  have perm := (sound.survivors workspaceId lane later).perm now (Int.le_refl _)
  have whole : (Delivery.survivors options state workspaceId lane now).entries.filter
      (Lease.unexpired (slotLeaseTtlMs (options lane)) now) =
      (Delivery.survivors options state workspaceId lane now).entries := by
    apply List.filter_eq_self.mpr
    intro lease present
    have kept := (SortedSet.mem_removeUpTo.mp present).2
    rw [Lease.unexpired, decide_eq_true_eq]
    omega
  rw [← whole]
  exact perm

theorem mem_read {key : SlotKey} {lease : Lease} : lease ∈ (key.read now).holders.entries ↔
    lease ∈ key.holders.entries ∧ ∀ expiresAt, key.expiresAt = some expiresAt → now ≤ expiresAt := by
  unfold SlotKey.read
  cases expiry : key.expiresAt with
  | none => simp
  | some expiresAt =>
    rw [Option.any_some]
    by_cases gone : expiresAt < now
    · rw [decide_eq_true gone, if_pos rfl]
      constructor
      · intro present
        cases present
      · intro both
        have lasts := both.2 expiresAt rfl
        omega
    · rw [decide_eq_false gone, if_neg Bool.false_ne_true]
      refine ⟨fun present => ⟨present, ?_⟩, fun both => both.1⟩
      rintro _ ⟨⟩
      omega

theorem holders_step (taken : laneStep environment options state call = some next)
    (quiet : call.asks other otherLane = false) {lease : Lease}
    (present : lease ∈ (next.redis (buildKey other otherLane)).holders.entries) :
    lease ∈ (state.redis (buildKey other otherLane)).holders.entries := by
  cases laneEffect taken with
  | @grants workspaceId lane token now later fresh free | @denies workspaceId lane token now later full =>
    rw [LaneCall.asks, decide_eq_false_iff_not] at quiet
    simp only [update_elsewhere quiet] at present
    exact present
  | @releases workspaceId lane given token now later named =>
    by_cases here : workspaceId = other ∧ lane = otherLane
    · obtain ⟨rfl, rfl⟩ := here
      simp only [Function.update_self, holders_withHolders] at present
      exact (mem_read.mp (SortedSet.mem_remove.mp present).1).1
    · simp only [update_elsewhere here] at present
      exact present
  | passes later unnamed => exact present

theorem holders_run {calls : List LaneCall} {final : LaneState}
    (ran : run (laneStep environment options) state calls = some final)
    (quiet : ∀ call ∈ calls, call.asks workspaceId lane = false) {lease : Lease}
    (present : lease ∈ (final.redis (buildKey workspaceId lane)).holders.entries) :
    lease ∈ (state.redis (buildKey workspaceId lane)).holders.entries := by
  induction calls generalizing state with
  | nil =>
    cases ran
    exact present
  | cons call rest ih =>
    obtain ⟨next, taken, remaining⟩ := run_cons.mp ran
    have after := ih remaining fun call member => quiet call (List.mem_cons_of_mem _ member)
    exact holders_step taken (quiet call List.mem_cons_self) after

theorem holders_denied {result : AcquireSlotResult}
    (taken : laneStep environment options state (.acquire workspaceId lane token now) = some next)
    (answered : answer environment options state workspaceId lane token now = some result)
    (denied : result.acquired = false) :
    (next.redis (buildKey workspaceId lane)).holders.entries =
      (survivors options state workspaceId lane now).entries := by
  obtain ⟨full, _⟩ := answer_denied answered denied
  cases laneEffect taken with
  | grants later fresh free => exact absurd free (Nat.not_lt.mpr full)
  | denies later full => simp only [Function.update_self, holders_withHolders]

theorem granted_after_wait {result : AcquireSlotResult} {retryAfterMs again : Int} {between : List LaneCall}
    {later : LaneState} {token' : String} (sound : LaneSound environment options state)
    (taken : laneStep environment options state (.acquire workspaceId lane token now) = some next)
    (answered : answer environment options state workspaceId lane token now = some result)
    (denied : result.acquired = false) (hint : result.retryAfterMs = some retryAfterMs)
    (quiet : ∀ call ∈ between, call.asks workspaceId lane = false)
    (ran : run (laneStep environment options) next between = some later) (waited : now + retryAfterMs ≤ again) :
    answer environment options later workspaceId lane token' again =
      some { acquired := true, token := some token' } := by
  obtain ⟨full, oldest, first, wait⟩ := answer_denied answered denied
  obtain rfl : _ = retryAfterMs := Option.some.inj (wait.symm.trans hint)
  have clock : state.clock ≤ now := by
    cases laneEffect taken with
    | grants later _ _ | denies later _ => exact later
  have bounded := (sound.survivors workspaceId lane clock).bounded
  apply answer_granted
  have fewer : ∀ lease ∈ (survivors options later workspaceId lane again).entries,
      lease ∈ (survivors options state workspaceId lane now).entries ∧
        again - slotLeaseTtlMs (options lane) < lease.2 := by
    intro lease present
    obtain ⟨stored, unexpired⟩ := SortedSet.mem_removeUpTo.mp present
    rw [← holders_denied taken answered denied]
    exact ⟨holders_run ran quiet (mem_read.mp stored).1, unexpired⟩
  have left : oldest ∉ (survivors options later workspaceId lane again).entries := by
    intro present
    have unexpired := (fewer oldest present).2
    omega
  have within : (oldest :: (survivors options later workspaceId lane again).entries).Subperm
      (survivors options state workspaceId lane now).entries := by
    apply List.subperm_of_subset (List.nodup_cons.mpr ⟨left, SortedSet.nodup_entries⟩)
    intro lease present
    rcases List.mem_cons.mp present with rfl | stays
    · exact SortedSet.mem_of_first? first
    · exact (fewer lease stays).1
  have counted : (survivors options later workspaceId lane again).card + 1 ≤
      (survivors options state workspaceId lane now).card := within.length_le
  simp only at bounded
  omega

theorem occupies_iff {lease : Lease} : Occupies options state workspaceId lane now lease ↔
    (lease ∈ (state.redis (buildKey workspaceId lane)).holders.entries ∧
      ∀ expiresAt, (state.redis (buildKey workspaceId lane)).expiresAt = some expiresAt → now ≤ expiresAt) ∧
    now - slotLeaseTtlMs (options lane) < lease.2 := by
  rw [Occupies, survivors, SortedSet.mem_removeUpTo, mem_read]

theorem expiresAt_withHolders {key : SlotKey} {holders : SortedSet String Int} {lease : Lease}
    (present : lease ∈ holders.entries) : (key.withHolders holders).expiresAt = key.expiresAt := by
  rw [SlotKey.withHolders, if_neg]
  intro gone
  rw [List.isEmpty_iff.mp gone] at present
  cases present

theorem occupies_of_release {given : Option String} {lease : Lease} {later : Int}
    (taken : laneStep environment options state (.release workspaceId lane given now) = some next) (after : now ≤ later)
    (occupies : Occupies options state other otherLane later lease)
    (foreign : given ≠ some lease.1 ∨ ¬ (workspaceId = other ∧ lane = otherLane)) :
    Occupies options next other otherLane later lease := by
  obtain ⟨⟨stored, lasts⟩, unexpired⟩ := occupies_iff.mp occupies
  cases laneEffect taken with
  | @releases _ _ _ token _ clock named =>
    by_cases here : workspaceId = other ∧ lane = otherLane
    · obtain ⟨rfl, rfl⟩ := here
      obtain ⟨given', _⟩ := Option.filter_eq_some_iff.mp named
      have differs : lease.1 ≠ token := by
        rintro rfl
        rcases foreign with foreign | foreign
        · exact foreign given'
        · exact foreign ⟨rfl, rfl⟩
      have reading : (state.redis (buildKey workspaceId lane)).read now = state.redis (buildKey workspaceId lane) := by
        rw [SlotKey.read, if_neg]
        intro gone
        obtain ⟨expiresAt, expiry, before⟩ := Option.any_eq_true _ _ |>.mp gone
        rw [decide_eq_true_eq] at before
        have stays := lasts expiresAt expiry
        omega
      have present : lease ∈ ((state.redis (buildKey workspaceId lane)).holders.remove token).entries :=
        SortedSet.mem_remove.mpr ⟨stored, differs⟩
      apply occupies_iff.mpr
      simp only [Function.update_self, reading, holders_withHolders, expiresAt_withHolders present]
      exact ⟨⟨present, lasts⟩, unexpired⟩
    · apply occupies_iff.mpr
      simp only [update_elsewhere here]
      exact ⟨⟨stored, lasts⟩, unexpired⟩
  | passes clock unnamed => exact occupies

end Runs

/-- In every run from an empty store: never more unexpired leases than the cap, denials only with all slots
taken, success after the wait they name, no foreign release. -/
theorem semaphore_holds (environment : LaneEnvironment) (options : TenantLane → AcquireSlotOptions) (clock : Int)
    (calls : List LaneCall) (state : LaneState)
    (ran : run (laneStep environment options) { clock } calls = some state) (workspaceId : String)
    (lane : TenantLane) :
    (∀ now, state.clock ≤ now →
      ((leases workspaceId lane state.past).filter (Lease.unexpired (slotLeaseTtlMs (options lane)) now)).length ≤
        slotCap environment lane (options lane)) ∧
    (∀ token now result, state.clock ≤ now →
      answer environment options state workspaceId lane token now = some result → result.acquired = false →
        ((leases workspaceId lane state.past).filter (Lease.unexpired (slotLeaseTtlMs (options lane)) now)).length =
          slotCap environment lane (options lane)) ∧
    (∀ token now result next retryAfterMs between later token' again,
      laneStep environment options state (.acquire workspaceId lane token now) = some next →
      answer environment options state workspaceId lane token now = some result → result.acquired = false →
      result.retryAfterMs = some retryAfterMs → (∀ call ∈ between, call.asks workspaceId lane = false) →
      run (laneStep environment options) next between = some later → now + retryAfterMs ≤ again →
        answer environment options later workspaceId lane token' again =
          some { acquired := true, token := some token' }) ∧
    ∀ token now next other otherLane lease later,
      laneStep environment options state (.release workspaceId lane token now) = some next → now ≤ later →
      Occupies options state other otherLane later lease →
      token ≠ some lease.1 ∨ ¬ (workspaceId = other ∧ lane = otherLane) →
        Occupies options next other otherLane later lease := by
  have sound : LaneSound environment options state := LaneSound.start.run ran
  refine ⟨fun now later => (sound workspaceId lane).count now later, ?_, ?_, ?_⟩
  · intro token now result later answered denied
    obtain ⟨full, _⟩ := answer_denied answered denied
    rw [(sound.perm_survivors workspaceId lane later).length_eq]
    exact Nat.le_antisymm (sound.survivors workspaceId lane later).bounded full
  · intro token now result next retryAfterMs between later token' again taken answered denied hint quiet onward waited
    exact granted_after_wait sound taken answered denied hint quiet onward waited
  · intro token now next other otherLane lease later taken after occupies foreign
    exact occupies_of_release taken after occupies foreign

section Traces

def plainEnvironment : LaneEnvironment where
  processEnv _ := none
  number _ := none

abbrev oneSlot : LaneState → LaneCall → Option LaneState := laneStep plainEnvironment fun _ => { cap := some 1 }

theorem second_caller_waits : ∃ state next,
    run oneSlot { clock := 0 } [.acquire "acme" .broadcast "first" 0] = some state ∧
    ((leases "acme" .broadcast state.past).filter (Lease.unexpired sendSlotLeaseTtlMs 5)).length = 1 ∧
    oneSlot state (.acquire "acme" .broadcast "second" 5) = some next ∧
    answer plainEnvironment (fun _ => { cap := some 1 }) next "acme" .broadcast "third" 40000 =
      some { acquired := true, token := some "third" } := by
  have runs : (run oneSlot { clock := 0 } [.acquire "acme" .broadcast "first" 0]).any (fun state =>
      decide (state.clock ≤ 5) &&
        (answer plainEnvironment (fun _ => { cap := some 1 }) state "acme" .broadcast "second" 5 ==
          some { acquired := false, retryAfterMs := some 39995 }) &&
        (oneSlot state (.acquire "acme" .broadcast "second" 5)).isSome) = true := by
    decide +kernel
  obtain ⟨state, ran, observed⟩ := Option.any_eq_true _ _ |>.mp runs
  rw [Bool.and_eq_true, Bool.and_eq_true, decide_eq_true_eq, beq_iff_eq] at observed
  obtain ⟨⟨clock, denied⟩, moves⟩ := observed
  obtain ⟨next, taken⟩ := Option.isSome_iff_exists.mp moves
  obtain ⟨_, full, waits, _⟩ :=
    semaphore_holds plainEnvironment (fun _ => { cap := some 1 }) 0 _ state ran "acme" .broadcast
  refine ⟨state, next, ran, full "second" 5 _ clock denied rfl, taken, ?_⟩
  apply waits "second" 5 _ next 39995 [] next "third" 40000 taken denied rfl rfl
  · intro call member
    cases member
  · rfl
  · decide

end Traces

end LocalCrm.Delivery
