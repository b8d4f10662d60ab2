import LocalCrm.Library.Interleaving
import LocalCrm.Library.Session
import LocalCrm.Schema

/-! Connections that transaction scopes share, and the workspace each statement runs for. -/

set_option autoImplicit false

namespace LocalCrm.Tenancy

open Library

structure CorrelationStore where
  workspaceId : Option WorkspaceId := none
  requestId : Option String := none
  jobId : Option String := none
  sendId : Option String := none
  deriving DecidableEq

/-- A field that is not given leaves the one that is bound. -/
def CorrelationStore.merge (current fields : CorrelationStore) : CorrelationStore where
  workspaceId := fields.workspaceId.or current.workspaceId
  requestId := fields.requestId.or current.requestId
  jobId := fields.jobId.or current.jobId
  sendId := fields.sendId.or current.sendId

/-- A call of `withTenant` or of `withCorrelation`. -/
inductive CorrelationScope where
  | tenant (workspaceId : WorkspaceId)
  | correlation (fields : CorrelationStore)

/-- The store inside nested calls, the innermost first. -/
def getStore : List CorrelationScope → Option CorrelationStore
  | [] => none
  | .tenant workspaceId :: outer => some { (getStore outer).getD {} with workspaceId := some workspaceId }
  | .correlation fields :: outer => some (((getStore outer).getD {}).merge fields)

def CorrelationScope.workspaceId : CorrelationScope → Option WorkspaceId
  | tenant workspaceId => some workspaceId
  | correlation fields => fields.workspaceId

/-- However calls are nested, the workspace is that of the innermost one that names any. -/
theorem workspaceId_getStore (scopes : List CorrelationScope) :
    (getStore scopes).bind CorrelationStore.workspaceId = scopes.findSome? CorrelationScope.workspaceId := by
  induction scopes with
  | nil => rfl
  | cons scope outer ih =>
    cases scope with
    | tenant workspaceId => rfl
    | correlation fields =>
      rw [List.findSome?_cons, ← ih]
      cases named : fields.workspaceId <;> cases store : getStore outer <;>
        simp [getStore, CorrelationStore.merge, CorrelationScope.workspaceId, named, store]

def applicationNameByteBudget : Nat := 63

def fittingChars (budget : Nat) : List Char → List Char
  | [] => []
  | char :: rest => if char.utf8Size ≤ budget then char :: fittingChars (budget - char.utf8Size) rest else []

def composeApplicationName (ctx : CorrelationStore) : String :=
  let raw := "req=" ++ ctx.requestId.getD "-" ++ " job=" ++ ctx.jobId.getD "-"
  if raw.utf8ByteSize ≤ applicationNameByteBudget then raw
  else String.ofList (fittingChars applicationNameByteBudget raw.toList)

inductive Setting where
  | currentWorkspaceId
  | applicationName
  | apiKeyLookupId
  | webhookPathToken
  deriving DecidableEq

inductive SettingValue where
  | workspace (id : WorkspaceId)
  | text (value : String)
  deriving DecidableEq

inductive IsolationLevel where
  | readCommitted
  | repeatableRead
  deriving DecidableEq

abbrev TenantSession := Session Setting SettingValue IsolationLevel

section Policies

/-- The roles as which the two pools log in. -/
inductive DatabaseRole where
  | megaCrmApp
  | megaCrmScan
  deriving DecidableEq

/-- The tables with a policy beside `workspace_isolation`; it is a lookup policy for the first two. -/
inductive ProtectedTable where
  | workspaceApiKeys
  | workspaceWebhookEndpoints
  | campaigns
  | flows
  | flowRuns
  | contacts
  | sends
  | ingressJournal
  | other
  deriving DecidableEq

/-- What the policies read of a row; its key is the id of an API key or the path token of an endpoint, and
`due` whether it meets the condition of its table's scan policy, where there is one. -/
structure TenantRow where
  workspaceId : WorkspaceId
  key : String
  due : Bool := false
  deriving DecidableEq

inductive PolicyError where
  | unrecognizedParameter
  | invalidUuid
  | permissionDenied
  deriving DecidableEq

def ProtectedTable.lookupSetting : ProtectedTable → Option Setting
  | workspaceApiKeys => some .apiKeyLookupId
  | workspaceWebhookEndpoints => some .webhookPathToken
  | _ => none

/-- The rows a scan is shown of a table; `none` where its role has no grant. -/
def ProtectedTable.scanned : ProtectedTable → Option (TenantRow → Bool)
  | workspaceWebhookEndpoints | contacts | sends => some fun _ => true
  | campaigns | flows | flowRuns | ingressJournal => some (·.due)
  | workspaceApiKeys | other => none

variable (session : TenantSession)

/-- `current_setting('app.current_workspace_id')::uuid` -/
def namedWorkspace : Except PolicyError WorkspaceId :=
  match session.current (.text "") .currentWorkspaceId with
  | none => .error .unrecognizedParameter
  | some (.text _) => .error .invalidUuid
  | some (.workspace id) => .ok id

def runtimeLookup (table : ProtectedTable) (row : TenantRow) : Bool :=
  table.lookupSetting.any fun setting => session.current (.text "") setting == some (.text row.key)

/-- A policy is evaluated for each row that is scanned, so an empty table raises nothing. -/
def admitted (rows : List TenantRow) (granted : WorkspaceId → TenantRow → Bool) :
    Except PolicyError (List TenantRow) :=
  if rows.isEmpty then .ok [] else (namedWorkspace session).map fun named => rows.filter (granted named)

def selectable (role : DatabaseRole) (table : ProtectedTable) (rows : List TenantRow) :
    Except PolicyError (List TenantRow) :=
  match role with
  | .megaCrmApp => admitted session rows fun named row => row.workspaceId == named || runtimeLookup session table row
  | .megaCrmScan =>
    match table.scanned with
    | some shown => .ok (rows.filter shown)
    | none => .error .permissionDenied

/-- The rows an insert, an update or a delete may touch; a scan has no grant for any. -/
def writable (role : DatabaseRole) (rows : List TenantRow) : Except PolicyError (List TenantRow) :=
  match role with
  | .megaCrmApp => admitted session rows fun named row => row.workspaceId == named
  | .megaCrmScan => .error .permissionDenied

end Policies

inductive ScopeKind where
  | tenantTransaction
  | tenantTransactionRepeatableRead
  | preTenantLookup
  | crossWorkspaceScan
  deriving DecidableEq

def preTenantLookupSentinelWorkspaceId : WorkspaceId := 0

namespace ScopeKind

def level : ScopeKind → IsolationLevel
  | tenantTransactionRepeatableRead => .repeatableRead
  | tenantTransaction | preTenantLookup | crossWorkspaceScan => .readCommitted

/-- The settings the scope assigns after its `BEGIN`; `none` where the call throws at once. -/
def settings (store : Option CorrelationStore) : ScopeKind → Option (List (Setting × SettingValue))
  | tenantTransaction | tenantTransactionRepeatableRead => store.bind fun ctx => ctx.workspaceId.map fun id =>
    [(.currentWorkspaceId, .workspace id), (.applicationName, .text (composeApplicationName ctx))]
  | preTenantLookup => some [(.currentWorkspaceId, .workspace preTenantLookupSentinelWorkspaceId)]
  | crossWorkspaceScan => some []

end ScopeKind

inductive PoolName where
  | tenantContext
  | tenantContextScan
  deriving DecidableEq

def ScopeKind.pool : ScopeKind → PoolName
  | crossWorkspaceScan => .tenantContextScan
  | tenantTransaction | tenantTransactionRepeatableRead | preTenantLookup => .tenantContext

def PoolName.role : PoolName → DatabaseRole
  | tenantContext => .megaCrmApp
  | tenantContextScan => .megaCrmScan

abbrev ClientId := PoolName × Nat

inductive ClientStanding where
  | unopened
  | idle
  | checkedOut (call : Nat)
  | destroyed
  deriving DecidableEq

structure PoolClient where
  standing : ClientStanding := .unopened
  alive : Bool := true
  session : TenantSession := .start

abbrev Pool := ClientId → PoolClient

inductive ScopePhase where
  | connected
  | begun
  | running
  | resolved
  | failed
  | settled (destroy : Bool)
  deriving DecidableEq

/-- A call that has not thrown at once: its settings are known, and its connection is one of its pool's. -/
structure Scope where
  kind : ScopeKind
  within : List CorrelationScope
  client : ClientId
  drawn : client.1 = kind.pool
  settings : List (Setting × SettingValue)
  called : kind.settings (getStore within) = some settings
  phase : ScopePhase

inductive ScopeStatement where
  | data
  | lookup (setting : Setting) (key : String)
  | savepoint
  | rollbackTo (depth : Nat)

inductive ScopeChoice where
  | call (kind : ScopeKind) (within : List CorrelationScope) (client : ClientId)
  | advance (succeeds : Bool)
  | query (statement : ScopeStatement) (succeeds : Bool)

/-- A dead connection fails every statement. -/
def PoolClient.attempt (client : PoolClient) (succeeds : Bool) (done failed : TenantSession → TenantSession) :
    Option PoolClient :=
  if client.alive then some { client with session := if succeeds then done client.session else failed client.session }
  else if succeeds then none else some client

def assignAll (settings : List (Setting × SettingValue)) (session : TenantSession) : TenantSession :=
  settings.foldl (fun session setting => session.assign setting.1 setting.2) session

def Scope.attempt (scope : Scope) (client : PoolClient) (succeeds : Bool) : Option (PoolClient × ScopePhase) :=
  match scope.phase with
  | .connected => (client.attempt succeeds (Session.begin · scope.kind.level) id).map
    (·, if succeeds then .begun else .failed)
  | .begun => (client.attempt succeeds (assignAll scope.settings) Session.abort).map
    (·, if succeeds then .running else .failed)
  | .running => some (client, if succeeds then .resolved else .failed)
  | .resolved => (client.attempt succeeds Session.finish Session.finish).map
    (·, if succeeds then .settled false else .failed)
  | .failed => (client.attempt succeeds Session.finish id).map (·, .settled !succeeds)
  | .settled _ => none

def connect (pool : Pool) (call : Nat) (client : ClientId) : Option Pool :=
  match (pool client).standing with
  | .idle => some (Function.update pool client { pool client with standing := .checkedOut call })
  | .unopened => some (Function.update pool client { standing := .checkedOut call })
  | .checkedOut _ | .destroyed => none

def release (pool : Pool) (client : ClientId) (destroy : Bool) : Pool :=
  Function.update pool client { pool client with standing := if destroy then .destroyed else .idle }

def ScopeStatement.run (statement : ScopeStatement) (session : TenantSession) : TenantSession :=
  match statement with
  | .data => session
  | .lookup setting key => session.assign setting (.text key)
  | .savepoint => session.savepoint
  | .rollbackTo depth => session.rollbackTo depth

/-- In an aborted transaction only the way back to a savepoint is accepted, and only the two
pre-tenant lookups set the key of a lookup policy. -/
def ScopeStatement.accepted (statement : ScopeStatement) (kind : ScopeKind) (session : TenantSession) : Bool :=
  match statement with
  | .data | .savepoint => !session.isAborted
  | .lookup setting _ => !session.isAborted && kind == .preTenantLookup &&
    (setting == .apiKeyLookupId || setting == .webhookPathToken)
  | .rollbackTo _ => true

/-- One call after another; a call that a running one makes is another thread's. -/
def act (call : Nat) (pool : Pool) (scope : Option Scope) (choice : ScopeChoice) : Option (Pool × Option Scope) :=
  match scope, choice with
  | none, .call kind within client =>
    if drawn : client.1 = kind.pool then
      match called : kind.settings (getStore within) with
      | some settings => (connect pool call client).map
        (·, some { kind, within, client, drawn, settings, called, phase := .connected })
      | none => none
    else none
  | some scope, .advance succeeds =>
    match scope.phase with
    | .settled destroy => some (release pool scope.client destroy, none)
    | _ => (scope.attempt (pool scope.client) succeeds).map fun (client, phase) =>
      (Function.update pool scope.client client, some { scope with phase })
  | some scope, .query statement succeeds =>
    if scope.phase = .running ∧ (succeeds → statement.accepted scope.kind (pool scope.client).session) then
      ((pool scope.client).attempt succeeds statement.run Session.abort).map fun client =>
        (Function.update pool scope.client client, some scope)
    else none
  | _, _ => none

inductive PoolEvent where
  | terminate (client : ClientId)
  | discard (client : ClientId)

/-- The server drops a connection at any time, the pool an idle one. -/
def environment (pool : Pool) : PoolEvent → Option Pool
  | .terminate client => some (Function.update pool client
    { pool client with alive := false, session := (pool client).session.finish })
  | .discard client =>
    if (pool client).standing = .idle then
      some (Function.update pool client { pool client with standing := .destroyed })
    else none

abbrev Scopes := Threads Pool (Option Scope)

def scopeStep : Scopes → Turn ScopeChoice PoolEvent → Option Scopes := interleave act environment

/-- Nothing has run yet: every connection is still to be opened. -/
def noScopes : Scopes := { shared := fun _ => {}, own := fun _ => none }

section Invariant

/-- The transaction names what the scope has assigned, and sets a lookup key only for a lookup. -/
def Wanted (scope : Scope) (assigned : Setting → Option SettingValue) : Prop :=
  assigned .currentWorkspaceId = scope.settings.lookup .currentWorkspaceId ∧
    (scope.kind ≠ .preTenantLookup → assigned .apiKeyLookupId = none ∧ assigned .webhookPathToken = none)

def Fits (scope : Scope) (session : TenantSession) : Prop :=
  match scope.phase with
  | .connected => session.transaction = none
  | .begun => ∃ transaction, session.transaction = some transaction ∧ transaction.assigned = (fun _ => none) ∧
    transaction.savepoints = []
  | .running | .resolved => session.Assigns (Wanted scope)
  | .failed => True
  | .settled destroy => destroy = false → session.transaction = none

def Held (call : Nat) (pool : Pool) (scope : Option Scope) : Prop :=
  ∀ held, scope = some held → (pool held.client).standing = .checkedOut call ∧
    ((pool held.client).alive = true → Fits held (pool held.client).session)

/-- A connection that waits in the pool, or is dead, is in no transaction. -/
def PoolOk (pool : Pool) : Prop :=
  ∀ client, (pool client).standing = .idle ∨ (pool client).alive = false → (pool client).session.transaction = none

/-- What a call has checked out stays its own, as it is or dead. -/
def Leaves (call : Nat) (pool next : Pool) : Prop :=
  ∀ client, (pool client).standing = .checkedOut call → (next client).standing = .checkedOut call ∧
    ((next client).alive = true → (pool client).alive = true ∧ (next client).session = (pool client).session)

variable {call : Nat} {pool next : Pool} {scope : Scope} {client after : PoolClient}
  {succeeds : Bool} {done failing : TenantSession → TenantSession}

/-- A statement moves a connection no further than its own session, and a dead one not at all. -/
structure Attempted (client after : PoolClient) : Prop where
  standing : after.standing = client.standing
  lives : after.alive = client.alive
  dead : client.alive = false → after = client

theorem attempt_some (attempted : client.attempt succeeds done failing = some after) :
    Attempted client after ∧
      (after.alive = true → after.session = if succeeds then done client.session else failing client.session) := by
  unfold PoolClient.attempt at attempted
  split at attempted
  · next alive =>
    cases attempted
    exact ⟨⟨rfl, rfl, fun dead => absurd (alive.symm.trans dead) Bool.noConfusion⟩, fun _ => rfl⟩
  · next dead =>
    split at attempted
    · cases attempted
    · cases attempted
      exact ⟨⟨rfl, rfl, fun _ => rfl⟩, fun alive => absurd alive dead⟩

/-- A change of one connection concerns nobody but its holder. -/
theorem leaves_update {id : ClientId} {other : Nat} (foreign : (pool id).standing ≠ .checkedOut other) :
    Leaves other pool (Function.update pool id after) := by
  intro client out
  have differs : client ≠ id := by
    rintro rfl
    exact foreign out
  simp only [Function.update_of_ne differs]
  exact ⟨out, fun alive => ⟨alive, trivial⟩⟩

theorem PoolOk.update (ok : PoolOk pool) {id : ClientId}
    (fine : after.standing = .idle ∨ after.alive = false → after.session.transaction = none) :
    PoolOk (Function.update pool id after) := by
  intro client resting
  by_cases same : client = id
  · subst same
    simp only [Function.update_self] at resting ⊢
    exact fine resting
  · simp only [Function.update_of_ne same] at resting ⊢
    exact ok client resting

theorem PoolOk.attempted (ok : PoolOk pool) {id : ClientId} (out : (pool id).standing = .checkedOut call)
    (attempted : Attempted (pool id) after) : PoolOk (Function.update pool id after) := by
  apply ok.update
  intro resting
  rcases resting with idle | gone
  · rw [attempted.standing, out] at idle
    cases idle
  · have dead := attempted.lives.symm.trans gone
    rw [attempted.dead dead]
    exact ok id (.inr dead)

theorem assignAll_transaction (settings : List (Setting × SettingValue)) {session : TenantSession}
    {transaction : Transaction Setting SettingValue IsolationLevel} (opened : session.transaction = some transaction) :
    (assignAll settings session).transaction = some { transaction with
      assigned := settings.foldl (fun assigned setting => Function.update assigned setting.1 (some setting.2))
        transaction.assigned } := by
  induction settings generalizing session transaction with
  | nil => exact opened
  | cons setting rest ih =>
    have assigned : (session.assign setting.1 setting.2).transaction = some { transaction with
        assigned := Function.update transaction.assigned setting.1 (some setting.2) } :=
      congrArg (Option.map _) opened
    exact ih assigned

/-- The settings of a call are assigned to a transaction that has none yet. -/
theorem wanted_assignAll {session : TenantSession}
    (begun : ∃ transaction, session.transaction = some transaction ∧ transaction.assigned = (fun _ => none) ∧
      transaction.savepoints = []) : (assignAll scope.settings session).Assigns (Wanted scope) := by
  obtain ⟨transaction, opened, blank, unsaved⟩ := begun
  have called := scope.called
  refine ⟨_, assignAll_transaction scope.settings opened, ?_, ?_⟩
  · rw [blank]
    cases kind : scope.kind with
    | tenantTransaction | tenantTransactionRepeatableRead =>
      rw [kind] at called
      obtain ⟨ctx, _, named⟩ := Option.bind_eq_some_iff.mp called
      obtain ⟨id, _, settings⟩ := Option.map_eq_some_iff.mp named
      rw [Wanted, ← settings]
      exact ⟨rfl, fun _ => ⟨rfl, rfl⟩⟩
    | preTenantLookup =>
      rw [kind] at called
      rw [Wanted, ← Option.some.inj called]
      exact ⟨rfl, fun other => absurd kind other⟩
    | crossWorkspaceScan =>
      rw [kind] at called
      rw [Wanted, ← Option.some.inj called]
      exact ⟨rfl, fun _ => ⟨rfl, rfl⟩⟩
  · intro saved member
    rw [unsaved] at member
    cases member

theorem attempt_fits {reached phase : ScopePhase}
    (ran : (client.attempt succeeds done failing).map (·, reached) = some (after, phase))
    (fits : client.alive = true →
      Fits { scope with phase := reached } (if succeeds then done client.session else failing client.session)) :
    Attempted client after ∧ (after.alive = true → Fits { scope with phase } after.session) := by
  obtain ⟨_, attempted, same⟩ := Option.map_eq_some_iff.mp ran
  cases same
  obtain ⟨moved, session⟩ := attempt_some attempted
  refine ⟨moved, fun alive => ?_⟩
  rw [session alive]
  exact fits (moved.lives.symm.trans alive)

/-- Each statement of a scope leaves its connection fit for the next. -/
theorem scopeAttempt_some {phase : ScopePhase} (fits : client.alive = true → Fits scope client.session)
    (attempted : scope.attempt client succeeds = some (after, phase)) :
    Attempted client after ∧ (after.alive = true → Fits { scope with phase } after.session) := by
  unfold Scope.attempt at attempted
  cases here : scope.phase with
  | connected =>
    rw [here] at attempted
    -- a `begin` that fails promises nothing: the scope goes on to its rollback
    refine attempt_fits attempted fun alive => ?_
    have closed := fits alive
    simp only [Fits, here] at closed
    cases succeeds with
    | false => trivial
    | true => exact ⟨_, congrArg (Option.or · _) closed, rfl, rfl⟩
  | begun =>
    rw [here] at attempted
    refine attempt_fits attempted fun alive => ?_
    have begun := fits alive
    simp only [Fits, here] at begun
    cases succeeds with
    | false => trivial
    | true => exact wanted_assignAll begun
  | running =>
    rw [here] at attempted
    cases attempted
    refine ⟨⟨rfl, rfl, fun _ => rfl⟩, fun alive => ?_⟩
    have running := fits alive
    simp only [Fits, here] at running
    cases succeeds with
    | false => trivial
    | true => exact running
  | resolved =>
    rw [here] at attempted
    refine attempt_fits attempted fun _ => ?_
    cases succeeds with
    | false => trivial
    | true => exact fun _ => rfl
  | failed =>
    rw [here] at attempted
    refine attempt_fits attempted fun _ => ?_
    cases succeeds with
    -- a rollback that fails destroys the connection, so its session does not matter
    | false => exact fun kept => Bool.noConfusion kept
    | true => exact fun _ => rfl
  | settled destroy =>
    rw [here] at attempted
    cases attempted

/-- Nothing that runs inside a scope takes the settings of the scope away. -/
theorem assigns_statement {statement : ScopeStatement} {session : TenantSession}
    (assigns : session.Assigns (Wanted scope)) (accepted : statement.accepted scope.kind session = true) :
    (statement.run session).Assigns (Wanted scope) := by
  cases statement with
  | data => exact assigns
  | savepoint => exact assigns.savepoint
  | rollbackTo depth => exact assigns.rollbackTo depth
  | lookup setting key =>
    apply assigns.assign
    intro assigned wanted
    simp only [ScopeStatement.accepted, Bool.and_eq_true, Bool.or_eq_true, beq_iff_eq] at accepted
    obtain ⟨⟨_, lookup⟩, keyed⟩ := accepted
    refine ⟨?_, fun other => absurd lookup other⟩
    -- a lookup sets the key of its own table, never the workspace
    have apart : Setting.currentWorkspaceId ≠ setting := by
      rintro rfl
      rcases keyed with same | same
      · cases same
      · cases same
    rw [Function.update_of_ne apart]
    exact wanted.1

theorem held_update (standing : after.standing = .checkedOut call)
    (fits : after.alive = true → Fits scope after.session) :
    Held call (Function.update pool scope.client after) (some scope) := by
  intro held same
  cases same
  rw [Function.update_self]
  exact ⟨standing, fits⟩

theorem connect_some (ok : PoolOk pool) {id : ClientId} (connected : connect pool call id = some next) :
    (∀ other, (pool id).standing ≠ .checkedOut other) ∧ ∃ after : PoolClient, next = Function.update pool id after ∧
      after.standing = .checkedOut call ∧ after.session.transaction = none := by
  unfold connect at connected
  split at connected
  · next idle =>
    cases connected
    exact ⟨fun other out => absurd (idle.symm.trans out) ClientStanding.noConfusion, _, rfl, rfl, ok id (.inl idle)⟩
  · next unopened =>
    cases connected
    exact ⟨fun other out => absurd (unopened.symm.trans out) ClientStanding.noConfusion, _, rfl, rfl, rfl⟩
  · cases connected
  · cases connected

/-- A connection goes back to the pool outside any transaction, or not at all. -/
theorem PoolOk.release (ok : PoolOk pool) (held : Held call pool (some scope)) {destroy : Bool}
    (settled : scope.phase = .settled destroy) : PoolOk (release pool scope.client destroy) := by
  apply ok.update
  intro resting
  cases lives : (pool scope.client).alive with
  | false => exact ok scope.client (.inr lives)
  | true =>
    have fits := (held scope rfl).2 lives
    simp only [Fits, settled] at fits
    cases destroy with
    | false => exact fits rfl
    | true =>
      rcases resting with idle | gone
      · cases idle
      · exact absurd (lives.symm.trans gone) Bool.noConfusion

theorem sound_act {own after : Option Scope} {choice : ScopeChoice} (ok : PoolOk pool) (held : Held call pool own)
    (acted : act call pool own choice = some (next, after)) :
    PoolOk next ∧ Held call next after ∧ ∀ other, other ≠ call → Leaves other pool next := by
  -- a scope touches only the connection that is checked out to it
  have foreign : ∀ scope, own = some scope → ∀ other, other ≠ call →
      (pool scope.client).standing ≠ .checkedOut other := by
    intro scope mine other differs out
    exact differs (ClientStanding.checkedOut.inj (out.symm.trans (held scope mine).1))
  unfold act at acted
  split at acted
  · split at acted
    · split at acted
      · obtain ⟨connected, joined, acted⟩ := Option.map_eq_some_iff.mp acted
        cases acted
        obtain ⟨free, client, rfl, out, closed⟩ := connect_some ok joined
        exact ⟨ok.update fun _ => closed, held_update out fun _ => closed, fun other _ => leaves_update (free other)⟩
      · cases acted
    · cases acted
  · next scope succeeds =>
    split at acted
    · next destroy settled =>
      cases acted
      exact ⟨ok.release held settled, fun _ none => (Option.some_ne_none _ none.symm).elim,
        fun other differs => leaves_update (foreign scope rfl other differs)⟩
    · obtain ⟨⟨client, phase⟩, attempted, acted⟩ := Option.map_eq_some_iff.mp acted
      cases acted
      obtain ⟨out, fits⟩ := held scope rfl
      obtain ⟨moved, fits⟩ := scopeAttempt_some fits attempted
      exact ⟨ok.attempted out moved, held_update (moved.standing.trans out) fits,
        fun other differs => leaves_update (foreign scope rfl other differs)⟩
  · next scope statement succeeds =>
    split at acted
    · next allowed =>
      obtain ⟨running, accepted⟩ := allowed
      obtain ⟨client, attempted, acted⟩ := Option.map_eq_some_iff.mp acted
      cases acted
      obtain ⟨out, fits⟩ := held scope rfl
      obtain ⟨moved, session⟩ := attempt_some attempted
      refine ⟨ok.attempted out moved, held_update (moved.standing.trans out) ?_,
        fun other differs => leaves_update (foreign scope rfl other differs)⟩
      intro alive
      have assigns := fits (moved.lives.symm.trans alive)
      simp only [Fits, running] at assigns ⊢
      rw [session alive]
      cases succeeds with
      | false => exact assigns.abort
      | true => exact assigns_statement assigns (accepted rfl)
    · cases acted
  · cases acted

theorem sound_environment {event : PoolEvent} (ok : PoolOk pool) (happened : environment pool event = some next) :
    PoolOk next ∧ ∀ other, Leaves other pool next := by
  cases event with
  | terminate id =>
    cases happened
    refine ⟨ok.update fun _ => rfl, ?_⟩
    intro other client out
    -- a lost connection keeps its holder, who can do nothing more on it
    by_cases same : client = id
    · subst same
      simp only [Function.update_self]
      exact ⟨out, fun alive => absurd alive Bool.false_ne_true⟩
    · simp only [Function.update_of_ne same]
      exact ⟨out, fun alive => ⟨alive, trivial⟩⟩
  | discard id =>
    simp only [environment] at happened
    split at happened
    · next idle =>
      cases happened
      constructor
      · exact ok.update fun _ => ok id (.inl idle)
      · exact fun other => leaves_update fun out => ClientStanding.noConfusion (idle.symm.trans out)
    · cases happened

theorem sound_scopes {trace : List (Turn ScopeChoice PoolEvent)} {final : Scopes}
    (ran : run scopeStep noScopes trace = some final) : Threads.Sound PoolOk Held final := by
  refine invariant_of_every_run ?_ ⟨fun _ _ => rfl, fun _ _ none => (Option.some_ne_none _ none.symm).elim⟩ ran
  intro scopes turn next sound taken
  refine @sound_interleave _ _ _ _ act environment PoolOk Held Leaves ?_ ?_ ?_ scopes turn next sound taken
  · intro id pool own choice next after ok held acted
    exact sound_act ok held acted
  · exact fun pool event next ok happened => sound_environment ok happened
  · intro id pool next own held leaves scope mine
    obtain ⟨stands, fits⟩ := held scope mine
    obtain ⟨out, same⟩ := leaves scope.client stands
    refine ⟨out, fun alive => ?_⟩
    obtain ⟨lived, session⟩ := same alive
    rw [session]
    exact fits lived

end Invariant

section Runs

variable {trace : List (Turn ScopeChoice PoolEvent)} {final : Scopes}

theorem admitted_named {session : TenantSession} {workspaceId : WorkspaceId}
    (named : session.current (.text "") .currentWorkspaceId = some (.workspace workspaceId)) (rows : List TenantRow)
    (granted : WorkspaceId → TenantRow → Bool) :
    admitted session rows granted = .ok (rows.filter (granted workspaceId)) := by
  unfold admitted
  split
  · next empty =>
    rw [List.isEmpty_iff.mp empty]
    rfl
  · rw [namedWorkspace, named]
    rfl

theorem runtimeLookup_iff {session : TenantSession} {table : ProtectedTable} {row : TenantRow} :
    runtimeLookup session table row = true ↔
      ∃ setting, table.lookupSetting = some setting ∧
        session.current (.text "") setting = some (.text row.key) := by
  simp only [runtimeLookup, Option.any_eq_true, beq_iff_eq]

theorem current_of_running {scope : Scope} {session : TenantSession} (running : scope.phase = .running)
    (fits : Fits scope session) {value : SettingValue}
    (bound : scope.settings.lookup .currentWorkspaceId = some value) :
    session.current (.text "") .currentWorkspaceId = some value ∧
      (scope.kind ≠ .preTenantLookup → ∀ table setting, ProtectedTable.lookupSetting table = some setting →
        session.current (.text "") setting = none ∨ session.current (.text "") setting = some (.text "")) := by
  simp only [Fits, running] at fits
  obtain ⟨transaction, opened, ⟨named, keyed⟩, _⟩ := fits
  constructor
  · rw [Session.current, opened, Option.bind_some, named, bound, Option.some_or]
  · intro tenant table setting looked
    have unset : transaction.assigned setting = none := by
      obtain ⟨apiKey, pathToken⟩ := keyed tenant
      cases table with
      | workspaceApiKeys =>
        cases looked
        exact apiKey
      | workspaceWebhookEndpoints =>
        cases looked
        exact pathToken
      | campaigns | flows | flowRuns | contacts | sends | ingressJournal | other => cases looked
    rw [Session.current, opened, Option.bind_some, unset, Option.none_or]
    split
    · exact .inr rfl
    · exact .inl rfl

/-- However calls interleave and connections die: inside a tenant transaction the connection is the call's
own, and every table shows and lets it change just the rows of the innermost `withTenant`. -/
theorem tenantTransaction_confined (ran : run scopeStep noScopes trace = some final) {call : Nat} {scope : Scope}
    (own : final.own call = some scope) (running : scope.phase = .running)
    (alive : (final.shared scope.client).alive = true)
    (tenant : scope.kind = .tenantTransaction ∨ scope.kind = .tenantTransactionRepeatableRead) :
    (∀ other shared, final.own other = some shared → shared.client = scope.client → other = call) ∧
    ∃ workspaceId, scope.within.findSome? CorrelationScope.workspaceId = some workspaceId ∧
      ∀ table rows, (∀ row ∈ rows, row.key ≠ "") →
        selectable (final.shared scope.client).session scope.client.1.role table rows =
            .ok (rows.filter fun row => row.workspaceId == workspaceId) ∧
          writable (final.shared scope.client).session scope.client.1.role rows =
            .ok (rows.filter fun row => row.workspaceId == workspaceId) := by
  have role : scope.client.1.role = .megaCrmApp := by
    rcases tenant with kind | kind
    · rw [scope.drawn, kind]
      rfl
    · rw [scope.drawn, kind]
      rfl
  rw [role]
  have sound := sound_scopes ran
  obtain ⟨stands, fits⟩ := sound.own call scope own
  constructor
  · intro other shared also same
    have out := (sound.own other shared also).1
    rw [same, stands] at out
    exact (ClientStanding.checkedOut.inj out).symm
  · have opened : (getStore scope.within).bind (fun ctx => ctx.workspaceId.map fun id =>
        [(Setting.currentWorkspaceId, SettingValue.workspace id),
          (.applicationName, .text (composeApplicationName ctx))]) = some scope.settings := by
      have called := scope.called
      rcases tenant with kind | kind
      · rwa [kind] at called
      · rwa [kind] at called
    obtain ⟨ctx, found, named⟩ := Option.bind_eq_some_iff.mp opened
    obtain ⟨workspaceId, bound, settings⟩ := Option.map_eq_some_iff.mp named
    have innermost : scope.within.findSome? CorrelationScope.workspaceId = some workspaceId := by
      rw [← workspaceId_getStore, found, Option.bind_some, bound]
    refine ⟨workspaceId, innermost, ?_⟩
    intro table rows keyed
    have assigned : scope.settings.lookup .currentWorkspaceId = some (.workspace workspaceId) := by
      rw [← settings]
      rfl
    obtain ⟨named, unset⟩ := current_of_running running (fits alive) assigned
    refine ⟨?_, admitted_named named rows _⟩
    refine (admitted_named named rows _).trans (congrArg _ (List.filter_congr ?_))
    intro row stored
    have hidden : runtimeLookup (final.shared scope.client).session table row = false := by
      apply Bool.eq_false_iff.mpr
      intro shown
      obtain ⟨setting, looked, current⟩ := runtimeLookup_iff.mp shown
      have plain : scope.kind ≠ .preTenantLookup := by
        rcases tenant with kind | kind
        · exact fun same => ScopeKind.noConfusion (kind.symm.trans same)
        · exact fun same => ScopeKind.noConfusion (kind.symm.trans same)
      rcases unset plain table setting looked with missing | blank
      · rw [missing] at current
        cases current
      · rw [blank] at current
        exact keyed row stored (SettingValue.text.inj (Option.some.inj current)).symm
    rw [hidden, Bool.or_false]

def calledAs (call : Nat) (kind : ScopeKind) (within : List CorrelationScope) : List (Turn ScopeChoice PoolEvent) :=
  [.thread call (.call kind within (.tenantContext, 0)), .thread call (.advance true), .thread call (.advance true)]

def settledBy (call : Nat) : List (Turn ScopeChoice PoolEvent) :=
  [.thread call (.advance true), .thread call (.advance true), .thread call (.advance true)]

def servedSeven : List (Turn ScopeChoice PoolEvent) := calledAs 0 .tenantTransaction [.tenant 7] ++ settledBy 0

/-- A connection that has served workspace 7 serves workspace 8 next. -/
theorem tenantTransaction_confined_served : ∃ final scope,
    run scopeStep noScopes (servedSeven ++
        calledAs 1 .tenantTransaction [.correlation { requestId := some "r" }, .tenant 8]) = some final ∧
      final.own 1 = some scope ∧ scope.client = (.tenantContext, 0) ∧
      selectable (final.shared scope.client).session scope.client.1.role .other [{ workspaceId := 7, key := "a" },
        { workspaceId := 8, key := "b" }] = .ok [{ workspaceId := 8, key := "b" }] := by
  have runs : (run scopeStep noScopes (servedSeven ++
      calledAs 1 .tenantTransaction [.correlation { requestId := some "r" }, .tenant 8])).any (fun final =>
        (final.own 1).any fun scope => decide (scope.phase = .running) && (final.shared scope.client).alive &&
          decide (scope.kind = .tenantTransaction) && decide (scope.client = (.tenantContext, 0)) &&
          decide (scope.within.findSome? CorrelationScope.workspaceId = some 8)) = true := by decide +kernel
  obtain ⟨final, ran, inside⟩ := Option.any_eq_true _ _ |>.mp runs
  obtain ⟨scope, own, checked⟩ := Option.any_eq_true _ _ |>.mp inside
  simp only [Bool.and_eq_true, decide_eq_true_eq] at checked
  obtain ⟨⟨⟨⟨running, alive⟩, kind⟩, client⟩, innermost⟩ := checked
  obtain ⟨_, workspaceId, named, confined⟩ := tenantTransaction_confined ran own running alive (.inl kind)
  cases innermost.symm.trans named
  exact ⟨final, scope, ran, own, client, (confined .other [{ workspaceId := 7, key := "a" },
    { workspaceId := 8, key := "b" }] (by decide)).1⟩

/-- A pre-tenant lookup sees the rows whose key it has set, and may change nothing. -/
theorem preTenantLookup_confined (ran : run scopeStep noScopes trace = some final) {call : Nat} {scope : Scope}
    (own : final.own call = some scope) (running : scope.phase = .running)
    (alive : (final.shared scope.client).alive = true) (kind : scope.kind = .preTenantLookup)
    (table : ProtectedTable) (rows : List TenantRow)
    (real : ∀ row ∈ rows, row.workspaceId ≠ preTenantLookupSentinelWorkspaceId) :
    writable (final.shared scope.client).session scope.client.1.role rows = .ok [] ∧
      ∃ read, selectable (final.shared scope.client).session scope.client.1.role table rows = .ok read ∧
        ∀ row, row ∈ read ↔ row ∈ rows ∧ ∃ setting, table.lookupSetting = some setting ∧
          (final.shared scope.client).session.current (.text "") setting = some (.text row.key) := by
  have role : scope.client.1.role = .megaCrmApp := by
    rw [scope.drawn, kind]
    rfl
  rw [role]
  have called := scope.called
  rw [kind] at called
  have settings : scope.settings.lookup .currentWorkspaceId =
      some (.workspace preTenantLookupSentinelWorkspaceId) := by
    rw [← Option.some.inj called]
    rfl
  obtain ⟨named, _⟩ := current_of_running running (((sound_scopes ran).own call scope own).2 alive) settings
  have foreign : ∀ row ∈ rows, (row.workspaceId == preTenantLookupSentinelWorkspaceId) = false :=
    fun row stored => beq_eq_false_iff_ne.mpr (real row stored)
  constructor
  · refine (admitted_named named rows _).trans (congrArg _ ?_)
    rw [List.filter_eq_nil_iff]
    intro row stored
    rw [foreign row stored]
    exact Bool.false_ne_true
  · refine ⟨_, admitted_named named rows _, ?_⟩
    intro row
    rw [List.mem_filter]
    constructor
    · rintro ⟨stored, shown⟩
      rw [foreign row stored, Bool.false_or, runtimeLookup_iff] at shown
      exact ⟨stored, shown⟩
    · rintro ⟨stored, keyed⟩
      rw [foreign row stored, Bool.false_or, runtimeLookup_iff]
      exact ⟨stored, keyed⟩

theorem preTenantLookup_confined_keyed : ∃ final scope,
    run scopeStep noScopes (servedSeven ++ calledAs 1 .preTenantLookup [] ++
        [.thread 1 (.query (.lookup .apiKeyLookupId "b") true)]) = some final ∧
      final.own 1 = some scope ∧
      writable (final.shared scope.client).session scope.client.1.role [{ workspaceId := 7, key := "a" },
        { workspaceId := 8, key := "b" }] = .ok [] := by
  have runs : (run scopeStep noScopes (servedSeven ++ calledAs 1 .preTenantLookup [] ++
        [.thread 1 (.query (.lookup .apiKeyLookupId "b") true)])).any (fun final =>
        (final.own 1).any fun scope => decide (scope.phase = .running) && (final.shared scope.client).alive &&
          decide (scope.kind = .preTenantLookup)) = true := by decide +kernel
  obtain ⟨final, ran, inside⟩ := Option.any_eq_true _ _ |>.mp runs
  obtain ⟨scope, own, checked⟩ := Option.any_eq_true _ _ |>.mp inside
  simp only [Bool.and_eq_true, decide_eq_true_eq] at checked
  obtain ⟨⟨running, alive⟩, kind⟩ := checked
  exact ⟨final, scope, ran, own,
    (preTenantLookup_confined ran own running alive kind .workspaceApiKeys [{ workspaceId := 7, key := "a" },
      { workspaceId := 8, key := "b" }] (by decide)).1⟩

/-- A connection that waits in the app's pool shows no row and lets none be written, whoever used it before. -/
theorem idle_refused (ran : run scopeStep noScopes trace = some final) {client : ClientId}
    (pool : client.1 = .tenantContext) (idle : (final.shared client).standing = .idle) (table : ProtectedTable)
    {rows : List TenantRow} (stored : rows ≠ []) :
    ∃ error, selectable (final.shared client).session client.1.role table rows = .error error ∧
      writable (final.shared client).session client.1.role rows = .error error := by
  have closed := (sound_scopes ran).shared client (.inl idle)
  have unnamed : ∃ error, namedWorkspace (final.shared client).session = .error error := by
    rw [namedWorkspace, Session.current, closed, Option.bind_none, Option.none_or]
    split
    · exact ⟨_, rfl⟩
    · exact ⟨_, rfl⟩
    · next refused =>
      split at refused
      · cases refused
      · cases refused
  obtain ⟨error, unnamed⟩ := unnamed
  have refused : ∀ granted, admitted (final.shared client).session rows granted = .error error := by
    intro granted
    rw [admitted, if_neg (by simp [stored]), unnamed]
    rfl
  rw [pool]
  exact ⟨error, refused _, refused _⟩

theorem idle_refused_served : ∃ final error, run scopeStep noScopes servedSeven = some final ∧
    selectable (final.shared (.tenantContext, 0)).session .megaCrmApp .other [{ workspaceId := 7, key := "a" }] =
      .error error := by
  have runs : (run scopeStep noScopes servedSeven).any (fun final =>
      decide ((final.shared (.tenantContext, 0)).standing = .idle)) = true := by decide +kernel
  obtain ⟨final, ran, idle⟩ := Option.any_eq_true _ _ |>.mp runs
  obtain ⟨error, refused, _⟩ := idle_refused ran rfl (of_decide_eq_true idle) .other
    (List.cons_ne_nil { workspaceId := 7, key := "a" } [])
  exact ⟨final, error, ran, refused⟩

end Runs

end LocalCrm.Tenancy
