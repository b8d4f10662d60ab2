import LocalCrm.Flows.Definition
import LocalCrm.Library.GraphSearch
import LocalCrm.Webhooks.EventRules

/-! The publish-time validation of a flow definition. -/

set_option autoImplicit false

namespace LocalCrm.Flows

open Library Webhooks

inductive FlowValidationErrorCode where
  | noTrigger
  | emptySend
  | branchMissingExit
  | cycleDetected
  | noEntry
  deriving DecidableEq, Repr

structure FlowValidationError where
  code : FlowValidationErrorCode
  nodeId : Option NodeId := none
  deriving DecidableEq, Repr

def hasTemplate (templateId : Option String) : Bool :=
  truthy templateId && templateId.any fun text => 0 < (jsTrim text).length

def hasSender (fromSenderId fromEmail : Option String) : Bool := truthy fromSenderId || truthy fromEmail

def emptySendError (node : DefinitionNode) : Option FlowValidationError :=
  match node.config with
  | .send templateId fromSenderId fromEmail =>
    if !hasTemplate templateId || !hasSender fromSenderId fromEmail then
      some { code := .emptySend, nodeId := some node.id }
    else none
  | .trigger _ _ _ | .delay _ | .branch _ | .exit => none

namespace FlowDefinition

variable (definition : FlowDefinition)

/-- `nodesById.get(nodeId)`. -/
def nodesById (nodeId : NodeId) : Option DefinitionNode :=
  definition.nodes.findRev? fun node => node.id == nodeId

def idsFrom (startId : NodeId) : List NodeId := startId :: definition.edges.map FlowEdge.target

def walkBound : Nat := definition.edges.length + 2

def findCycleReachableFrom (startId : NodeId) : Option NodeId :=
  match visit definition.targets definition.walkBound startId {} with
  | some (.cycleAt nodeId) => some nodeId
  | some (.finished _) | none => none

def collectReachable (startId : NodeId) : List NodeId :=
  collect definition.targets definition.walkBound { visited := [startId], queue := [startId] }

/-- `every`, with the visited ids handed on; it stops at the first failure. -/
def everyTarget (reaches : NodeId → List NodeId → Option (Bool × List NodeId)) :
    List NodeId → List NodeId → Option (Bool × List NodeId)
  | [], visited => some (true, visited)
  | target :: rest, visited =>
    match reaches target visited with
    | some (true, after) => everyTarget reaches rest after
    | stopped => stopped

/-- Also answers the ids visited; `none` when the depth did not last. -/
def pathReachesExit : Nat → NodeId → List NodeId → Option (Bool × List NodeId)
  | 0, _, _ => none
  | depth + 1, nodeId, visited =>
    if nodeId ∈ visited then some (true, visited)
    else
      match definition.nodesById nodeId with
      | none => some (true, nodeId :: visited)
      | some node =>
        match node.config with
        | .exit => some (true, nodeId :: visited)
        | .branch _ =>
          match (definition.outgoing nodeId).find? fun edge => edge.sourceHandle == some .yes,
            (definition.outgoing nodeId).find? fun edge => edge.sourceHandle == some .no with
          | some yesEdge, some noEdge =>
            everyTarget (pathReachesExit depth) [yesEdge.target, noEdge.target] (nodeId :: visited)
          | _, _ => some (false, nodeId :: visited)
        | .trigger _ _ _ | .delay _ | .send _ _ _ =>
          if (definition.outgoing nodeId).isEmpty then some (false, nodeId :: visited)
          else everyTarget (pathReachesExit depth) (definition.targets nodeId) (nodeId :: visited)

def branchError (reachable : List NodeId) (node : DefinitionNode) : Option FlowValidationError :=
  match node.config with
  | .branch _ =>
    if node.id ∈ reachable ∧
        (definition.pathReachesExit definition.walkBound node.id []).any (fun (reaches, _) => !reaches) then
      some { code := .branchMissingExit, nodeId := some node.id }
    else none
  | .trigger _ _ _ | .delay _ | .send _ _ _ | .exit => none

def graphErrors (triggerId : NodeId) : List FlowValidationError :=
  (if (definition.outgoing triggerId).isEmpty then [{ code := .noEntry }] else []) ++
    (definition.findCycleReachableFrom triggerId).toList.map
      (fun nodeId => { code := .cycleDetected, nodeId := some nodeId }) ++
    definition.nodes.filterMap (definition.branchError (definition.collectReachable triggerId))

def validateFlowDefinition : List FlowValidationError :=
  match definition.triggerNodes with
  | [trigger] => definition.nodes.filterMap emptySendError ++ definition.graphErrors trigger.id
  | _ => { code := .noTrigger } :: definition.nodes.filterMap emptySendError

section Walks

variable {definition} {startId nodeId : NodeId}

theorem targets_subset (source : NodeId) : definition.targets source ⊆ definition.idsFrom startId := by
  intro target member
  obtain ⟨edge, chosen, rfl⟩ := List.mem_map.mp member
  exact List.mem_cons_of_mem _ (List.mem_map_of_mem (List.mem_filter.mp chosen).1)

theorem length_idsFrom : (definition.idsFrom startId).length + 1 = definition.walkBound := by
  rw [idsFrom, List.length_cons, List.length_map]
  rfl

theorem acc_of_no_cycle (none : definition.findCycleReachableFrom startId = none) :
    Acc (fun later earlier => later ∈ definition.targets earlier) startId := by
  have enough : visit definition.targets definition.walkBound startId {} ≠ Option.none := by
    apply @visit_enough _ _ _ _ _ _ (definition.idsFrom startId)
    · intro node _
      exact targets_subset node
    · have whole : (definition.idsFrom startId).length + 1 = definition.walkBound := length_idsFrom
      omega
    · exact List.nodup_singleton _
    · exact List.cons_subset.mpr ⟨List.mem_cons_self, List.nil_subset _⟩
  unfold findCycleReachableFrom at none
  split at none
  · cases none
  · next finished => exact acc_of_finished finished
  · next exhausted => exact absurd exhausted enough

theorem findCycleReachableFrom_eq_none_iff : definition.findCycleReachableFrom startId = none ↔
    ∀ nodeId, Relation.ReflTransGen (Leads definition.targets) startId nodeId →
      ¬ Relation.TransGen (Leads definition.targets) nodeId nodeId := by
  constructor
  · intro none nodeId reached
    apply irreflexive_of_acc
    have ends := acc_of_no_cycle none
    clear none
    induction reached with
    | refl => exact ends
    | tail _ follows ih => exact ih.inv follows
  · intro acyclic
    unfold findCycleReachableFrom
    split
    · next found stopped =>
      obtain ⟨reached, loops⟩ := visit_cycle .refl (fun above member => absurd member List.not_mem_nil) stopped
      exact absurd loops (acyclic found reached)
    · rfl
    · rfl

/-- Where `pathReachesExit` goes on from a node, and where it fails at it. -/
def followed (nodeId : NodeId) : List NodeId :=
  match definition.nodesById nodeId with
  | none => []
  | some node =>
    match node.config with
    | .exit => []
    | .branch _ =>
      match (definition.outgoing nodeId).find? fun edge => edge.sourceHandle == some .yes,
        (definition.outgoing nodeId).find? fun edge => edge.sourceHandle == some .no with
      | some yesEdge, some noEdge => [yesEdge.target, noEdge.target]
      | _, _ => []
    | .trigger _ _ _ | .delay _ | .send _ _ _ => definition.targets nodeId

def isDeadEnd (nodeId : NodeId) : Bool :=
  (definition.nodesById nodeId).any fun node =>
    match node.config with
    | .exit => false
    | .branch _ | .trigger _ _ _ | .delay _ | .send _ _ _ => (definition.followed nodeId).isEmpty

theorem pathReachesExit_succ {depth : Nat} {visited : List NodeId} :
    definition.pathReachesExit (depth + 1) nodeId visited =
      if nodeId ∈ visited then some (true, visited)
      else if definition.isDeadEnd nodeId then some (false, nodeId :: visited)
      else everyTarget (definition.pathReachesExit depth) (definition.followed nodeId) (nodeId :: visited) := by
  unfold pathReachesExit isDeadEnd followed
  refine ite_congr rfl (fun _ => rfl) fun _ => ?_
  cases definition.nodesById nodeId with
  | none => rfl
  | some node =>
    cases config : node.config with
    | exit => simp [config, everyTarget]
    | branch =>
      simp only [config, Option.any_some]
      split <;> simp
    | trigger | delay | send => simp [config, targets, List.isEmpty_map]

theorem followed_subset : definition.followed nodeId ⊆ definition.targets nodeId := by
  unfold followed
  split
  · exact List.nil_subset _
  · split
    · exact List.nil_subset _
    · split
      · next yes no =>
        intro target chosen
        rcases List.mem_cons.mp chosen with rfl | last
        · exact List.mem_map_of_mem (List.mem_of_find?_eq_some yes)
        · rw [List.mem_singleton.mp last]
          exact List.mem_map_of_mem (List.mem_of_find?_eq_some no)
      · exact List.nil_subset _
    all_goals exact List.Subset.refl _

/-- A search from the targets: it has looked at all it can reach, or found a dead end among that. -/
structure Explored (ids targets visited : List NodeId) (reaches : Bool) (after : List NodeId) : Prop where
  distinct : after.Nodup
  inside : after ⊆ ids
  grown : visited ⊆ after
  closed : reaches = true → targets ⊆ after ∧ ∀ nodeId ∈ after, nodeId ∉ visited →
    definition.isDeadEnd nodeId = false ∧ definition.followed nodeId ⊆ after
  stuck : reaches = false → ∃ target ∈ targets, ∃ nodeId,
    Relation.ReflTransGen (Leads definition.followed) target nodeId ∧ definition.isDeadEnd nodeId = true

theorem everyTarget_explored {reaches : NodeId → List NodeId → Option (Bool × List NodeId)}
    {ids targets visited : List NodeId} {least : Nat}
    (explores : ∀ target ∈ targets, ∀ visited : List NodeId, visited.Nodup → visited ⊆ ids → least ≤ visited.length →
      ∃ reached after, reaches target visited = some (reached, after) ∧
        definition.Explored ids [target] visited reached after)
    (distinct : visited.Nodup) (inside : visited ⊆ ids) (long : least ≤ visited.length) :
    ∃ reached after, everyTarget reaches targets visited = some (reached, after) ∧
      definition.Explored ids targets visited reached after := by
  induction targets generalizing visited with
  | nil =>
    refine ⟨true, visited, rfl, distinct, inside, List.Subset.refl _, fun _ => ⟨List.nil_subset _, ?_⟩, ?_⟩
    · exact fun nodeId member fresh => absurd member fresh
    · exact fun wrong => absurd wrong Bool.noConfusion
  | cons target rest ih =>
    obtain ⟨reached, after, walked, explored⟩ := explores target List.mem_cons_self visited distinct inside long
    unfold everyTarget
    rw [walked]
    cases reached with
    | false =>
      refine ⟨false, after, rfl, { explored with closed := fun wrong => absurd wrong Bool.noConfusion, stuck := ?_ }⟩
      intro failed
      obtain ⟨only, member, found⟩ := explored.stuck failed
      exact ⟨only, List.mem_cons.mpr (.inl (List.mem_singleton.mp member)), found⟩
    | true =>
      have longer := Nat.le_trans long (List.subperm_of_subset distinct explored.grown).length_le
      obtain ⟨result, last, finished, further⟩ :=
        ih (fun other member => explores other (List.mem_cons_of_mem _ member)) explored.distinct explored.inside longer
      refine ⟨result, last, finished, further.distinct, further.inside,
        List.Subset.trans explored.grown further.grown, ?_, ?_⟩
      · intro success
        obtain ⟨first, settled⟩ := explored.closed rfl
        obtain ⟨others, later⟩ := further.closed success
        refine ⟨List.cons_subset.mpr ⟨further.grown (first List.mem_cons_self), others⟩, ?_⟩
        intro nodeId member fresh
        by_cases early : nodeId ∈ after
        · obtain ⟨alive, onward⟩ := settled nodeId early fresh
          exact ⟨alive, List.Subset.trans onward further.grown⟩
        · exact later nodeId member early
      · intro failed
        obtain ⟨other, member, found⟩ := further.stuck failed
        exact ⟨other, List.mem_cons_of_mem _ member, found⟩

theorem pathReachesExit_explored {depth : Nat} {visited : List NodeId} (member : nodeId ∈ definition.idsFrom startId)
    (deep : (definition.idsFrom startId).length < depth + visited.length) (distinct : visited.Nodup)
    (inside : visited ⊆ definition.idsFrom startId) :
    ∃ reached after, definition.pathReachesExit depth nodeId visited = some (reached, after) ∧
      definition.Explored (definition.idsFrom startId) [nodeId] visited reached after := by
  induction depth generalizing nodeId visited with
  | zero =>
    have fits := (List.subperm_of_subset distinct inside).length_le
    omega
  | succ depth ih =>
    rw [pathReachesExit_succ]
    split
    · next seen =>
      have covered : [nodeId] ⊆ visited := List.cons_subset.mpr ⟨seen, List.nil_subset _⟩
      exact ⟨true, visited, rfl, distinct, inside, List.Subset.refl _,
        fun _ => ⟨covered, fun other here fresh => absurd here fresh⟩, fun wrong => absurd wrong Bool.noConfusion⟩
    · next fresh =>
      have distinctHere : (nodeId :: visited).Nodup := List.nodup_cons.mpr ⟨fresh, distinct⟩
      have insideHere : nodeId :: visited ⊆ definition.idsFrom startId := List.cons_subset.mpr ⟨member, inside⟩
      split
      · next dead =>
        exact ⟨false, _, rfl, distinctHere, insideHere, List.subset_cons_self _ _,
          fun wrong => absurd wrong Bool.noConfusion, fun _ => ⟨nodeId, List.mem_cons_self, nodeId, .refl, dead⟩⟩
      · next alive =>
        have below : ∀ target ∈ definition.followed nodeId, ∀ seen : List NodeId, seen.Nodup →
            seen ⊆ definition.idsFrom startId → visited.length + 1 ≤ seen.length →
            ∃ reached after, definition.pathReachesExit depth target seen = some (reached, after) ∧
              definition.Explored (definition.idsFrom startId) [target] seen reached after := by
          intro target chosen seen distinctSeen insideSeen long
          exact ih (targets_subset nodeId (followed_subset chosen)) (by omega) distinctSeen insideSeen
        obtain ⟨reached, after, walked, explored⟩ :=
          everyTarget_explored below distinctHere insideHere (Nat.le_refl _)
        refine ⟨reached, after, walked, explored.distinct, explored.inside,
          List.Subset.trans (List.subset_cons_self _ _) explored.grown, ?_, ?_⟩
        · intro success
          obtain ⟨onward, settled⟩ := explored.closed success
          refine ⟨List.cons_subset.mpr ⟨explored.grown List.mem_cons_self, List.nil_subset _⟩, ?_⟩
          intro other here unseen
          by_cases same : other = nodeId
          · subst same
            exact ⟨Bool.eq_false_iff.mpr alive, onward⟩
          · exact settled other here (List.not_mem_cons_of_ne_of_not_mem same unseen)
        · intro failed
          obtain ⟨target, follows, last, walks, dead⟩ := explored.stuck failed
          exact ⟨nodeId, List.mem_cons_self, last, .head follows walks, dead⟩

/-- With the depth it is given the search ends, and it fails exactly where a dead end can be reached. -/
theorem pathReachesExit_iff : ∃ reached after,
    definition.pathReachesExit definition.walkBound startId [] = some (reached, after) ∧
      (reached = true ↔ ∀ nodeId, Relation.ReflTransGen (Leads definition.followed) startId nodeId →
        definition.isDeadEnd nodeId = false) := by
  have whole : (definition.idsFrom startId).length + 1 = definition.walkBound := length_idsFrom
  obtain ⟨reached, after, walked, explored⟩ := @pathReachesExit_explored definition startId startId
    definition.walkBound [] List.mem_cons_self (by rw [List.length_nil]; omega) List.nodup_nil (List.nil_subset _)
  refine ⟨reached, after, walked, ?_, ?_⟩
  · intro success nodeId reaches
    obtain ⟨onward, settled⟩ := explored.closed success
    have met : nodeId ∈ after := by
      induction reaches with
      | refl => exact onward List.mem_cons_self
      | tail _ follows ih => exact (settled _ ih List.not_mem_nil).2 follows
    exact (settled nodeId met List.not_mem_nil).1
  · intro alive
    by_contra failed
    obtain ⟨target, member, nodeId, reaches, dead⟩ := explored.stuck (Bool.eq_false_iff.mpr failed)
    rw [List.mem_singleton.mp member] at reaches
    exact absurd (dead.symm.trans (alive nodeId reaches)) Bool.noConfusion

theorem collectReachable_closed : startId ∈ definition.collectReachable startId ∧
    ∀ nodeId ∈ definition.collectReachable startId,
      definition.targets nodeId ⊆ definition.collectReachable startId := by
  have whole : (definition.idsFrom startId).length + 1 = definition.walkBound := length_idsFrom
  have sound : Frontier.Sound definition.targets (definition.idsFrom startId) []
      { visited := [startId], queue := [startId] } := by
    constructor
    · exact List.nodup_singleton startId
    · exact List.cons_subset.mpr ⟨List.mem_cons_self, List.nil_subset _⟩
    · exact List.Subset.refl _
    · exact fun _ member => .inl member
  have closed := collect_closed (fun node _ => targets_subset node) sound
    (by simp only [List.length_singleton]; omega : _ ≤ definition.walkBound + _)
  exact ⟨closed.1 List.mem_cons_self, closed.2⟩

theorem mem_collectReachable :
    nodeId ∈ definition.collectReachable startId ↔ Relation.ReflTransGen (Leads definition.targets) startId nodeId := by
  constructor
  · apply collect_all
    · exact fun node reached target follows => reached.tail follows
    · exact fun node member => List.mem_singleton.mp member ▸ .refl
    · exact fun node member => List.mem_singleton.mp member ▸ .refl
  · intro reached
    obtain ⟨start, closed⟩ := @collectReachable_closed definition startId
    induction reached with
    | refl => exact start
    | tail _ follows ih => exact closed _ ih follows

/-- One trigger that leads somewhere, no incomplete send, no cycle behind the trigger, and behind a
branch that can be reached no node at which a run would be stuck short of an exit. -/
structure Publishable (trigger : DefinitionNode) : Prop where
  only : definition.triggerNodes = [trigger]
  complete : ∀ node ∈ definition.nodes, emptySendError node = none
  leads : definition.targets trigger.id ≠ []
  acyclic : ∀ nodeId, Relation.ReflTransGen (Leads definition.targets) trigger.id nodeId →
    ¬ Relation.TransGen (Leads definition.targets) nodeId nodeId
  exits : ∀ node ∈ definition.nodes, (∃ condition, node.config = .branch condition) →
    Relation.ReflTransGen (Leads definition.targets) trigger.id node.id →
    ∀ nodeId, Relation.ReflTransGen (Leads definition.followed) node.id nodeId → definition.isDeadEnd nodeId = false

theorem branchError_eq_none_iff {node : DefinitionNode} :
    definition.branchError (definition.collectReachable startId) node = none ↔
      ((∃ condition, node.config = .branch condition) →
        Relation.ReflTransGen (Leads definition.targets) startId node.id →
        ∀ nodeId, Relation.ReflTransGen (Leads definition.followed) node.id nodeId →
          definition.isDeadEnd nodeId = false) := by
  cases config : node.config with
  | branch condition =>
    obtain ⟨reaches, after, walked, exits⟩ := @pathReachesExit_iff definition node.id
    simp only [branchError, config, ← exits]
    cases reaches <;> simp [walked, mem_collectReachable]
  | trigger | delay | send | exit => simp [branchError, config]

/-- The validator accepts exactly the definitions that may be published. -/
theorem validateFlowDefinition_eq_nil_iff (definition : FlowDefinition) :
    definition.validateFlowDefinition = [] ↔ ∃ trigger, definition.Publishable trigger := by
  have sends : definition.nodes.filterMap emptySendError = [] ↔
      ∀ node ∈ definition.nodes, emptySendError node = none := List.filterMap_eq_nil_iff
  have graph : ∀ triggerId, definition.graphErrors triggerId = [] ↔ definition.targets triggerId ≠ [] ∧
      definition.findCycleReachableFrom triggerId = none ∧
      ∀ node ∈ definition.nodes, definition.branchError (definition.collectReachable triggerId) node = none := by
    intro triggerId
    simp only [graphErrors, List.append_eq_nil_iff, List.map_eq_nil_iff, List.filterMap_eq_nil_iff, targets, and_assoc,
      Option.toList_eq_nil_iff, ne_eq, List.isEmpty_iff, ite_eq_right_iff, List.cons_ne_nil, imp_false]
  unfold validateFlowDefinition
  constructor
  · intro accepted
    split at accepted
    · next trigger triggers =>
      obtain ⟨complete, checked⟩ := List.append_eq_nil_iff.mp accepted
      obtain ⟨leads, uncycled, branches⟩ := (graph trigger.id).mp checked
      exact ⟨trigger, triggers, sends.mp complete, leads, findCycleReachableFrom_eq_none_iff.mp uncycled,
        fun node member => branchError_eq_none_iff.mp (branches node member)⟩
    · cases accepted
  · rintro ⟨trigger, publishable⟩
    rw [publishable.only]
    exact List.append_eq_nil_iff.mpr ⟨sends.mpr publishable.complete, (graph trigger.id).mpr ⟨publishable.leads,
      findCycleReachableFrom_eq_none_iff.mpr publishable.acyclic,
      fun node member => branchError_eq_none_iff.mpr (publishable.exits node member)⟩⟩

end Walks

end FlowDefinition

end LocalCrm.Flows
