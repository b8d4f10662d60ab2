import Mathlib.Data.List.Basic
import Mathlib.Data.List.Perm.Subperm
import Mathlib.Data.List.Nodup
import Mathlib.Logic.Relation

/-! Searches of a graph given by the list of nodes each node leads to. -/

set_option autoImplicit false

namespace LocalCrm.Library

def Leads {Node : Type} (next : Node → List Node) (earlier later : Node) : Prop := later ∈ next earlier

variable {Node : Type} [DecidableEq Node]

structure Search (Node : Type) where
  visited : List Node := []
  onStack : List Node := []

inductive Outcome (Node : Type) where
  | cycleAt (node : Node)
  | finished (search : Search Node)

def scan (visit : Node → Search Node → Option (Outcome Node)) : List Node → Search Node → Option (Outcome Node)
  | [], search => some (.finished search)
  | target :: rest, search =>
    if target ∈ search.onStack then some (.cycleAt target)
    else if target ∈ search.visited then scan visit rest search
    else
      match visit target search with
      | some (.finished after) => scan visit rest after
      | stopped => stopped

def visit (next : Node → List Node) : Nat → Node → Search Node → Option (Outcome Node)
  | 0, _, _ => none
  | depth + 1, node, search =>
    match scan (visit next depth) (next node)
        { visited := node :: search.visited, onStack := node :: search.onStack } with
    | some (.finished after) => some (.finished { after with onStack := after.onStack.erase node })
    | stopped => stopped

section DepthFirst

variable {next : Node → List Node} {depth : Nat} {node start : Node} {targets : List Node}
  {search after : Search Node}

theorem visit_succ (finished : visit next (depth + 1) node search = some (.finished after)) :
    ∃ inner, scan (visit next depth) (next node)
        { visited := node :: search.visited, onStack := node :: search.onStack } = some (.finished inner) ∧
      after = { inner with onStack := inner.onStack.erase node } := by
  unfold visit at finished
  split at finished
  · next inner scanned =>
    cases finished
    exact ⟨inner, scanned, rfl⟩
  · next stopped neither =>
    exact absurd finished (neither after)

structure Kept (search after : Search Node) : Prop where
  onStack : after.onStack = search.onStack
  visited : search.visited ⊆ after.visited

variable {look : Node → Search Node → Option (Outcome Node)}

theorem scan_kept
    (looked : ∀ {target search after}, look target search = some (.finished after) →
      Kept search after ∧ target ∈ after.visited)
    (finished : scan look targets search = some (.finished after)) :
    Kept search after ∧ ∀ target ∈ targets, target ∈ after.visited ∧ target ∉ after.onStack := by
  induction targets generalizing search with
  | nil =>
    cases finished
    exact ⟨⟨rfl, List.Subset.refl _⟩, fun target member => absurd member List.not_mem_nil⟩
  | cons target rest ih =>
    unfold scan at finished
    split at finished
    · cases finished
    · next away =>
      split at finished
      · next seen =>
        obtain ⟨kept, covered⟩ := ih finished
        refine ⟨kept, ?_⟩
        intro other member
        rcases List.mem_cons.mp member with rfl | later
        · exact ⟨kept.visited seen, by rw [kept.onStack]; exact away⟩
        · exact covered other later
      · split at finished
        · next middle looking =>
          obtain ⟨first, found⟩ := looked looking
          obtain ⟨kept, covered⟩ := ih finished
          refine ⟨⟨kept.onStack.trans first.onStack, fun _ member => kept.visited (first.visited member)⟩, ?_⟩
          intro other member
          rcases List.mem_cons.mp member with rfl | later
          · exact ⟨kept.visited found, by rw [kept.onStack, first.onStack]; exact away⟩
          · exact covered other later
        · next stopped neither => exact absurd finished (neither after)

theorem visit_kept (finished : visit next depth node search = some (.finished after)) :
    Kept search after ∧ node ∈ after.visited := by
  induction depth generalizing node search after with
  | zero => cases finished
  | succ depth ih =>
    obtain ⟨inner, scanned, rfl⟩ := visit_succ finished
    obtain ⟨kept, _⟩ := scan_kept ih scanned
    constructor
    · constructor
      · simp only [kept.onStack, List.erase_cons_head]
      · intro other member
        exact kept.visited (List.mem_cons_of_mem _ member)
    · exact kept.visited List.mem_cons_self

def Settled (next : Node → List Node) (search : Search Node) : Prop :=
  ∀ node ∈ search.visited, node ∉ search.onStack → Acc (fun later earlier => later ∈ next earlier) node

theorem scan_settled
    (looked : ∀ {target search after}, Settled next search → look target search = some (.finished after) →
      Settled next after)
    (settled : Settled next search) (finished : scan look targets search = some (.finished after)) :
    Settled next after := by
  induction targets generalizing search with
  | nil =>
    cases finished
    exact settled
  | cons target rest ih =>
    unfold scan at finished
    split at finished
    · cases finished
    · split at finished
      · exact ih settled finished
      · split at finished
        · next middle looking => exact ih (looked settled looking) finished
        · next stopped neither => exact absurd finished (neither after)

theorem visit_settled (settled : Settled next search)
    (finished : visit next depth node search = some (.finished after)) : Settled next after := by
  induction depth generalizing node search after with
  | zero => cases finished
  | succ depth ih =>
    obtain ⟨inner, scanned, rfl⟩ := visit_succ finished
    -- nothing is claimed of the node while it is on the stack
    have entered : Settled next { visited := node :: search.visited, onStack := node :: search.onStack } := by
      intro other member off
      rw [List.mem_cons, not_or] at off
      exact settled other ((List.mem_cons.mp member).resolve_left off.1) off.2
    have inside := scan_settled ih entered scanned
    obtain ⟨kept, covered⟩ := scan_kept visit_kept scanned
    intro other member off
    simp only [kept.onStack, List.erase_cons_head] at off
    -- the node itself leaves the stack here; all it leads to was settled before
    by_cases same : other = node
    · subst same
      constructor
      intro later follows
      exact inside later (covered later follows).1 (covered later follows).2
    · apply inside other member
      rw [kept.onStack, List.mem_cons, not_or]
      exact ⟨same, off⟩

theorem acc_of_finished (finished : visit next depth start {} = some (.finished after)) :
    Acc (fun later earlier => later ∈ next earlier) start := by
  have settled : Settled next ({} : Search Node) := fun _ member => absurd member List.not_mem_nil
  obtain ⟨kept, found⟩ := visit_kept finished
  apply visit_settled settled finished start found
  rw [kept.onStack]
  exact List.not_mem_nil

omit [DecidableEq Node] in
theorem irreflexive_of_acc (ends : Acc (fun later earlier => later ∈ next earlier) start) :
    ¬ Relation.TransGen (fun earlier later => later ∈ next earlier) start start := by
  intro loops
  have accessible := ends.transGen
  clear ends
  induction accessible with
  | intro node _ ih => exact ih node (Relation.transGen_swap.mpr loops) loops

section Cycles

variable {found : Node}

theorem scan_cycle {cyclic : Prop}
    (kept : ∀ {target search after}, look target search = some (.finished after) → Kept search after)
    (again : ∀ target ∈ targets, target ∈ search.onStack → found = target → cyclic)
    (deeper : ∀ target ∈ targets, ∀ current : Search Node, current.onStack = search.onStack →
      look target current = some (.cycleAt found) → cyclic)
    (stopped : scan look targets search = some (.cycleAt found)) : cyclic := by
  induction targets generalizing search with
  | nil => cases stopped
  | cons target rest ih =>
    have onward : ∀ current : Search Node, current.onStack = search.onStack →
        scan look rest current = some (.cycleAt found) → cyclic := by
      intro current same
      apply ih
      · intro other member on
        exact again other (List.mem_cons_of_mem _ member) (by rw [← same]; exact on)
      · intro other member later alike
        exact deeper other (List.mem_cons_of_mem _ member) later (alike.trans same)
    unfold scan at stopped
    split at stopped
    · next on =>
      cases stopped
      exact again _ List.mem_cons_self on rfl
    · split at stopped
      · exact onward search rfl stopped
      · split at stopped
        · next middle looking => exact onward middle (kept looking).onStack stopped
        · exact deeper target List.mem_cons_self search rfl stopped

/-- The stack is a path to the node, so a target found on it closes a cycle. -/
theorem visit_cycle (reached : Relation.ReflTransGen (Leads next) start node)
    (path : ∀ above ∈ search.onStack, Relation.ReflTransGen (Leads next) start above ∧
      Relation.ReflTransGen (Leads next) above node)
    (stopped : visit next depth node search = some (.cycleAt found)) :
    Relation.ReflTransGen (Leads next) start found ∧
      Relation.TransGen (Leads next) found found := by
  induction depth generalizing node search with
  | zero => cases stopped
  | succ depth ih =>
    have stack : ∀ above ∈ node :: search.onStack,
        Relation.ReflTransGen (Leads next) start above ∧
          Relation.ReflTransGen (Leads next) above node := by
      intro above member
      rcases List.mem_cons.mp member with rfl | later
      · exact ⟨reached, .refl⟩
      · exact path above later
    unfold visit at stopped
    split at stopped
    · cases stopped
    · refine scan_cycle (fun finished => (visit_kept finished).1) ?_ ?_ stopped
      · rintro target follows member rfl
        exact ⟨(stack _ member).1, .tail' (stack _ member).2 follows⟩
      · intro target follows current same stops
        refine ih (reached.tail follows) ?_ stops
        intro above member
        rw [same] at member
        exact ⟨(stack above member).1, (stack above member).2.tail follows⟩

end Cycles

variable {nodes : List Node}

theorem scan_enough
    (kept : ∀ {target search after}, look target search = some (.finished after) → Kept search after)
    (enough : ∀ target ∈ targets, ∀ {current : Search Node}, current.onStack = search.onStack →
      target ∉ current.onStack → look target current ≠ none) :
    scan look targets search ≠ none := by
  induction targets generalizing search with
  | nil => exact Option.some_ne_none _
  | cons target rest ih =>
    have later : ∀ target ∈ rest, ∀ {current : Search Node}, current.onStack = search.onStack →
        target ∉ current.onStack → look target current ≠ none := by
      intro other member
      exact enough other (List.mem_cons_of_mem _ member)
    unfold scan
    split
    · exact Option.some_ne_none _
    · next away =>
      split
      · exact ih later
      · cases looked : look target search with
        | none => exact absurd looked (enough target List.mem_cons_self rfl away)
        | some outcome =>
          cases outcome with
          | cycleAt node => exact Option.some_ne_none _
          | finished middle =>
            apply ih
            intro other member current same off
            exact later other member (same.trans (kept looked).onStack) off

theorem visit_enough (closed : ∀ node ∈ nodes, next node ⊆ nodes)
    (deep : nodes.length < depth + search.onStack.length)
    (distinct : (node :: search.onStack).Nodup) (inside : node :: search.onStack ⊆ nodes) :
    visit next depth node search ≠ none := by
  induction depth generalizing node search with
  | zero =>
    -- no node is on the stack twice, so the stack is never longer than the list of nodes
    have fits := (List.subperm_of_subset distinct inside).length_le
    rw [List.length_cons] at fits
    omega
  | succ depth ih =>
    have scanned : scan (visit next depth) (next node)
        { visited := node :: search.visited, onStack := node :: search.onStack } ≠ none := by
      apply scan_enough
      · intro target search after finished
        exact (visit_kept finished).1
      · intro target member current same off
        apply ih
        · rw [same, List.length_cons]
          omega
        · rw [same] at off ⊢
          exact List.nodup_cons.mpr ⟨off, distinct⟩
        · rw [same]
          exact List.cons_subset.mpr ⟨closed node (inside List.mem_cons_self) member, inside⟩
    unfold visit
    split
    · exact Option.some_ne_none _
    · exact scanned

end DepthFirst

structure Frontier (Node : Type) where
  visited : List Node
  queue : List Node

def Frontier.meet (frontier : Frontier Node) (target : Node) : Frontier Node :=
  if target ∈ frontier.visited then frontier
  else { visited := frontier.visited ++ [target], queue := frontier.queue ++ [target] }

/-- The breadth-first search, as long as the queue and the steps last. -/
def collect (next : Node → List Node) : Nat → Frontier Node → List Node
  | 0, frontier => frontier.visited
  | steps + 1, frontier =>
    match frontier.queue with
    | [] => frontier.visited
    | current :: queue => collect next steps ((next current).foldl Frontier.meet { frontier with queue })

section BreadthFirst

variable {next : Node → List Node} {nodes : List Node} {frontier : Frontier Node}

structure Frontier.Sound (next : Node → List Node) (nodes pending : List Node) (frontier : Frontier Node) : Prop where
  distinct : frontier.visited.Nodup
  inside : frontier.visited ⊆ nodes
  queued : frontier.queue ⊆ frontier.visited
  looked : ∀ node ∈ frontier.visited, node ∈ frontier.queue ∨ next node ⊆ frontier.visited ++ pending

theorem Frontier.Sound.meet {target : Node} {pending : List Node} (inside : target ∈ nodes)
    (sound : frontier.Sound next nodes (target :: pending)) : (frontier.meet target).Sound next nodes pending := by
  unfold Frontier.meet
  split
  · next seen =>
    refine { sound with looked := ?_ }
    intro node member
    refine (sound.looked node member).imp_right ?_
    intro covered later follows
    rcases List.mem_append.mp (covered follows) with met | waiting
    · exact List.mem_append_left _ met
    · rcases List.mem_cons.mp waiting with rfl | rest
      · exact List.mem_append_left _ seen
      · exact List.mem_append_right _ rest
  · next fresh =>
    constructor
    · exact List.nodup_append.mpr ⟨sound.distinct, List.nodup_singleton _, by
        intro earlier member last same
        rw [List.mem_singleton.mp same] at *
        rintro rfl
        exact fresh member⟩
    · exact List.append_subset.mpr ⟨sound.inside, List.cons_subset.mpr ⟨inside, List.nil_subset _⟩⟩
    · intro node member
      rcases List.mem_append.mp member with queued | last
      · exact List.mem_append_left _ (sound.queued queued)
      · exact List.mem_append_right _ last
    · intro node member
      rcases List.mem_append.mp member with old | new
      · refine (sound.looked node old).imp (List.mem_append_left _) ?_
        intro covered later follows
        simpa only [List.append_assoc, List.singleton_append] using covered follows
      · exact .inl (List.mem_append_right _ new)

theorem Frontier.length_meet {target : Node} :
    (frontier.meet target).queue.length + frontier.visited.length =
      frontier.queue.length + (frontier.meet target).visited.length := by
  unfold Frontier.meet
  split
  · rfl
  · simp only [List.length_append]
    omega

theorem Frontier.visited_subset_meet {target : Node} : frontier.visited ⊆ (frontier.meet target).visited := by
  unfold Frontier.meet
  split
  · exact List.Subset.refl _
  · exact List.subset_append_left _ _

theorem Frontier.Sound.foldl_meet {targets : List Node} (inside : targets ⊆ nodes)
    (sound : frontier.Sound next nodes targets) :
    (targets.foldl Frontier.meet frontier).Sound next nodes [] ∧
      (targets.foldl Frontier.meet frontier).queue.length + frontier.visited.length =
        frontier.queue.length + (targets.foldl Frontier.meet frontier).visited.length ∧
      frontier.visited ⊆ (targets.foldl Frontier.meet frontier).visited := by
  induction targets generalizing frontier with
  | nil => exact ⟨sound, rfl, List.Subset.refl _⟩
  | cons target rest ih =>
    obtain ⟨head, tail⟩ := List.cons_subset.mp inside
    obtain ⟨kept, balance, grown⟩ := ih tail (sound.meet head)
    have met := @Frontier.length_meet _ _ frontier target
    rw [List.foldl_cons]
    refine ⟨kept, ?_, List.Subset.trans Frontier.visited_subset_meet grown⟩
    omega

/-- With steps enough for every node of the graph the queue runs empty, and what is collected leads
nowhere else. -/
theorem collect_closed {steps : Nat} (closed : ∀ node ∈ nodes, next node ⊆ nodes)
    (sound : frontier.Sound next nodes [])
    (enough : nodes.length + frontier.queue.length ≤ steps + frontier.visited.length) :
    frontier.visited ⊆ collect next steps frontier ∧
      ∀ node ∈ collect next steps frontier, next node ⊆ collect next steps frontier := by
  have done : ∀ {frontier : Frontier Node}, frontier.Sound next nodes [] → frontier.queue = [] →
      ∀ node ∈ frontier.visited, next node ⊆ frontier.visited := by
    intro frontier sound empty node member
    have looked := sound.looked node member
    rw [empty, List.append_nil] at looked
    exact looked.resolve_left List.not_mem_nil
  induction steps generalizing frontier with
  | zero =>
    have fits := (List.subperm_of_subset sound.distinct sound.inside).length_le
    have empty : frontier.queue = [] := by
      rw [← List.length_eq_zero_iff]
      omega
    exact ⟨List.Subset.refl _, done sound empty⟩
  | succ steps ih =>
    unfold collect
    split
    · next empty => exact ⟨List.Subset.refl _, done sound empty⟩
    · next current queue waiting =>
      have member : current ∈ frontier.visited := sound.queued (by rw [waiting]; exact List.mem_cons_self)
      -- `current` leaves the queue, and what it leads to is pending until the fold has met it
      have popped : ({ frontier with queue } : Frontier Node).Sound next nodes (next current) := by
        refine { sound with queued := ?_, looked := ?_ }
        · intro node later
          exact sound.queued (by rw [waiting]; exact List.mem_cons_of_mem _ later)
        · intro node visited
          have looked := sound.looked node visited
          rw [waiting, List.append_nil, List.mem_cons] at looked
          rcases looked with (rfl | later) | covered
          · exact .inr (List.subset_append_right _ _)
          · exact .inl later
          · exact .inr (List.Subset.trans covered (List.subset_append_left _ _))
      obtain ⟨kept, balance, grown⟩ := popped.foldl_meet (closed current (sound.inside member))
      have shorter : frontier.queue.length = queue.length + 1 := by rw [waiting, List.length_cons]
      obtain ⟨covers, rest⟩ := ih kept (by simp only at balance; omega)
      exact ⟨List.Subset.trans grown covers, rest⟩

/-- What holds of the nodes to begin with and passes on to all they lead to holds of all that is collected. -/
theorem collect_all {holds : Node → Prop} {steps : Nat}
    (passes : ∀ node, holds node → ∀ target ∈ next node, holds target)
    (visited : ∀ node ∈ frontier.visited, holds node) (queued : ∀ node ∈ frontier.queue, holds node) :
    ∀ node ∈ collect next steps frontier, holds node := by
  have met : ∀ (targets : List Node) (frontier : Frontier Node), (∀ node ∈ targets, holds node) →
      (∀ node ∈ frontier.visited, holds node) → (∀ node ∈ frontier.queue, holds node) →
      (∀ node ∈ (targets.foldl Frontier.meet frontier).visited, holds node) ∧
        ∀ node ∈ (targets.foldl Frontier.meet frontier).queue, holds node := by
    intro targets
    induction targets with
    | nil => exact fun _ _ visited queued => ⟨visited, queued⟩
    | cons target rest ih =>
      intro frontier each visited queued
      obtain ⟨here, later⟩ := List.forall_mem_cons.mp each
      apply ih _ later
      all_goals
        unfold Frontier.meet
        split
      · exact visited
      · exact List.forall_mem_append.mpr ⟨visited, List.forall_mem_singleton.mpr here⟩
      · exact queued
      · exact List.forall_mem_append.mpr ⟨queued, List.forall_mem_singleton.mpr here⟩
  induction steps generalizing frontier with
  | zero => exact visited
  | succ steps ih =>
    unfold collect
    split
    · exact visited
    · next current queue waiting =>
      rw [waiting] at queued
      obtain ⟨here, later⟩ := List.forall_mem_cons.mp queued
      obtain ⟨seen, waits⟩ := met (next current) { frontier with queue } (passes current here) visited later
      exact ih seen waits

end BreadthFirst

end LocalCrm.Library
