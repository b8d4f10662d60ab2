import LocalCrm.Redaction.Completeness

/-! Values that redaction gives back as they are. -/

set_option autoImplicit false

namespace LocalCrm.Redaction

open Library Library.JsonText

section Equality

variable {left right other : Heap} {one two : Value} {related wider : Value → Value → Prop}

def SameValue (left right : Heap) (one two : Value) : Prop :=
  ∃ related : Value → Value → Prop, related one two ∧ ∀ one two, related one two → Alike left right related one two

theorem getElem?_grown {ref : Ref} {obj : Obj} (stored : right[ref]? = some obj) (grown : right <+: other) :
    other[ref]? = some obj := by
  obtain ⟨more, rfl⟩ := grown
  rw [List.getElem?_append_left (List.getElem?_eq_some_iff.mp stored).1]
  exact stored

theorem Alike.mono (alike : Alike left right related one two) (grown : right <+: other)
    (more : ∀ one two, related one two → wider one two) : Alike left other wider one two := by
  cases alike with
  | same value flat => exact .same _ flat
  | array first second parts => exact .array first (getElem?_grown second grown) (parts.imp more)
  | plain first second keys parts => exact .plain first (getElem?_grown second grown) keys (parts.imp more)
  | error first second keys parts => exact .error first (getElem?_grown second grown) keys (parts.imp more)

theorem SameValue.alike (same : SameValue left right one two) : Alike left right (SameValue left right) one two := by
  obtain ⟨related, holds, closed⟩ := same
  exact (closed one two holds).mono List.prefix_rfl fun first second again => ⟨related, again, closed⟩

theorem SameValue.of_alike (alike : Alike left right (SameValue left right) one two) :
    SameValue left right one two := by
  refine ⟨fun first second => SameValue left right first second ∨ first = one ∧ second = two, .inr ⟨rfl, rfl⟩, ?_⟩
  rintro first second (same | ⟨rfl, rfl⟩)
  · exact same.alike.mono List.prefix_rfl fun _ _ => .inl
  · exact alike.mono List.prefix_rfl fun _ _ => .inl

theorem SameValue.flat (value : Value) (flat : value.refs = []) : SameValue left right value value :=
  .of_alike (.same value flat)

theorem SameValue.grow (same : SameValue left right one two) (grown : right <+: other) :
    SameValue left other one two := by
  obtain ⟨related, holds, closed⟩ := same
  exact ⟨related, holds, fun first second again => (closed first second again).mono grown fun _ _ => id⟩

end Equality

section Written

theorem WritesOut.grow {heap other : Heap} {value : Value} {refs : List Ref} (grown : heap <+: other)
    (written : WritesOut heap value refs) : WritesOut other value refs := by
  -- by the derivation of a value together with those of its parts
  apply @WritesOut.rec heap (fun value refs _ => WritesOut other value refs)
    (fun values refs _ => WritesOutAll other values refs)
  · exact fun value flat => .flat value flat
  · exact fun stored _ parts => .object (getElem?_grown stored grown) parts
  · exact .nil
  · exact fun _ _ head tail => .cons head tail
  · exact written

theorem WritesOutAll.grow {heap other : Heap} {values : List Value} {refs : List Ref} (grown : heap <+: other)
    (written : WritesOutAll heap values refs) : WritesOutAll other values refs := by
  induction values generalizing refs with
  | nil =>
    cases written
    exact .nil
  | cons value rest ih =>
    cases written with
    | cons head tail => exact .cons (head.grow grown) (ih tail)

end Written

section Settled

def SettledValue : Value → Prop
  | .string text => matchesValuePattern text = false
  | .undefined | .null | .primitive _ | .object _ => True

def SettledObj : Obj → Prop
  | .array items => ∀ value ∈ items, SettledValue value
  | .plain _ fields => ∀ field ∈ fields, field.1 ≠ prototypeKey ∧ SettledValue field.2 ∧
      (matchesKeyRule field.1 = true → field.2 = .string censor)
  | .error _ _ _ _ => False

variable {heap : Heap} {walk after : Walk} {value result : Value} {refs : List Ref}

structure Untouched (heap : Heap) (walk : Walk) (refs : List Ref) : Prop where
  kept : heap <+: walk.heap
  distinct : refs.Nodup
  new : ∀ ref ∈ refs, ref ∉ walk.seen
  settled : ∀ ref ∈ refs, ∀ obj, heap[ref]? = some obj → SettledObj obj

structure CopiedAs (heap : Heap) (walk after : Walk) (refs : List Ref) (value result : Value) : Prop where
  same : SameValue heap after.heap value result
  met : ∀ ref ∈ after.seen, ref ∈ walk.seen ∨ ref ∈ refs

theorem forEach_settled {Item Result : Type} {step : Item → Walk → Option (Result × Walk)} {items : List Item}
    {results : List Result} (part : Item → Value) (image : Result → Value) (grows : Grows step)
    (each : ∀ item ∈ items, ∀ walk refs result after, WritesOut heap (part item) refs → Untouched heap walk refs →
      step item walk = some (result, after) → CopiedAs heap walk after refs (part item) (image result))
    (written : WritesOutAll heap (items.map part) refs) (untouched : Untouched heap walk refs)
    (walked : forEach step items walk = some (results, after)) :
    List.Forall₂ (SameValue heap after.heap) (items.map part) (results.map image) ∧
      ∀ ref ∈ after.seen, ref ∈ walk.seen ∨ ref ∈ refs := by
  induction items generalizing walk results refs with
  | nil =>
    obtain ⟨rfl, rfl⟩ := Prod.mk.inj (Option.some.inj walked)
    exact ⟨.nil, fun _ => .inl⟩
  | cons item rest ih =>
    obtain ⟨first, middle, others, stepped, continued, rfl⟩ := forEach_cons walked
    cases written with
    | @cons _ _ own later head tail =>
      obtain ⟨ownDistinct, laterDistinct, apart⟩ := List.nodup_append.mp untouched.distinct
      have now : Untouched heap walk own :=
        ⟨untouched.kept, ownDistinct, fun ref member => untouched.new ref (List.mem_append_left _ member),
          fun ref member => untouched.settled ref (List.mem_append_left _ member)⟩
      obtain ⟨same, met⟩ := each item List.mem_cons_self walk own first middle head now stepped
      have then_ : Untouched heap middle later := by
        refine ⟨untouched.kept.trans (grows _ _ _ _ stepped), laterDistinct, ?_,
          fun ref member => untouched.settled ref (List.mem_append_right _ member)⟩
        intro ref member seen
        rcases met ref seen with old | mine
        · exact untouched.new ref (List.mem_append_right _ member) old
        · exact apart ref mine ref member rfl
      obtain ⟨sames, onward⟩ := ih (fun other member => each other (List.mem_cons_of_mem _ member)) tail then_ continued
      refine ⟨.cons (same.grow (forEach_grows grows _ _ _ _ continued)) sames, ?_⟩
      intro ref seen
      rcases onward ref seen with before | mine
      · exact (met ref before).imp_right (List.mem_append_left _)
      · exact .inr (List.mem_append_right _ mine)

theorem forEach_keys {scrub : Value → Walk → Option (Value × Walk)} {fields done : List (Text × Value)}
    (walked : forEach (scrubField scrub) fields walk = some (done, after)) :
    done.map Prod.fst = fields.map Prod.fst := by
  induction fields generalizing walk done with
  | nil =>
    obtain ⟨rfl, rfl⟩ := Prod.mk.inj (Option.some.inj walked)
    rfl
  | cons field rest ih =>
    obtain ⟨first, middle, others, stepped, continued, rfl⟩ := forEach_cons walked
    rw [List.map_cons, List.map_cons, (scrubField_cases stepped).1, ih continued]

theorem assigned_of_keys {fields : List (Text × Value)} (ordinary : ∀ key ∈ fields.map Prod.fst, key ≠ prototypeKey) :
    assigned fields = fields := by
  apply List.filter_eq_self.mpr
  intro field member
  exact bne_iff_ne.mpr (ordinary field.1 (List.mem_map_of_mem member))

theorem scrubObject_settled {scrub : Value → Walk → Option (Value × Walk)} {ref : Ref} {obj copy : Obj}
    (grows : Grows scrub)
    (each : ∀ value refs walk result after, WritesOut heap value refs → SettledValue value →
      Untouched heap walk refs → scrub value walk = some (result, after) → CopiedAs heap walk after refs value result)
    (written : WritesOutAll heap obj.parts refs) (settled : SettledObj obj) (untouched : Untouched heap walk refs)
    (stored : heap[ref]? = some obj) (copied : scrubObject scrub obj walk = some (copy, after)) :
    Alike heap (after.alloc copy).2.heap (SameValue heap (after.alloc copy).2.heap) (.object ref)
        (after.alloc copy).1 ∧
      ∀ ref ∈ after.seen, ref ∈ walk.seen ∨ ref ∈ refs := by
  have grown : after.heap <+: (after.alloc copy).2.heap := List.prefix_append _ _
  have placed : (after.alloc copy).2.heap[after.heap.length]? = some copy := List.getElem?_concat_length
  cases copies_of_scrubObject copied with
  | error walked => exact settled.elim
  | @array items done walked =>
    have step : ∀ item ∈ items, ∀ walk refs result after, WritesOut heap item refs → Untouched heap walk refs →
        scrub item walk = some (result, after) → CopiedAs heap walk after refs item result :=
      fun item member walk refs result after written untouched =>
        each item refs walk result after written (settled item member) untouched
    obtain ⟨same, met⟩ := forEach_settled (fun item => item) (fun result => result) grows step
      (by rw [List.map_id']; exact written) untouched walked
    rw [List.map_id', List.map_id'] at same
    exact ⟨.array stored placed (same.imp fun _ _ => (·.grow grown)), met⟩
  | @plain prototype fields done walked =>
    have step : ∀ field ∈ fields, ∀ walk refs result after, WritesOut heap field.2 refs → Untouched heap walk refs →
        scrubField scrub field walk = some (result, after) → CopiedAs heap walk after refs field.2 result.2 := by
      intro field member walk refs result after written untouched stepped
      obtain ⟨_, value, censored⟩ := settled field member
      obtain ⟨_, ⟨ruled, replaced, rfl⟩ | ⟨_, entered⟩⟩ := scrubField_cases stepped
      · rw [replaced, censored ruled]
        exact ⟨.flat _ rfl, fun _ => .inl⟩
      · exact each _ _ _ _ _ written value untouched entered
    obtain ⟨same, met⟩ := forEach_settled Prod.snd Prod.snd (scrubField_grows grows) step written untouched walked
    have keys := forEach_keys walked
    have ordinary : ∀ key ∈ done.map Prod.fst, key ≠ prototypeKey := by
      rw [keys]
      intro key listed
      obtain ⟨field, member, rfl⟩ := List.mem_map.mp listed
      exact (settled field member).1
    have all : assigned done = done := assigned_of_keys ordinary
    have later := same.imp fun _ _ => (SameValue.grow · grown)
    refine ⟨.plain stored placed ?_ ?_, met⟩
    · rw [all, keys]
    · have values : (assigned done).map Prod.snd = done.map Prod.snd := by rw [all]
      rw [values]
      exact later

theorem scrubInternal_settled {fuel : Nat} (written : WritesOut heap value refs) (plain : SettledValue value)
    (untouched : Untouched heap walk refs) (done : scrubInternal fuel value walk = some (result, after)) :
    CopiedAs heap walk after refs value result := by
  apply scrubInternal_rule (fun value walk pair => ∀ refs, WritesOut heap value refs → SettledValue value →
    Untouched heap walk refs → CopiedAs heap walk pair.2 refs value pair.1) _ done refs written plain untouched
  intro scrub grows each value walk pair scrubs refs written plain untouched
  cases scrubs with
  | flat value flat other => exact ⟨.flat _ flat, fun _ => .inl⟩
  | text text =>
    have unmatched : matchesValuePattern text = false := plain
    rw [redactText, unmatched]
    exact ⟨.flat _ rfl, fun _ => .inl⟩
  | @again ref met =>
    cases written with
    | flat _ flat => cases flat
    | object stored parts => exact absurd met (untouched.new ref List.mem_cons_self)
  | @copied ref obj copy inner new stored copied =>
    cases written with
    | flat _ flat => cases flat
    | @object _ original inside first parts =>
      obtain rfl := Option.some.inj ((getElem?_grown first untouched.kept).symm.trans stored)
      obtain ⟨outside, distinct⟩ := List.nodup_cons.mp untouched.distinct
      have settled := untouched.settled ref List.mem_cons_self original first
      have entered : Untouched heap { walk with seen := ref :: walk.seen } inside := by
        refine ⟨untouched.kept, distinct, ?_,
          fun next member => untouched.settled next (List.mem_cons_of_mem _ member)⟩
        intro next member seen
        rcases List.mem_cons.mp seen with rfl | before
        · exact outside member
        · exact untouched.new next (List.mem_cons_of_mem _ member) before
      have below := fun value refs walk result after written plain untouched done =>
        each value walk (result, after) done refs written plain untouched
      obtain ⟨alike, met⟩ := scrubObject_settled grows below parts settled entered first copied
      refine ⟨.of_alike alike, ?_⟩
      intro next seen
      rcases met next seen with before | mine
      · exact (List.mem_cons.mp before).elim (fun same => .inr (same ▸ List.mem_cons_self)) .inl
      · exact .inr (List.mem_cons_of_mem _ mine)

end Settled

section Copied

variable {walk after : Walk} {value result : Value} {refs : List Ref}

structure MadeBetween (walk after : Walk) (refs : List Ref) : Prop where
  distinct : refs.Nodup
  new : ∀ ref ∈ refs, walk.heap.length ≤ ref
  inside : ∀ ref ∈ refs, ref < after.heap.length

theorem madeBetween_nil (walk after : Walk) : MadeBetween walk after [] :=
  ⟨List.nodup_nil, fun _ member => absurd member List.not_mem_nil, fun _ member => absurd member List.not_mem_nil⟩

theorem MadeBetween.append {middle : Walk} {first rest : List Ref} (one : MadeBetween walk middle first)
    (two : MadeBetween middle after rest) (grown : walk.heap <+: middle.heap) (more : middle.heap <+: after.heap) :
    MadeBetween walk after (first ++ rest) where
  distinct := by
    apply List.nodup_append.mpr ⟨one.distinct, two.distinct, ?_⟩
    intro ref early other late
    have before := one.inside ref early
    have behind := two.new other late
    exact Nat.ne_of_lt (before.trans_le behind)
  new ref member := by
    rcases List.mem_append.mp member with early | late
    · exact one.new ref early
    · exact grown.length_le.trans (two.new ref late)
  inside ref member := by
    rcases List.mem_append.mp member with early | late
    · exact (one.inside ref early).trans_le more.length_le
    · exact two.inside ref late

theorem MadeBetween.of_later {middle : Walk} (made : MadeBetween middle after refs)
    (grown : walk.heap <+: middle.heap) : MadeBetween walk after refs :=
  ⟨made.distinct, fun ref member => grown.length_le.trans (made.new ref member), made.inside⟩

theorem MadeBetween.alloc (made : MadeBetween walk after refs) (grown : walk.heap <+: after.heap) (copy : Obj) :
    MadeBetween walk (after.alloc copy).2 (after.heap.length :: refs) where
  distinct := List.nodup_cons.mpr ⟨fun member => Nat.lt_irrefl _ (made.inside _ member), made.distinct⟩
  new := List.forall_mem_cons.mpr ⟨grown.length_le, made.new⟩
  inside ref member := by
    have longer : (after.alloc copy).2.heap.length = after.heap.length + 1 := List.length_append
    rw [longer]
    rcases List.mem_cons.mp member with rfl | old
    · exact Nat.lt_succ_self _
    · exact (made.inside ref old).trans (Nat.lt_succ_self _)

theorem forEach_writesOut {Item Result : Type} {step : Item → Walk → Option (Result × Walk)} {items : List Item}
    {results : List Result} (image : Result → Value) (keep : Result → Bool) (grows : Grows step)
    (each : ∀ item ∈ items, ∀ walk result after, step item walk = some (result, after) →
      ∃ refs, WritesOut after.heap (image result) refs ∧ MadeBetween walk after refs)
    (walked : forEach step items walk = some (results, after)) :
    ∃ refs, WritesOutAll after.heap ((results.filter keep).map image) refs ∧ MadeBetween walk after refs := by
  induction items generalizing walk results with
  | nil =>
    obtain ⟨rfl, rfl⟩ := Prod.mk.inj (Option.some.inj walked)
    exact ⟨[], .nil, madeBetween_nil _ _⟩
  | cons item rest ih =>
    obtain ⟨first, middle, others, stepped, continued, rfl⟩ := forEach_cons walked
    have grown : walk.heap <+: middle.heap := grows _ _ _ _ stepped
    have more : middle.heap <+: after.heap := forEach_grows grows _ _ _ _ continued
    obtain ⟨own, head, one⟩ := each item List.mem_cons_self walk first middle stepped
    obtain ⟨later, tail, two⟩ := ih (fun other member => each other (List.mem_cons_of_mem _ member)) continued
    rw [List.filter_cons]
    split
    · exact ⟨own ++ later, .cons (head.grow more) tail, one.append two grown more⟩
    · exact ⟨later, tail, two.of_later grown⟩

theorem scrubObject_writesOut {scrub : Value → Walk → Option (Value × Walk)} {obj copy : Obj} (grows : Grows scrub)
    (each : ∀ value walk result after, scrub value walk = some (result, after) →
      ∃ refs, WritesOut after.heap result refs ∧ MadeBetween walk after refs)
    (copied : scrubObject scrub obj walk = some (copy, after)) :
    ∃ refs, WritesOutAll after.heap copy.parts refs ∧ MadeBetween walk after refs := by
  have step : ∀ field walk result after, scrubField scrub field walk = some (result, after) →
      ∃ refs, WritesOut after.heap result.2 refs ∧ MadeBetween walk after refs := by
    intro field walk result after stepped
    obtain ⟨_, ⟨_, censored, rfl⟩ | ⟨_, entered⟩⟩ := scrubField_cases stepped
    · rw [censored]
      exact ⟨[], .flat _ rfl, madeBetween_nil _ _⟩
    · exact each _ _ _ _ entered
  cases copies_of_scrubObject copied with
  | @array items done walked =>
    have shape := forEach_writesOut (fun result => result) (fun _ => true) grows (fun item _ => each item) walked
    rw [List.filter_true, List.map_id'] at shape
    exact shape
  | plain walked => exact forEach_writesOut Prod.snd _ (scrubField_grows grows) (fun field _ => step field) walked
  | @error name message stack own done walked =>
    obtain ⟨refs, written, made⟩ :=
      forEach_writesOut Prod.snd _ (scrubField_grows grows) (fun field _ => step field) walked
    have text : (stack.elim Value.undefined Value.string).refs = [] := by cases stack <;> rfl
    exact ⟨refs, .cons (.flat _ rfl) (.cons (.flat _ rfl) (.cons (.flat _ text) written)), made⟩

theorem scrubInternal_writesOut {fuel : Nat} (done : scrubInternal fuel value walk = some (result, after)) :
    ∃ refs, WritesOut after.heap result refs ∧ MadeBetween walk after refs := by
  apply scrubInternal_rule (fun _ walk pair => ∃ refs, WritesOut pair.2.heap pair.1 refs ∧
    MadeBetween walk pair.2 refs) _ done
  intro scrub grows each value walk pair scrubs
  cases scrubs with
  | flat value flat other => exact ⟨[], .flat _ flat, madeBetween_nil _ _⟩
  | text | again => exact ⟨[], .flat _ rfl, madeBetween_nil _ _⟩
  | @copied ref obj copy inner new stored copied =>
    obtain ⟨refs, written, made⟩ := scrubObject_writesOut grows (fun _ _ _ _ => each _ _ _) copied
    have grown : { walk with seen := ref :: walk.seen }.heap <+: inner.heap := scrubObject_grows grows _ _ _ _ copied
    have fresh : MadeBetween walk inner refs := ⟨made.distinct, made.new, made.inside⟩
    have placed : (inner.alloc copy).2.heap[inner.heap.length]? = some copy := List.getElem?_concat_length
    exact ⟨_, .object placed (written.grow (List.prefix_append _ _)), fresh.alloc grown copy⟩

end Copied

section Whole

variable {graph : ValueGraph} {refs : List Ref}

theorem structurallyEqual_of_settled (written : WritesOut graph.heap graph.root refs) (distinct : refs.Nodup)
    (root : SettledValue graph.root)
    (settled : ∀ ref ∈ refs, ∀ obj, graph.heap[ref]? = some obj → SettledObj obj) :
    StructurallyEqual graph (scrub graph) := by
  have start : Untouched graph.heap { heap := graph.heap } refs :=
    ⟨List.prefix_rfl, distinct, fun _ _ => List.not_mem_nil, settled⟩
  exact (scrubInternal_settled written root start (scrubInternal_scrubbed graph)).same

/-- A value without a cycle, of plain objects and arrays whose keys and strings match no rule. -/
structure Clean (graph : ValueGraph) (refs : List Ref) : Prop where
  acyclic : WritesOut graph.heap graph.root refs
  root : ∀ text, graph.root = .string text → matchesValuePattern text = false
  plain : ∀ ref ∈ refs, ∀ name message stack own, graph.heap[ref]? ≠ some (.error name message stack own)
  keys : ∀ ref ∈ refs, ∀ obj, graph.heap[ref]? = some obj → ∀ field ∈ obj.fields, matchesKeyRule field.1 = false
  strings : ∀ ref ∈ refs, ∀ obj, graph.heap[ref]? = some obj → ∀ text, .string text ∈ obj.parts →
    matchesValuePattern text = false

/-- No object has an own field `__proto__`. -/
def Assignable (graph : ValueGraph) (refs : List Ref) : Prop :=
  ∀ ref ∈ refs, ∀ obj, graph.heap[ref]? = some obj → ∀ field ∈ obj.fields, field.1 ≠ prototypeKey

theorem settledValue_of_unmatched {value : Value}
    (unmatched : ∀ text, value = .string text → matchesValuePattern text = false) : SettledValue value := by
  cases value with
  | string text => exact unmatched text rfl
  | undefined | null | primitive id | object ref => trivial

theorem Clean.settled (clean : Clean graph refs) (assignable : Assignable graph refs) :
    ∀ ref ∈ refs, ∀ obj, graph.heap[ref]? = some obj → SettledObj obj := by
  intro ref member obj stored
  have value : ∀ value ∈ obj.parts, SettledValue value := by
    intro value listed
    apply settledValue_of_unmatched
    rintro text rfl
    exact clean.strings ref member obj stored text listed
  cases obj with
  | array items => exact value
  | error name message stack own => exact clean.plain ref member _ _ _ _ stored
  | plain prototype fields =>
    intro field listed
    refine ⟨assignable ref member _ stored field listed, value _ (List.mem_map_of_mem listed), ?_⟩
    intro ruled
    rw [clean.keys ref member _ stored field listed] at ruled
    cases ruled

theorem settledValue_of_fit {value : Value} (fit : FitFor graph value)
    (quiet : ∀ text, ErrorText graph.heap graph.root text → matchesValuePattern text = false) :
    SettledValue value := by
  apply settledValue_of_unmatched
  rintro text rfl
  exact fit.elim id (quiet text)

theorem settledObj_of_copyOk {obj : Obj} (fit : CopyOk graph.heap.length (ErrorText graph.heap graph.root) obj)
    (quiet : ∀ text, ErrorText graph.heap graph.root text → matchesValuePattern text = false) : SettledObj obj := by
  cases obj with
  | array items => exact fun value listed => settledValue_of_fit (fit value listed) quiet
  | error name message stack own => exact fit.elim
  | plain prototype fields =>
    intro field listed
    obtain ⟨value, censored⟩ := fit.2.1 field listed
    exact ⟨fit.2.2 field listed, settledValue_of_fit value quiet, censored⟩

theorem scrub_idempotent (quiet : ∀ text, ErrorText graph.heap graph.root text → matchesValuePattern text = false) :
    StructurallyEqual (scrub graph) (scrub (scrub graph)) := by
  obtain ⟨sound, fit⟩ := scrubbed_sound graph
  obtain ⟨refs, written, made⟩ := scrubInternal_writesOut (scrubInternal_scrubbed graph)
  apply structurallyEqual_of_settled written made.distinct (settledValue_of_fit fit quiet)
  intro ref member obj stored
  exact settledObj_of_copyOk (sound.fresh ref obj (made.new ref member) stored) quiet

theorem scrubInternal_of_more {fuel : Nat} (enough : graph.heap.length < fuel) :
    scrubInternal fuel graph.root { heap := graph.heap } = some (scrubbed graph) :=
  scrubInternal_mono enough (scrubInternal_scrubbed graph)

/-- Clean values come back as they were, a second redaction changes nothing where errors leave no matched
text, and every walk ends. -/
theorem redaction_preserves :
    (∀ graph refs, Clean graph refs → refs.Nodup → Assignable graph refs → StructurallyEqual graph (scrub graph)) ∧
    (∀ graph : ValueGraph,
      (∀ text, ErrorText graph.heap graph.root text → matchesValuePattern text = false) →
        StructurallyEqual (scrub graph) (scrub (scrub graph))) ∧
    ∀ graph : ValueGraph, ∀ fuel > graph.heap.length,
      scrubInternal fuel graph.root { heap := graph.heap } = some (scrubbed graph) := by
  refine ⟨?_, fun graph quiet => scrub_idempotent quiet, fun graph fuel enough => scrubInternal_of_more enough⟩
  intro graph refs clean distinct assignable
  exact structurallyEqual_of_settled clean.acyclic distinct (settledValue_of_unmatched clean.root)
    (clean.settled assignable)

end Whole

section Examples

variable {left right : Heap} {related : Value → Value → Prop}

theorem Alike.of_string {one : Value} {text : Text} (alike : Alike left right related one (.string text)) :
    one = .string text := by
  cases alike with
  | same value flat => rfl

theorem Alike.parts {one two : Ref} {obj other : Obj} (alike : Alike left right related (.object one) (.object two))
    (first : left[one]? = some obj) (second : right[two]? = some other) :
    List.Forall₂ related obj.parts other.parts := by
  cases alike with
  | same value flat => cases flat
  | array here there parts | plain here there _ parts | error here there _ parts =>
    obtain rfl := Option.some.inj (first.symm.trans here)
    obtain rfl := Option.some.inj (second.symm.trans there)
    exact parts

/-- `{ plan: "pro", limits: [null] }` -/
def planned : ValueGraph where
  heap := [.plain none [(ascii "plan", .string (ascii "pro")), (ascii "limits", .object 1)], .array [.null]]
  root := .object 0
  rootInside := by
    rintro ref same
    rw [← Value.object.inj same]
    decide
  closed := by
    intro obj member ref listed
    rcases List.mem_cons.mp member with rfl | member
    · have one : ref = 1 := by simpa [Obj.values] using listed
      rw [one]
      decide
    · obtain rfl := List.mem_singleton.mp member
      simp [Obj.values] at listed

theorem planned_comes_back :
    StructurallyEqual planned (scrub planned) ∧ StructurallyEqual (scrub planned) (scrub (scrub planned)) := by
  have limits : WritesOut planned.heap (.object 1) [1] :=
    .object rfl (@WritesOutAll.cons _ _ _ [] [] (.flat _ rfl) .nil)
  have parts : WritesOut planned.heap planned.root [0, 1] :=
    .object rfl (@WritesOutAll.cons _ _ _ [] [1] (.flat _ rfl) (@WritesOutAll.cons _ _ _ [1] [] limits .nil))
  have objects : ∀ ref ∈ [0, 1], ∀ obj, planned.heap[ref]? = some obj → obj ∈ planned.heap :=
    fun _ _ _ => List.mem_of_getElem?
  have noError : ∀ name message stack own, .error name message stack own ∉ planned.heap := by
    intro name message stack own member
    simp [planned] at member
  have keys : ∀ obj ∈ planned.heap, ∀ field ∈ obj.fields,
      matchesKeyRule field.1 = false ∧ field.1 ≠ prototypeKey := by
    decide +kernel
  have strings : ∀ obj ∈ planned.heap, ∀ value ∈ obj.parts, value = .null ∨ value = .object 1 ∨
      value = .string (ascii "pro") := by
    decide +kernel
  constructor
  · apply redaction_preserves.1 planned [0, 1] ?_ (by decide) fun ref member obj stored field listed =>
      (keys obj (objects ref member obj stored) field listed).2
    refine ⟨parts, fun _ same => Value.noConfusion same, ?_, ?_, ?_⟩
    · exact fun ref member name message stack own stored => noError _ _ _ _ (objects ref member _ stored)
    · exact fun ref member obj stored field listed => (keys obj (objects ref member obj stored) field listed).1
    · intro ref member obj stored text listed
      rcases strings obj (objects ref member obj stored) _ listed with same | same | same
      · cases same
      · cases same
      · rw [Value.string.inj same]
        decide +kernel
  · apply redaction_preserves.2.1 planned
    rintro text ⟨ref, name, message, stack, own, _, stored, _⟩
    exact absurd (List.mem_of_getElem? stored) (noError _ _ _ _)

/-- `const part = {}; [part, part]` -/
def shared : ValueGraph where
  heap := [.plain none [], .array [.object 0, .object 0]]
  root := .object 1
  rootInside := by
    rintro ref same
    rw [← Value.object.inj same]
    decide
  closed := by
    intro obj member ref listed
    have zero : ref = 0 := by
      rcases List.mem_cons.mp member with rfl | member
      · cases listed
      · obtain rfl := List.mem_singleton.mp member
        simpa [Obj.values] using listed
    rw [zero]
    decide

/-- An object met before is taken for a cycle, and the stack left by one redaction is found by the next. -/
theorem part_becomes_marker :
    (¬ ∀ graph refs, Clean graph refs → StructurallyEqual graph (scrub graph)) ∧
      ¬ ∀ graph : ValueGraph, StructurallyEqual (scrub graph) (scrub (scrub graph)) := by
  constructor
  · intro always
    have clean : Clean shared [1, 0, 0] := by
      have objects : ∀ ref ∈ [1, 0, 0], ∀ obj, shared.heap[ref]? = some obj →
          obj = .plain none [] ∨ obj = .array [.object 0, .object 0] := by
        simp [shared]
      have part : WritesOut shared.heap (.object 0) [0] := .object rfl .nil
      have parts : WritesOutAll shared.heap [.object 0, .object 0] [0, 0] :=
        @WritesOutAll.cons _ _ _ [0] [0] part (@WritesOutAll.cons _ _ _ [0] [] part .nil)
      refine ⟨.object rfl parts, fun _ same => Value.noConfusion same, ?_, ?_, ?_⟩
      · intro ref member name message stack own stored
        rcases objects ref member _ stored with same | same <;> cases same
      · intro ref member obj stored field listed
        rcases objects ref member obj stored with rfl | rfl <;> cases listed
      · intro ref member obj stored text listed
        rcases objects ref member obj stored with rfl | rfl <;> simp [Obj.parts] at listed
    obtain ⟨related, root, closed⟩ := always shared _ clean
    have result : (scrub shared).root = .object 3 := by decide +kernel
    have stored : (scrub shared).heap[3]? = some (.array [.object 2, .string circularMarker]) := by decide +kernel
    have parts : List.Forall₂ related [.object 0, .object 0] [.object 2, .string circularMarker] :=
      (closed _ _ root).parts rfl stored
    cases parts with
    | cons _ rest =>
      cases rest with
      | cons twin _ => cases (closed _ _ twin).of_string
  · intro always
    obtain ⟨related, root, closed⟩ := always failedFor
    have first : (scrub failedFor).root = .object 1 := by decide +kernel
    have second : (scrub (scrub failedFor)).root = .object 2 := by decide +kernel
    have copied : (scrub failedFor).heap[1]? = some (errorCopy (ascii "Error") (ascii "failed for a@b.co")
        (some (ascii "Error: failed for a@b.co")) []) := by
      decide +kernel
    have again : (scrub (scrub failedFor)).heap[2]? = some (.plain none [(ascii "name", .string (ascii "Error")),
        (ascii "message", .string censor), (ascii "stack", .string censor)]) := by
      decide +kernel
    have parts := (closed _ _ root).parts copied again
    cases parts with
    | cons _ rest =>
      cases rest with
      | cons _ rest =>
        cases rest with
        | cons stack _ =>
          have same := Value.string.inj (closed _ _ stack).of_string
          exact absurd same (by decide +kernel)

end Examples

end LocalCrm.Redaction
