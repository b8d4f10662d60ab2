import LocalCrm.Redaction.Rules
import LocalCrm.Redaction.Values
import Mathlib.Data.List.Infix
import Mathlib.Data.List.Perm.Subperm
import Mathlib.Data.List.Range

/-! The walk that copies a value and redacts the copy.

Copies are appended to the heap, so the objects of the input keep their places.
-/

set_option autoImplicit false

namespace LocalCrm.Redaction

open Library Library.JsonText

def circularMarker : Text := ascii "[CIRCULAR]"

def prototypeKey : Text := ascii "__proto__"

structure Walk where
  heap : Heap
  seen : List Ref := []

def Walk.alloc (walk : Walk) (obj : Obj) : Value × Walk :=
  (.object walk.heap.length, { walk with heap := walk.heap ++ [obj] })

def forEach {Item Result : Type} (step : Item → Walk → Option (Result × Walk)) :
    List Item → Walk → Option (List Result × Walk)
  | [], walk => some ([], walk)
  | item :: rest, walk => do
    let first ← step item walk
    let others ← forEach step rest first.2
    return (first.1 :: others.1, others.2)

def scrubField (scrub : Value → Walk → Option (Value × Walk)) (field : Text × Value) (walk : Walk) :
    Option ((Text × Value) × Walk) :=
  if matchesKeyRule field.1 then some ((field.1, .string censor), walk)
  else (scrub field.2 walk).map fun done => ((field.1, done.1), done.2)

section Assignments

variable (fields : List (Text × Value))

def assigned : List (Text × Value) := fields.filter (·.1 != prototypeKey)

/-- What an assignment to `__proto__` makes the prototype, if it can be one. -/
def assignedPrototype : Option Value :=
  (fields.find? (·.1 == prototypeKey)).bind fun field =>
    match field.2 with
    | .object _ | .null => some field.2
    | .undefined | .primitive _ | .string _ => none

def errorKeys : List Text := ["name", "message", "stack"].map ascii

def extraFields : List (Text × Value) := fields.filter fun field => !(errorKeys.contains field.1)

end Assignments

def redactText (text : Text) : Text := if matchesValuePattern text then censor else text

def errorCopy (name message : Text) (stack : Option Text) (extras : List (Text × Value)) : Obj :=
  .plain none ((ascii "name", .string name) :: (ascii "message", .string (redactText message)) ::
    (ascii "stack", stack.elim .undefined .string) :: assigned extras)

def scrubObject (scrub : Value → Walk → Option (Value × Walk)) (obj : Obj) (walk : Walk) : Option (Obj × Walk) :=
  match obj with
  | .array items => (forEach scrub items walk).map fun done => (.array done.1, done.2)
  | .error name message stack own =>
    (forEach (scrubField scrub) (extraFields own) walk).map fun done => (errorCopy name message stack done.1, done.2)
  | .plain _ fields =>
    (forEach (scrubField scrub) fields walk).map fun done =>
      (.plain (assignedPrototype done.1) (assigned done.1), done.2)

/-- One call for each unit of fuel. -/
def scrubInternal : Nat → Value → Walk → Option (Value × Walk)
  | 0, _, _ => none
  | fuel + 1, value, walk =>
    match value with
    | .undefined | .null | .primitive _ => some (value, walk)
    | .string text => some (.string (redactText text), walk)
    | .object ref =>
      if ref ∈ walk.seen then some (.string circularMarker, walk)
      else do
        let obj ← walk.heap[ref]?
        let copy ← scrubObject (scrubInternal fuel) obj { walk with seen := ref :: walk.seen }
        return copy.2.alloc copy.1

/-- What one call can do. -/
inductive Scrubs (scrub : Value → Walk → Option (Value × Walk)) (walk : Walk) : Value → Value × Walk → Prop where
  | flat (value : Value) (flat : value.refs = []) (other : ∀ text, value ≠ .string text) :
    Scrubs scrub walk value (value, walk)
  | text (text : Text) : Scrubs scrub walk (.string text) (.string (redactText text), walk)
  | again {ref : Ref} (met : ref ∈ walk.seen) : Scrubs scrub walk (.object ref) (.string circularMarker, walk)
  | copied {ref : Ref} {obj copy : Obj} {after : Walk} (new : ref ∉ walk.seen) (stored : walk.heap[ref]? = some obj)
    (copied : scrubObject scrub obj { walk with seen := ref :: walk.seen } = some (copy, after)) :
    Scrubs scrub walk (.object ref) (after.alloc copy)

theorem scrubs_of_scrubInternal {fuel : Nat} {value : Value} {walk : Walk} {result : Value × Walk}
    (done : scrubInternal (fuel + 1) value walk = some result) : Scrubs (scrubInternal fuel) walk value result := by
  unfold scrubInternal at done
  cases value with
  | undefined | null | primitive id =>
    obtain rfl := Option.some.inj done
    exact .flat _ rfl (fun text => Value.noConfusion)
  | string text =>
    obtain rfl := Option.some.inj done
    exact .text text
  | object ref =>
    simp only at done
    split at done
    · next met =>
      obtain rfl := Option.some.inj done
      exact .again met
    · next new =>
      obtain ⟨obj, stored, done⟩ := Option.bind_eq_some_iff.mp done
      obtain ⟨⟨copy, after⟩, copied, done⟩ := Option.bind_eq_some_iff.mp done
      obtain rfl := Option.some.inj done
      exact .copied new stored copied

/-- What copying one object does: every item or field that is entered is walked in turn. -/
inductive Copies (scrub : Value → Walk → Option (Value × Walk)) (walk after : Walk) : Obj → Obj → Prop where
  | array {items done : List Value} (walked : forEach scrub items walk = some (done, after)) :
    Copies scrub walk after (.array items) (.array done)
  | error {name message : Text} {stack : Option Text} {own done : List (Text × Value)}
    (walked : forEach (scrubField scrub) (extraFields own) walk = some (done, after)) :
    Copies scrub walk after (.error name message stack own) (errorCopy name message stack done)
  | plain {prototype : Option Value} {fields done : List (Text × Value)}
    (walked : forEach (scrubField scrub) fields walk = some (done, after)) :
    Copies scrub walk after (.plain prototype fields) (.plain (assignedPrototype done) (assigned done))

theorem copies_of_scrubObject {scrub : Value → Walk → Option (Value × Walk)} {obj copy : Obj} {walk after : Walk}
    (copied : scrubObject scrub obj walk = some (copy, after)) : Copies scrub walk after obj copy := by
  cases obj with
  | array items =>
    obtain ⟨⟨done, final⟩, walked, same⟩ := Option.map_eq_some_iff.mp copied
    obtain ⟨rfl, rfl⟩ := Prod.mk.inj same
    exact .array walked
  | error name message stack own =>
    obtain ⟨⟨done, final⟩, walked, same⟩ := Option.map_eq_some_iff.mp copied
    obtain ⟨rfl, rfl⟩ := Prod.mk.inj same
    exact .error walked
  | plain prototype fields =>
    obtain ⟨⟨done, final⟩, walked, same⟩ := Option.map_eq_some_iff.mp copied
    obtain ⟨rfl, rfl⟩ := Prod.mk.inj same
    exact .plain walked

theorem forEach_cons {Item Result : Type} {step : Item → Walk → Option (Result × Walk)} {item : Item}
    {rest : List Item} {walk : Walk} {results : List Result} {after : Walk}
    (walked : forEach step (item :: rest) walk = some (results, after)) :
    ∃ first middle others, step item walk = some (first, middle) ∧ forEach step rest middle = some (others, after) ∧
      results = first :: others := by
  obtain ⟨⟨first, middle⟩, stepped, walked⟩ := Option.bind_eq_some_iff.mp walked
  obtain ⟨⟨others, final⟩, continued, walked⟩ := Option.bind_eq_some_iff.mp walked
  obtain ⟨rfl, rfl⟩ := Prod.mk.inj (Option.some.inj walked)
  exact ⟨first, middle, others, stepped, continued, rfl⟩

def Grows {Item Result : Type} (step : Item → Walk → Option (Result × Walk)) : Prop :=
  ∀ item walk result after, step item walk = some (result, after) → walk.heap <+: after.heap

theorem forEach_grows {Item Result : Type} {step : Item → Walk → Option (Result × Walk)} (grows : Grows step) :
    Grows (forEach step) := by
  intro items
  induction items with
  | nil =>
    intro walk results after walked
    obtain ⟨rfl, rfl⟩ := Prod.mk.inj (Option.some.inj walked)
    exact List.prefix_rfl
  | cons item rest ih =>
    intro walk results after walked
    obtain ⟨first, middle, others, stepped, continued, rfl⟩ := forEach_cons walked
    exact (grows _ _ _ _ stepped).trans (ih _ _ _ continued)

theorem forEach_run {Item Result : Type} {step : Item → Walk → Option (Result × Walk)} {items : List Item}
    {walk after : Walk} {results : List Result} (Kept : Walk → Prop) (Good : Walk → Item → Result → Prop)
    (grows : Grows step)
    (later : ∀ walk after item result, walk.heap <+: after.heap → Good walk item result → Good after item result)
    (each : ∀ item ∈ items, ∀ walk result after, Kept walk → step item walk = some (result, after) →
      Kept after ∧ Good after item result)
    (kept : Kept walk) (walked : forEach step items walk = some (results, after)) :
    Kept after ∧ List.Forall₂ (Good after) items results := by
  induction items generalizing walk results with
  | nil =>
    obtain ⟨rfl, rfl⟩ := Prod.mk.inj (Option.some.inj walked)
    exact ⟨kept, .nil⟩
  | cons item rest ih =>
    obtain ⟨first, middle, others, stepped, continued, rfl⟩ := forEach_cons walked
    obtain ⟨held, good⟩ := each item List.mem_cons_self walk first middle kept stepped
    obtain ⟨final, goods⟩ := ih (fun other member => each other (List.mem_cons_of_mem _ member)) held continued
    have more : middle.heap <+: after.heap := forEach_grows grows _ _ _ _ continued
    exact ⟨final, .cons (later middle after item first more good) goods⟩

theorem forEach_enough {Item Result : Type} {step : Item → Walk → Option (Result × Walk)} {Kept : Walk → Prop}
    {items : List Item} {walk : Walk}
    (each : ∀ item ∈ items, ∀ walk, Kept walk → ∃ result after, step item walk = some (result, after) ∧ Kept after)
    (kept : Kept walk) : ∃ results after, forEach step items walk = some (results, after) ∧ Kept after := by
  induction items generalizing walk with
  | nil => exact ⟨[], walk, rfl, kept⟩
  | cons item rest ih =>
    obtain ⟨first, middle, stepped, held⟩ := each item List.mem_cons_self walk kept
    obtain ⟨others, after, continued, final⟩ := ih (fun other member => each other (List.mem_cons_of_mem _ member)) held
    refine ⟨first :: others, after, ?_, final⟩
    simp [forEach, stepped, continued]

theorem forEach_mono {Item Result : Type} {step wider : Item → Walk → Option (Result × Walk)}
    (more : ∀ item walk result, step item walk = some result → wider item walk = some result) {items : List Item}
    {walk after : Walk} {results : List Result} (walked : forEach step items walk = some (results, after)) :
    forEach wider items walk = some (results, after) := by
  induction items generalizing walk results with
  | nil => exact walked
  | cons item rest ih =>
    obtain ⟨first, middle, others, stepped, continued, rfl⟩ := forEach_cons walked
    simp [forEach, more _ _ _ stepped, ih continued]

theorem forall_results {Item Result : Type} {Good : Result → Prop} {items : List Item} {results : List Result}
    (good : List.Forall₂ (fun _ result => Good result) items results) : ∀ result ∈ results, Good result := by
  induction good with
  | nil => exact fun result member => absurd member List.not_mem_nil
  | cons first _ ih => exact List.forall_mem_cons.mpr ⟨first, ih⟩

theorem scrubField_cases {scrub : Value → Walk → Option (Value × Walk)} {field done : Text × Value} {walk after : Walk}
    (walked : scrubField scrub field walk = some (done, after)) :
    done.1 = field.1 ∧ (matchesKeyRule field.1 = true ∧ done.2 = .string censor ∧ after = walk ∨
      matchesKeyRule field.1 = false ∧ scrub field.2 walk = some (done.2, after)) := by
  unfold scrubField at walked
  split at walked
  · next ruled =>
    obtain ⟨rfl, rfl⟩ := Prod.mk.inj (Option.some.inj walked)
    exact ⟨rfl, .inl ⟨ruled, rfl, rfl⟩⟩
  · next free =>
    obtain ⟨⟨value, final⟩, entered, same⟩ := Option.map_eq_some_iff.mp walked
    obtain ⟨rfl, rfl⟩ := Prod.mk.inj same
    exact ⟨rfl, .inr ⟨Bool.eq_false_iff.mpr free, entered⟩⟩

section Fuel

variable {value : Value} {walk : Walk}

theorem scrubField_mono {scrub wider : Value → Walk → Option (Value × Walk)}
    (more : ∀ value walk result, scrub value walk = some result → wider value walk = some result)
    (field : Text × Value) (walk : Walk) (result : (Text × Value) × Walk)
    (walked : scrubField scrub field walk = some result) : scrubField wider field walk = some result := by
  unfold scrubField at walked ⊢
  split
  · next ruled => rwa [if_pos ruled] at walked
  · next free =>
    rw [if_neg free] at walked
    obtain ⟨done, entered, rfl⟩ := Option.map_eq_some_iff.mp walked
    rw [more _ _ _ entered, Option.map_some]

theorem scrubObject_mono {scrub wider : Value → Walk → Option (Value × Walk)}
    (more : ∀ value walk result, scrub value walk = some result → wider value walk = some result) {obj copy : Obj}
    {after : Walk} (copied : scrubObject scrub obj walk = some (copy, after)) :
    scrubObject wider obj walk = some (copy, after) := by
  cases copies_of_scrubObject copied with
  | array walked => rw [scrubObject, forEach_mono more walked, Option.map_some]
  | error walked | plain walked => rw [scrubObject, forEach_mono (scrubField_mono more) walked, Option.map_some]

theorem scrubInternal_succ {fuel : Nat} {result : Value × Walk} (done : scrubInternal fuel value walk = some result) :
    scrubInternal (fuel + 1) value walk = some result := by
  induction fuel generalizing value walk result with
  | zero => cases done
  | succ fuel ih =>
    cases scrubs_of_scrubInternal done with
    | flat value flat other =>
      cases value with
      | string text => exact absurd rfl (other text)
      | object ref => cases flat
      | undefined | null | primitive id => rfl
    | text text => rfl
    | again met => rw [scrubInternal, if_pos met]
    | copied new stored copied =>
      rw [scrubInternal, if_neg new, stored]
      simp [scrubObject_mono (fun _ _ _ => ih) copied]

theorem scrubInternal_mono {fuel more : Nat} {result : Value × Walk} (enough : fuel ≤ more)
    (done : scrubInternal fuel value walk = some result) : scrubInternal more value walk = some result := by
  induction enough with
  | refl => exact done
  | step _ ih => exact scrubInternal_succ ih

end Fuel

section Termination

variable {graph : ValueGraph} {value : Value} {walk : Walk} {obj : Obj}

structure Marks (graph : ValueGraph) (walk : Walk) : Prop where
  kept : graph.heap <+: walk.heap
  distinct : walk.seen.Nodup
  inside : ∀ ref ∈ walk.seen, ref < graph.heap.length

theorem Marks.length_le (marks : Marks graph walk) : walk.seen.length ≤ graph.heap.length := by
  have inside : walk.seen ⊆ List.range graph.heap.length :=
    fun ref member => List.mem_range.mpr (marks.inside ref member)
  simpa using (List.subperm_of_subset marks.distinct inside).length_le

theorem getElem?_kept {heap : Heap} (kept : heap <+: walk.heap) {ref : Ref} (inside : ref < heap.length) :
    walk.heap[ref]? = heap[ref]? := by
  obtain ⟨copies, same⟩ := kept
  rw [← same, List.getElem?_append_left inside]

def MarksBeyond (graph : ValueGraph) (bound : Nat) (walk : Walk) : Prop := Marks graph walk ∧ bound ≤ walk.seen.length

theorem scrubObject_enough {scrub : Value → Walk → Option (Value × Walk)} {bound : Nat}
    (each : ∀ value ∈ obj.values, ∀ walk, MarksBeyond graph bound walk →
      ∃ result after, scrub value walk = some (result, after) ∧ MarksBeyond graph bound after)
    (marks : MarksBeyond graph bound walk) :
    ∃ copy after, scrubObject scrub obj walk = some (copy, after) ∧ MarksBeyond graph bound after := by
  have fields : ∀ fields : List (Text × Value), (∀ field ∈ fields, field.2 ∈ obj.values) →
      ∃ done after, forEach (scrubField scrub) fields walk = some (done, after) ∧ MarksBeyond graph bound after := by
    intro fields listed
    apply forEach_enough _ marks
    intro field member walk held
    unfold scrubField
    split
    · exact ⟨_, walk, rfl, held⟩
    · obtain ⟨result, after, entered, final⟩ := each field.2 (listed field member) walk held
      rw [entered]
      exact ⟨_, after, rfl, final⟩
  cases obj with
  | array items =>
    obtain ⟨done, after, walked, final⟩ := forEach_enough each marks
    refine ⟨.array done, after, ?_, final⟩
    exact Option.map_eq_some_iff.mpr ⟨_, walked, rfl⟩
  | error name message stack own =>
    obtain ⟨done, after, walked, final⟩ := fields (extraFields own)
      fun field member => List.mem_map_of_mem (List.mem_of_mem_filter member)
    refine ⟨errorCopy name message stack done, after, ?_, final⟩
    rw [scrubObject, walked, Option.map_some]
  | plain prototype own =>
    obtain ⟨done, after, walked, final⟩ := fields own
      fun field member => List.mem_append_right _ (List.mem_map_of_mem member)
    refine ⟨.plain (assignedPrototype done) (assigned done), after, ?_, final⟩
    rw [scrubObject, walked, Option.map_some]

theorem scrubInternal_enough {fuel : Nat} (inside : ∀ ref, value = .object ref → ref < graph.heap.length)
    (marks : Marks graph walk) (deep : graph.heap.length < fuel + walk.seen.length) :
    ∃ result after, scrubInternal fuel value walk = some (result, after) ∧
      MarksBeyond graph walk.seen.length after := by
  induction fuel generalizing value walk with
  | zero =>
    have fits := marks.length_le
    omega
  | succ fuel ih =>
    have held : MarksBeyond graph walk.seen.length walk := ⟨marks, Nat.le_refl _⟩
    cases value with
    | undefined | null | primitive | string => exact ⟨_, walk, rfl, held⟩
    | object ref =>
      have within := inside ref rfl
      by_cases met : ref ∈ walk.seen
      · exact ⟨_, walk, by rw [scrubInternal, if_pos met], held⟩
      · obtain ⟨obj, stored⟩ : ∃ obj, graph.heap[ref]? = some obj := ⟨_, List.getElem?_eq_getElem within⟩
        have entered : MarksBeyond graph (walk.seen.length + 1) { walk with seen := ref :: walk.seen } :=
          ⟨⟨marks.kept, List.nodup_cons.mpr ⟨met, marks.distinct⟩, List.forall_mem_cons.mpr ⟨within, marks.inside⟩⟩,
            Nat.le_refl _⟩
        have each : ∀ value ∈ obj.values, ∀ walk', MarksBeyond graph (walk.seen.length + 1) walk' →
            ∃ result after, scrubInternal fuel value walk' = some (result, after) ∧
              MarksBeyond graph (walk.seen.length + 1) after := by
          rintro value member walk' ⟨other, beyond⟩
          have below : ∀ next, value = .object next → next < graph.heap.length := by
            rintro next rfl
            exact graph.closed obj (List.mem_of_getElem? stored) next member
          obtain ⟨result, after, done, final, more⟩ := ih below other (by omega)
          exact ⟨result, after, done, final, by omega⟩
        obtain ⟨copy, after, copied, final, more⟩ := scrubObject_enough each entered
        refine ⟨(after.alloc copy).1, (after.alloc copy).2, ?_,
          ⟨final.kept.trans (List.prefix_append _ _), final.distinct, final.inside⟩, ?_⟩
        · rw [scrubInternal, if_neg met, getElem?_kept marks.kept within, stored]
          simp [copied]
        · exact Nat.le_of_succ_le more

end Termination

section Result

variable {fuel : Nat} {value : Value} {walk : Walk}

theorem scrubField_grows {scrub : Value → Walk → Option (Value × Walk)} (grows : Grows scrub) :
    Grows (scrubField scrub) := by
  intro field walk result after walked
  obtain ⟨_, ⟨_, _, rfl⟩ | ⟨_, entered⟩⟩ := scrubField_cases walked
  · exact List.prefix_rfl
  · exact grows _ _ _ _ entered

theorem scrubObject_grows {scrub : Value → Walk → Option (Value × Walk)} (grows : Grows scrub) :
    Grows (scrubObject scrub) := by
  intro obj walk copy after copied
  cases copies_of_scrubObject copied with
  | array walked => exact forEach_grows grows _ _ _ _ walked
  | error walked | plain walked => exact forEach_grows (scrubField_grows grows) _ _ _ _ walked

theorem scrubInternal_grows : Grows (scrubInternal fuel) := by
  intro value walk result after done
  induction fuel generalizing value walk result after with
  | zero => cases done
  | succ fuel ih =>
    generalize same : (result, after) = pair at done
    cases scrubs_of_scrubInternal done with
    | flat | text | again =>
      obtain ⟨rfl, rfl⟩ := Prod.mk.inj same
      exact List.prefix_rfl
    | @copied ref obj copy inner new stored copied =>
      obtain ⟨rfl, rfl⟩ := Prod.mk.inj same
      exact (scrubObject_grows ih _ _ _ _ copied).trans (List.prefix_append _ _)

theorem scrubInternal_rule (Good : Value → Walk → Value × Walk → Prop)
    (step : ∀ scrub : Value → Walk → Option (Value × Walk), Grows scrub →
      (∀ value walk pair, scrub value walk = some pair → Good value walk pair) →
        ∀ value walk pair, Scrubs scrub walk value pair → Good value walk pair)
    {pair : Value × Walk} (done : scrubInternal fuel value walk = some pair) : Good value walk pair := by
  induction fuel generalizing value walk pair with
  | zero => cases done
  | succ fuel ih => exact step _ scrubInternal_grows (fun _ _ _ => ih) _ _ _ (scrubs_of_scrubInternal done)

def Closed (heap : Heap) : Prop := ∀ obj ∈ heap, ∀ ref, .object ref ∈ obj.values → ref < heap.length

def InHeap (heap : Heap) (value : Value) : Prop := ∀ ref, value = .object ref → ref < heap.length

theorem InHeap.grown {heap other : Heap} (inside : InHeap heap value) (grown : heap <+: other) :
    InHeap other value := fun ref same => (inside ref same).trans_le grown.length_le

theorem inHeap_text (heap : Heap) (text : Text) : InHeap heap (.string text) := fun _ same => Value.noConfusion same

theorem closed_alloc {after : Walk} {copy : Obj} (closed : Closed after.heap)
    (inside : ∀ value ∈ copy.values, InHeap after.heap value) :
    Closed (after.alloc copy).2.heap ∧ InHeap (after.alloc copy).2.heap (after.alloc copy).1 := by
  have longer : (after.alloc copy).2.heap.length = after.heap.length + 1 := List.length_append
  refine ⟨?_, ?_⟩
  · intro obj member ref listed
    rw [longer]
    rcases List.mem_append.mp member with old | new
    · exact (closed obj old ref listed).trans (Nat.lt_succ_self _)
    · obtain rfl := List.mem_singleton.mp new
      exact (inside _ listed ref rfl).trans (Nat.lt_succ_self _)
  · rintro ref same
    rw [longer, ← Value.object.inj same]
    exact Nat.lt_succ_self _

theorem mem_of_assignedPrototype {done : List (Text × Value)} (made : assignedPrototype done = some value) :
    value ∈ done.map Prod.snd := by
  obtain ⟨field, found, same⟩ := Option.bind_eq_some_iff.mp made
  have listed := List.mem_map_of_mem (f := Prod.snd) (List.mem_of_find?_eq_some found)
  split at same
  · rwa [← Option.some.inj same]
  · rwa [← Option.some.inj same]
  all_goals cases same

theorem mem_values_plain {done : List (Text × Value)}
    (member : value ∈ (Obj.plain (assignedPrototype done) (assigned done)).values) : value ∈ done.map Prod.snd := by
  rcases List.mem_append.mp member with made | kept
  · exact mem_of_assignedPrototype (Option.mem_toList.mp made)
  · obtain ⟨field, listed, rfl⟩ := List.mem_map.mp kept
    exact List.mem_map_of_mem (List.mem_of_mem_filter listed)

theorem mem_values_errorCopy {name message : Text} {stack : Option Text} {done : List (Text × Value)}
    (member : value ∈ (errorCopy name message stack done).values) : value.refs = [] ∨ value ∈ done.map Prod.snd := by
  simp only [errorCopy, Obj.values, Option.toList_none, List.nil_append, List.map_cons, List.mem_cons] at member
  rcases member with rfl | rfl | rfl | member
  · exact .inl rfl
  · exact .inl rfl
  · left
    cases stack <;> rfl
  · obtain ⟨field, listed, rfl⟩ := List.mem_map.mp member
    exact .inr (List.mem_map_of_mem (List.mem_of_mem_filter listed))

theorem inHeap_flat (heap : Heap) (flat : value.refs = []) : InHeap heap value := by
  rintro ref rfl
  cases flat

theorem closed_fields {scrub : Value → Walk → Option (Value × Walk)} {after : Walk} {fields done : List (Text × Value)}
    (grows : Grows scrub)
    (each : ∀ value walk result after, Closed walk.heap → InHeap walk.heap value →
      scrub value walk = some (result, after) → Closed after.heap ∧ InHeap after.heap result)
    (closed : Closed walk.heap) (inside : ∀ field ∈ fields, InHeap walk.heap field.2)
    (walked : forEach (scrubField scrub) fields walk = some (done, after)) :
    Closed after.heap ∧ ∀ field ∈ done, InHeap after.heap field.2 := by
  have step : ∀ field ∈ fields, ∀ walk' result after, Closed walk'.heap ∧ walk.heap <+: walk'.heap →
      scrubField scrub field walk' = some (result, after) →
        (Closed after.heap ∧ walk.heap <+: after.heap) ∧ InHeap after.heap result.2 := by
    rintro field member walk' result after ⟨held, grown⟩ stepped
    obtain ⟨_, ⟨_, censored, rfl⟩ | ⟨_, entered⟩⟩ := scrubField_cases stepped
    · exact ⟨⟨held, grown⟩, censored ▸ inHeap_text _ censor⟩
    · obtain ⟨final, ok⟩ := each _ _ _ _ held ((inside field member).grown grown) entered
      exact ⟨⟨final, grown.trans (grows _ _ _ _ entered)⟩, ok⟩
  obtain ⟨⟨final, _⟩, good⟩ := forEach_run (fun other => Closed other.heap ∧ walk.heap <+: other.heap)
    (fun walk _ (result : Text × Value) => InHeap walk.heap result.2) (scrubField_grows grows)
    (fun _ _ _ _ grown ok => ok.grown grown) step ⟨closed, List.prefix_rfl⟩ walked
  exact ⟨final, forall_results good⟩

theorem scrubInternal_closed {result : Value} {after : Walk} (closed : Closed walk.heap)
    (inside : InHeap walk.heap value) (done : scrubInternal fuel value walk = some (result, after)) :
    Closed after.heap ∧ InHeap after.heap result := by
  apply scrubInternal_rule (fun value walk pair => Closed walk.heap → InHeap walk.heap value →
    Closed pair.2.heap ∧ InHeap pair.2.heap pair.1) _ done closed inside
  intro scrub grows each value walk pair scrubs closed inside
  cases scrubs with
  | flat => exact ⟨closed, inside⟩
  | text | again => exact ⟨closed, inHeap_text _ _⟩
  | @copied ref obj copy inner new stored copied =>
    have parts : ∀ value ∈ obj.values, InHeap walk.heap value := by
      rintro value member next rfl
      exact closed obj (List.mem_of_getElem? stored) next member
    have below := fun value walk result after closed inside done =>
      each value walk (result, after) done closed inside
    have entered : Closed ({ walk with seen := ref :: walk.seen } : Walk).heap := closed
    cases copies_of_scrubObject copied with
    | @array items done walked =>
      obtain ⟨⟨final, _⟩, good⟩ := forEach_run (fun other => Closed other.heap ∧ walk.heap <+: other.heap)
        (fun walk _ result => InHeap walk.heap result) grows (fun _ _ _ _ grown ok => ok.grown grown)
        (fun item member walk' result after kept stepped =>
          let done := below item walk' result after kept.1 ((parts item member).grown kept.2) stepped
          ⟨⟨done.1, kept.2.trans (grows _ _ _ _ stepped)⟩, done.2⟩)
        ⟨entered, List.prefix_rfl⟩ walked
      exact closed_alloc final (forall_results good)
    | @error name message stack own done walked =>
      obtain ⟨final, ok⟩ := closed_fields grows below entered
        (fun field member => parts _ (List.mem_map_of_mem (List.mem_of_mem_filter member))) walked
      apply closed_alloc final
      intro value member
      rcases mem_values_errorCopy member with flat | listed
      · exact inHeap_flat _ flat
      · obtain ⟨field, kept, rfl⟩ := List.mem_map.mp listed
        exact ok field kept
    | @plain prototype fields done walked =>
      obtain ⟨final, ok⟩ := closed_fields grows below entered
        (fun field member => parts _ (List.mem_append_right _ (List.mem_map_of_mem member))) walked
      apply closed_alloc final
      intro value member
      obtain ⟨field, kept, rfl⟩ := List.mem_map.mp (mem_values_plain member)
      exact ok field kept

end Result

theorem scrub_terminates (graph : ValueGraph) :
    (scrubInternal (graph.heap.length + 1) graph.root { heap := graph.heap }).isSome = true := by
  have marks : Marks graph { heap := graph.heap } :=
    ⟨List.prefix_rfl, List.nodup_nil, fun ref member => absurd member List.not_mem_nil⟩
  obtain ⟨result, after, done, _⟩ := scrubInternal_enough graph.rootInside marks (Nat.lt_succ_self _)
  rw [done]
  rfl

def scrubbed (graph : ValueGraph) : Value × Walk :=
  (scrubInternal (graph.heap.length + 1) graph.root { heap := graph.heap }).get (scrub_terminates graph)

theorem scrubInternal_scrubbed (graph : ValueGraph) :
    scrubInternal (graph.heap.length + 1) graph.root { heap := graph.heap } = some (scrubbed graph) :=
  (Option.some_get _).symm

theorem scrubbed_closed (graph : ValueGraph) :
    Closed (scrubbed graph).2.heap ∧ InHeap (scrubbed graph).2.heap (scrubbed graph).1 := by
  have closed : Closed ({ heap := graph.heap } : Walk).heap := graph.closed
  have inside : InHeap ({ heap := graph.heap } : Walk).heap graph.root := graph.rootInside
  exact scrubInternal_closed closed inside (scrubInternal_scrubbed graph)

def scrub (graph : ValueGraph) : ValueGraph where
  heap := (scrubbed graph).2.heap
  root := (scrubbed graph).1
  rootInside := (scrubbed_closed graph).2
  closed := (scrubbed_closed graph).1

def sentryBeforeSend (event : ValueGraph) : ValueGraph := scrub event

end LocalCrm.Redaction
