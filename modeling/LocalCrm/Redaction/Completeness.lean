import LocalCrm.Redaction.Scrub
import Mathlib.Data.List.Forall2

/-! What redaction leaves in its result. -/

set_option autoImplicit false

namespace LocalCrm.Redaction

open Library Library.JsonText

def Obj.enteredValues : Obj → List Value
  | plain _ fields => (fields.filter fun field => !matchesKeyRule field.1).map Prod.snd
  | array items => items
  | error _ _ _ own => ((extraFields own).filter fun field => !matchesKeyRule field.1).map Prod.snd

inductive Enters (heap : Heap) : Value → Ref → Prop where
  | here (ref : Ref) : Enters heap (.object ref) ref
  | inside {ref next : Ref} {obj : Obj} {value : Value} (stored : heap[ref]? = some obj)
    (member : value ∈ obj.enteredValues) (rest : Enters heap value next) : Enters heap (.object ref) next

def ErrorText (heap : Heap) (value : Value) (text : Text) : Prop :=
  ∃ ref name message stack own, Enters heap value ref ∧ heap[ref]? = some (.error name message stack own) ∧
    (text = name ∨ stack = some text)

theorem enteredValues_subset (obj : Obj) : obj.enteredValues ⊆ obj.values := by
  intro value member
  cases obj with
  | array items => exact member
  | plain prototype fields =>
    obtain ⟨field, kept, rfl⟩ := List.mem_map.mp member
    exact List.mem_append_right _ (List.mem_map_of_mem (List.mem_of_mem_filter kept))
  | error name message stack own =>
    obtain ⟨field, kept, rfl⟩ := List.mem_map.mp member
    exact List.mem_map_of_mem (List.mem_of_mem_filter (List.mem_of_mem_filter kept))

section Fresh

def ValueOk (base : Nat) (allowed : Text → Prop) : Value → Prop
  | .string text => matchesValuePattern text = false ∨ allowed text
  | .object ref => base ≤ ref
  | .undefined | .null | .primitive _ => True

def FieldOk (base : Nat) (allowed : Text → Prop) (field : Text × Value) : Prop :=
  ValueOk base allowed field.2 ∧ (matchesKeyRule field.1 = true → field.2 = .string censor)

def CopyOk (base : Nat) (allowed : Text → Prop) : Obj → Prop
  | .array items => ∀ value ∈ items, ValueOk base allowed value
  | .plain prototype fields =>
    (∀ value, prototype = some value → ValueOk base allowed value) ∧
      (∀ field ∈ fields, FieldOk base allowed field) ∧ ∀ field ∈ fields, field.1 ≠ prototypeKey
  | .error _ _ _ _ => False

structure Sound (heap : Heap) (allowed : Text → Prop) (walk : Walk) : Prop where
  kept : heap <+: walk.heap
  fresh : ∀ ref obj, heap.length ≤ ref → walk.heap[ref]? = some obj → CopyOk heap.length allowed obj

variable {heap : Heap} {allowed : Text → Prop} {walk : Walk} {base : Nat}

theorem valueOk_redactText (text : Text) : ValueOk base allowed (.string (redactText text)) := by
  left
  unfold redactText
  split
  · exact censor_unmatched
  · next unmatched => exact Bool.eq_false_iff.mpr unmatched

theorem valueOk_censor : ValueOk base allowed (.string censor) := .inl censor_unmatched

theorem valueOk_circular : ValueOk base allowed (.string circularMarker) := by
  left
  decide +kernel

theorem Sound.alloc (sound : Sound heap allowed walk) {copy : Obj} (fit : CopyOk heap.length allowed copy) :
    Sound heap allowed (walk.alloc copy).2 ∧ ValueOk heap.length allowed (walk.alloc copy).1 := by
  refine ⟨⟨sound.kept.trans (List.prefix_append _ _), ?_⟩, sound.kept.length_le⟩
  intro ref obj beyond stored
  by_cases old : ref < walk.heap.length
  · rw [Walk.alloc, List.getElem?_append_left old] at stored
    exact sound.fresh ref obj beyond stored
  · rw [Walk.alloc, List.getElem?_append_right (Nat.le_of_not_lt old)] at stored
    obtain rfl := List.mem_singleton.mp (List.mem_of_getElem? stored)
    exact fit

theorem fieldOk_assigned {fields : List (Text × Value)} (fit : ∀ field ∈ fields, FieldOk base allowed field) :
    ∀ field ∈ assigned fields, FieldOk base allowed field :=
  fun field member => fit field (List.mem_of_mem_filter member)

theorem ordinary_assigned (fields : List (Text × Value)) : ∀ field ∈ assigned fields, field.1 ≠ prototypeKey :=
  fun _ member => bne_iff_ne.mp (List.mem_filter.mp member).2

theorem valueOk_prototype {fields : List (Text × Value)} (fit : ∀ field ∈ fields, FieldOk base allowed field)
    {value : Value} (made : assignedPrototype fields = some value) : ValueOk base allowed value := by
  obtain ⟨field, found, same⟩ := Option.bind_eq_some_iff.mp made
  have ok := (fit field (List.mem_of_find?_eq_some found)).1
  split at same
  · obtain rfl := Option.some.inj same
    exact ok
  · obtain rfl := Option.some.inj same
    exact ok
  all_goals cases same

theorem copyOk_errorCopy {name message : Text} {stack : Option Text} {extras : List (Text × Value)}
    (named : allowed name) (stacked : ∀ text, stack = some text → allowed text)
    (fit : ∀ field ∈ extras, FieldOk base allowed field) :
    CopyOk base allowed (errorCopy name message stack extras) := by
  refine ⟨fun value none => (Option.some_ne_none value none.symm).elim, ?_, ?_⟩
  · intro field member
    rcases List.mem_cons.mp member with rfl | member
    · exact ⟨.inr named, fun ruled => absurd ruled (by decide +kernel : ¬ matchesKeyRule (ascii "name") = true)⟩
    rcases List.mem_cons.mp member with rfl | member
    · exact ⟨valueOk_redactText message,
        fun ruled => absurd ruled (by decide +kernel : ¬ matchesKeyRule (ascii "message") = true)⟩
    rcases List.mem_cons.mp member with rfl | member
    · refine ⟨?_, fun ruled => absurd ruled (by decide +kernel : ¬ matchesKeyRule (ascii "stack") = true)⟩
      cases stack with
      | none => trivial
      | some text => exact .inr (stacked text rfl)
    · exact fieldOk_assigned fit field member
  · intro field member
    rcases List.mem_cons.mp member with rfl | member
    · exact (by decide +kernel : ascii "name" ≠ prototypeKey)
    rcases List.mem_cons.mp member with rfl | member
    · exact (by decide +kernel : ascii "message" ≠ prototypeKey)
    rcases List.mem_cons.mp member with rfl | member
    · exact (by decide +kernel : ascii "stack" ≠ prototypeKey)
    · exact ordinary_assigned extras field member

end Fresh

section Walked

variable {graph : ValueGraph} {walk after : Walk} {value result : Value} {obj copy : Obj} {ref : Ref}

/-- A part of the input that the walk may enter. -/
structure Within (graph : ValueGraph) (value : Value) : Prop where
  inside : ∀ ref, value = .object ref → ref < graph.heap.length
  entered : ∀ ref, Enters graph.heap value ref → Enters graph.heap graph.root ref

theorem within_root (graph : ValueGraph) : Within graph graph.root := ⟨graph.rootInside, fun _ => id⟩

theorem Within.part (within : Within graph (.object ref)) (stored : graph.heap[ref]? = some obj)
    (member : value ∈ obj.enteredValues) : Within graph value where
  inside next same :=
    graph.closed obj (List.mem_of_getElem? stored) next (same ▸ enteredValues_subset obj member)
  entered next rest := within.entered next (.inside stored member rest)

abbrev SoundFor (graph : ValueGraph) : Walk → Prop := Sound graph.heap (ErrorText graph.heap graph.root)

abbrev FitFor (graph : ValueGraph) : Value → Prop :=
  ValueOk graph.heap.length (ErrorText graph.heap graph.root)

theorem scrubFields_sound {scrub : Value → Walk → Option (Value × Walk)} {fields done : List (Text × Value)}
    (grows : Grows scrub)
    (each : ∀ value walk result after, Within graph value → SoundFor graph walk →
      scrub value walk = some (result, after) → SoundFor graph after ∧ FitFor graph result)
    (within : ∀ field ∈ fields, matchesKeyRule field.1 = false → Within graph field.2) (sound : SoundFor graph walk)
    (walked : forEach (scrubField scrub) fields walk = some (done, after)) :
    SoundFor graph after ∧
      ∀ field ∈ done, FieldOk graph.heap.length (ErrorText graph.heap graph.root) field := by
  have step : ∀ field ∈ fields, ∀ walk result after, SoundFor graph walk →
      scrubField scrub field walk = some (result, after) →
        SoundFor graph after ∧ FieldOk graph.heap.length (ErrorText graph.heap graph.root) result := by
    intro field member walk result after sound stepped
    obtain ⟨named, ⟨_, censored, rfl⟩ | ⟨free, entered⟩⟩ := scrubField_cases stepped
    · refine ⟨sound, ?_, fun _ => censored⟩
      rw [censored]
      exact valueOk_censor
    · obtain ⟨held, fit⟩ := each _ _ _ _ (within field member free) sound entered
      refine ⟨held, fit, ?_⟩
      intro ruled
      rw [named, free] at ruled
      cases ruled
  obtain ⟨held, fits⟩ := forEach_run (SoundFor graph)
    (fun _ _ result => FieldOk graph.heap.length (ErrorText graph.heap graph.root) result) (scrubField_grows grows)
    (fun _ _ _ _ _ => id) step sound walked
  exact ⟨held, forall_results fits⟩

theorem scrubObject_sound {scrub : Value → Walk → Option (Value × Walk)} (grows : Grows scrub)
    (each : ∀ value walk result after, Within graph value → SoundFor graph walk →
      scrub value walk = some (result, after) → SoundFor graph after ∧ FitFor graph result)
    (within : Within graph (.object ref)) (stored : graph.heap[ref]? = some obj) (sound : SoundFor graph walk)
    (copied : scrubObject scrub obj walk = some (copy, after)) :
    SoundFor graph after ∧ CopyOk graph.heap.length (ErrorText graph.heap graph.root) copy := by
  cases copies_of_scrubObject copied with
  | @array items done walked =>
    have step := fun item (member : item ∈ items) walk result after sound stepped =>
      each item walk result after (within.part stored member) sound stepped
    obtain ⟨held, fits⟩ := forEach_run (SoundFor graph) (fun _ _ result => FitFor graph result) grows
      (fun _ _ _ _ _ => id) step sound walked
    exact ⟨held, forall_results fits⟩
  | @error name message stack own done walked =>
    have entered : ∀ field ∈ extraFields own, matchesKeyRule field.1 = false → Within graph field.2 := by
      intro field member free
      apply within.part stored
      exact List.mem_map_of_mem (List.mem_filter.mpr ⟨member, by rw [free]; rfl⟩)
    obtain ⟨held, fits⟩ := scrubFields_sound grows each entered sound walked
    refine ⟨held, copyOk_errorCopy ?_ ?_ fits⟩
    · exact ⟨ref, name, message, stack, own, within.entered ref (.here ref), stored, .inl rfl⟩
    · intro text same
      exact ⟨ref, name, message, stack, own, within.entered ref (.here ref), stored, .inr same⟩
  | @plain prototype fields done walked =>
    have entered : ∀ field ∈ fields, matchesKeyRule field.1 = false → Within graph field.2 := by
      intro field member free
      apply within.part stored
      exact List.mem_map_of_mem (List.mem_filter.mpr ⟨member, by rw [free]; rfl⟩)
    obtain ⟨held, fits⟩ := scrubFields_sound grows each entered sound walked
    exact ⟨held, fun value made => valueOk_prototype fits made, fieldOk_assigned fits, ordinary_assigned done⟩

theorem scrubInternal_sound {fuel : Nat} (within : Within graph value) (sound : SoundFor graph walk)
    (done : scrubInternal fuel value walk = some (result, after)) : SoundFor graph after ∧ FitFor graph result := by
  apply scrubInternal_rule (fun value walk pair => Within graph value → SoundFor graph walk →
    SoundFor graph pair.2 ∧ FitFor graph pair.1) _ done within sound
  intro scrub grows each value walk pair scrubs within sound
  cases scrubs with
  | flat value flat other =>
    cases value with
    | string text => exact absurd rfl (other text)
    | object ref => cases flat
    | undefined | null | primitive id => exact ⟨sound, trivial⟩
  | text text => exact ⟨sound, valueOk_redactText text⟩
  | again met => exact ⟨sound, valueOk_circular⟩
  | @copied ref obj copy inner new stored copied =>
    rw [getElem?_kept sound.kept (within.inside ref rfl)] at stored
    have marked : SoundFor graph { walk with seen := ref :: walk.seen } := ⟨sound.kept, sound.fresh⟩
    obtain ⟨held, fit⟩ := scrubObject_sound grows
      (fun value walk result after within sound done => each value walk (result, after) done within sound) within stored
      marked copied
    exact held.alloc fit

theorem copyOk_values {base : Nat} {allowed : Text → Prop} (fit : CopyOk base allowed obj) :
    ∀ value ∈ obj.values, ValueOk base allowed value := by
  intro value member
  cases obj with
  | array items => exact fit value member
  | error name message stack own => exact fit.elim
  | plain prototype fields =>
    rcases List.mem_append.mp member with made | kept
    · exact fit.1 value (Option.mem_toList.mp made)
    · obtain ⟨field, listed, rfl⟩ := List.mem_map.mp kept
      exact (fit.2.1 field listed).1

theorem text_of_holds {text : Text} (sound : SoundFor graph walk) (fit : FitFor graph value)
    (holds : Holds walk.heap value text) :
    matchesValuePattern text = false ∨ ErrorText graph.heap graph.root text := by
  induction holds with
  | here text => exact fit
  | inside stored member rest ih => exact ih (copyOk_values (sound.fresh _ _ fit stored) _ member)
  | error stored member => exact (sound.fresh _ _ fit stored).elim

theorem fresh_of_reaches (sound : SoundFor graph walk) (fit : FitFor graph value)
    (reaches : Reaches walk.heap value ref) : graph.heap.length ≤ ref := by
  induction reaches with
  | here ref => exact fit
  | inside stored member rest ih => exact ih (copyOk_values (sound.fresh _ _ fit stored) _ member)

theorem scrubbed_sound (graph : ValueGraph) : SoundFor graph (scrubbed graph).2 ∧ FitFor graph (scrubbed graph).1 := by
  have start : SoundFor graph { heap := graph.heap } := by
    refine ⟨List.prefix_rfl, fun ref obj beyond stored => ?_⟩
    have within : ref < graph.heap.length := (List.getElem?_eq_some_iff.mp stored).1
    exact absurd within (Nat.not_lt.mpr beyond)
  exact scrubInternal_sound (within_root graph) start (scrubInternal_scrubbed graph)

end Walked

/-- No string in the result matches a rule but those left to it, fields are censored by name, and the input is as it
was. -/
structure Redacted (left : Text → Prop) (graph result : ValueGraph) : Prop where
  strings : ∀ text, Holds result.heap result.root text → matchesValuePattern text = true → left text
  fields : ∀ ref obj, Reaches result.heap result.root ref → result.heap[ref]? = some obj →
    ∀ field ∈ obj.fields, matchesKeyRule field.1 = true → field.2 = .string censor
  unchanged : ∀ ref < graph.heap.length, result.heap[ref]? = graph.heap[ref]?

theorem redacted_scrub (graph : ValueGraph) :
    Redacted (ErrorText graph.heap graph.root) graph (scrub graph) where
  strings text holds matched := by
    obtain ⟨sound, fit⟩ := scrubbed_sound graph
    rcases text_of_holds sound fit holds with unmatched | named
    · rw [unmatched] at matched
      cases matched
    · exact named
  fields ref obj reaches stored field member ruled := by
    obtain ⟨sound, fit⟩ := scrubbed_sound graph
    have copied := sound.fresh ref obj (fresh_of_reaches sound fit reaches) stored
    cases obj with
    | array items => cases member
    | error name message stack own => exact copied.elim
    | plain prototype fields => exact (copied.2.1 field member).2 ruled
  unchanged ref within := getElem?_kept (scrubbed_sound graph).1.kept within

/-- All that redaction leaves of what the rules match are the names and stacks of errors. -/
theorem redaction_leaves_error_texts :
    ∀ graph : ValueGraph, Redacted (ErrorText graph.heap graph.root) graph (scrub graph) ∧
      Redacted (ErrorText graph.heap graph.root) graph (sentryBeforeSend graph) :=
  fun graph => ⟨redacted_scrub graph, redacted_scrub graph⟩

/-- `new Error("failed for a@b.co")` -/
def failedFor : ValueGraph where
  heap := [.error (ascii "Error") (ascii "failed for a@b.co") (some (ascii "Error: failed for a@b.co")) []]
  root := .object 0
  rootInside := by
    rintro ref same
    rw [← Value.object.inj same]
    decide
  closed := by
    intro obj member ref listed
    obtain rfl := List.mem_singleton.mp member
    cases listed

/-- The message is redacted; the stack repeats it. -/
theorem stack_keeps_address : ¬ ∀ graph : ValueGraph, Redacted (fun _ => False) graph (scrub graph) := by
  intro always
  have redacted := always failedFor
  have root : (scrub failedFor).root = .object 1 := by decide +kernel
  have stored : (scrub failedFor).heap[1]? = some (errorCopy (ascii "Error") (ascii "failed for a@b.co")
      (some (ascii "Error: failed for a@b.co")) []) := by
    decide +kernel
  apply redacted.strings (ascii "Error: failed for a@b.co")
  · rw [root]
    apply Holds.inside stored _ (.here _)
    decide +kernel
  · decide +kernel

end LocalCrm.Redaction
