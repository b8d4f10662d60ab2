import LocalCrm.Library.Unicode

/-! The values that are redacted: a heap of objects and a reference into it. -/

set_option autoImplicit false

namespace LocalCrm.Redaction

open Library

abbrev Ref := Nat

inductive Value where
  | undefined
  | null
  | primitive (id : Nat)
  | string (text : Text)
  | object (ref : Ref)
  deriving DecidableEq, Repr

def Value.refs : Value → List Ref
  | object ref => [ref]
  | undefined | null | primitive _ | string _ => []

/-- Anything but an array and an `Error` has its own enumerable fields, in order, and a prototype where that
is unusual. -/
inductive Obj where
  | plain (prototype : Option Value) (fields : List (Text × Value))
  | array (items : List Value)
  | error (name message : Text) (stack : Option Text) (own : List (Text × Value))
  deriving DecidableEq, Repr

def Obj.values : Obj → List Value
  | plain prototype fields => prototype.toList ++ fields.map Prod.snd
  | array items => items
  | error _ _ _ own => own.map Prod.snd

def Obj.fields : Obj → List (Text × Value)
  | plain _ fields => fields
  | array _ => []
  | error _ _ _ own => own

abbrev Heap := List Obj

structure ValueGraph where
  heap : Heap
  root : Value
  rootInside : ∀ ref, root = .object ref → ref < heap.length
  closed : ∀ obj ∈ heap, ∀ ref, .object ref ∈ obj.values → ref < heap.length

section Reading

variable (heap : Heap)

inductive Reaches : Value → Ref → Prop where
  | here (ref : Ref) : Reaches (.object ref) ref
  | inside {ref next : Ref} {obj : Obj} {value : Value} (stored : heap[ref]? = some obj) (member : value ∈ obj.values)
    (rest : Reaches value next) : Reaches (.object ref) next

inductive Holds : Value → Text → Prop where
  | here (text : Text) : Holds (.string text) text
  | inside {ref : Ref} {obj : Obj} {value : Value} {text : Text} (stored : heap[ref]? = some obj)
    (member : value ∈ obj.values) (rest : Holds value text) : Holds (.object ref) text
  | error {ref : Ref} {name message : Text} {stack : Option Text} {own : List (Text × Value)} {text : Text}
    (stored : heap[ref]? = some (.error name message stack own)) (member : text ∈ name :: message :: stack.toList) :
    Holds (.object ref) text

end Reading

section Structure

/-- Two values of one kind, whose parts are related in their order. -/
inductive Alike (left right : Heap) (related : Value → Value → Prop) : Value → Value → Prop where
  | same (value : Value) (flat : value.refs = []) : Alike left right related value value
  | array {one two : Ref} {items others : List Value} (first : left[one]? = some (.array items))
    (second : right[two]? = some (.array others)) (parts : List.Forall₂ related items others) :
    Alike left right related (.object one) (.object two)
  | plain {one two : Ref} {prototype other : Option Value} {fields others : List (Text × Value)}
    (first : left[one]? = some (.plain prototype fields)) (second : right[two]? = some (.plain other others))
    (keys : fields.map Prod.fst = others.map Prod.fst)
    (parts : List.Forall₂ related (fields.map Prod.snd) (others.map Prod.snd)) :
    Alike left right related (.object one) (.object two)
  | error {one two : Ref} {name message : Text} {stack : Option Text} {own others : List (Text × Value)}
    (first : left[one]? = some (.error name message stack own))
    (second : right[two]? = some (.error name message stack others)) (keys : own.map Prod.fst = others.map Prod.fst)
    (parts : List.Forall₂ related (own.map Prod.snd) (others.map Prod.snd)) :
    Alike left right related (.object one) (.object two)

/-- The same fields and items all the way down; which objects are shared and what prototypes they have is left open. -/
def StructurallyEqual (left right : ValueGraph) : Prop :=
  ∃ related : Value → Value → Prop, related left.root right.root ∧
    ∀ one two, related one two → Alike left.heap right.heap related one two

def Obj.parts : Obj → List Value
  | plain _ fields => fields.map Prod.snd
  | array items => items
  | error _ _ _ own => own.map Prod.snd

mutual

/-- Writing a value out in full meets these objects, in this order; an object that is shared is met again. -/
inductive WritesOut (heap : Heap) : Value → List Ref → Prop where
  | flat (value : Value) (flat : value.refs = []) : WritesOut heap value []
  | object {ref : Ref} {obj : Obj} {refs : List Ref} (stored : heap[ref]? = some obj)
    (parts : WritesOutAll heap obj.parts refs) : WritesOut heap (.object ref) (ref :: refs)

inductive WritesOutAll (heap : Heap) : List Value → List Ref → Prop where
  | nil : WritesOutAll heap [] []
  | cons {value : Value} {values : List Value} {first rest : List Ref} (head : WritesOut heap value first)
    (tail : WritesOutAll heap values rest) : WritesOutAll heap (value :: values) (first ++ rest)

end

end Structure

end LocalCrm.Redaction
