import LocalCrm.Webhooks.EventRules

/-! Segment definitions and the boundary schema that admits them. -/

set_option autoImplicit false

namespace LocalCrm.Segments

inductive ConditionOperator where
  | eq
  | neq
  | contains
  | notContains
  | isEmpty
  | isNotEmpty
  | gt
  | gte
  | lt
  | lte
  | isTrue
  | isFalse
  | before
  | after
  | inLastDays
  | hasTag
  | notHasTag
  deriving DecidableEq, Repr

inductive AttributeSource where
  | standard
  | custom
  deriving DecidableEq, Repr

/-- A JavaScript value handed on as it came; `none` is `undefined`. -/
abbrev Value := Option JsonValue

structure AttributeCondition where
  source : AttributeSource
  field : String
  operator : ConditionOperator
  value : Value := none

inductive CountOperator where
  | atLeast
  | none
  deriving DecidableEq, Repr

inductive BehavioralTimeframe where
  | lastDays (days : Nat)
  | allTime
  deriving DecidableEq, Repr

structure BehavioralCondition where
  eventName : String
  countOperator : CountOperator
  count : Option Nat := none
  timeframe : BehavioralTimeframe

inductive SegmentCondition where
  | ofAttribute (condition : AttributeCondition)
  | ofBehavioral (condition : BehavioralCondition)

/-- At least one condition, as both the type and the schema say. -/
structure SegmentGroup where
  conditions : List SegmentCondition
  nonempty : conditions ≠ []

inductive Combinator where
  | and
  | or
  deriving DecidableEq, Repr

structure SegmentDefinition where
  groupCombinator : Option Combinator := none
  groups : List SegmentGroup
  nonempty : groups ≠ []

end LocalCrm.Segments
