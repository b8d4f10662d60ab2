import LocalCrm.Segments.Definition

/-! `compileSegmentDefinition`: SQL text with numbered placeholders, and the list they refer to. -/

set_option autoImplicit false

namespace LocalCrm.Segments

inductive SqlPiece (Bound : Type) where
  | text (sql : String)
  | bound (value : Bound)
  deriving DecidableEq

abbrev Sql (Bound : Type) := List (SqlPiece Bound)

def joinSql {Bound : Type} (separator : String) : List (Sql Bound) → Sql Bound
  | [] => []
  | [clause] => clause
  | clause :: rest => clause ++ .text separator :: joinSql separator rest

def standardFieldColumns : List (String × String) :=
  [("country", "c.country"), ("city", "c.city"), ("firstName", "c.first_name"), ("lastName", "c.last_name"),
    ("phone", "c.phone"), ("subscriptionStatus", "c.subscription_status"), ("tags", "c.tags")]

section Compilers

variable {m : Type → Type} [Monad m] [MonadExceptOf String m] {Bound : Type} (push : Value → m Bound)

-- `String(value)` of JavaScript
variable (string : Value → String)

def escapeOne (special : Char) (chars : List Char) : List Char :=
  chars.flatMap fun char => if char = special then ['\\', char] else [char]

def escapeLikeWildcards (value : Value) : String :=
  String.ofList (escapeOne '_' (escapeOne '%' (escapeOne '\\' (string value).toList)))

def likePattern (value : Value) : Value := some (.string ("%" ++ escapeLikeWildcards string value ++ "%"))

/-- `params.push(value)`, and the text around the placeholder. -/
def withOperand (value : Value) (before after : Sql Bound) : m (Sql Bound) := do
  let bound ← push value
  pure (before ++ .bound bound :: after)

def compileOperator (column : Sql Bound) (operator : ConditionOperator) (value : Value) : m (Sql Bound) :=
  let cast (rest : String) : Sql Bound := .text "(" :: column ++ [.text rest]
  match operator with
  | .eq => withOperand push value (column ++ [.text " = "]) []
  | .neq => withOperand push value (column ++ [.text " <> "]) []
  | .contains => withOperand push (likePattern string value) (column ++ [.text " ILIKE "]) []
  | .notContains =>
    withOperand push (likePattern string value) (.text "NOT (" :: column ++ [.text " ILIKE "]) [.text ")"]
  | .isEmpty => pure (.text "(" :: column ++ .text " IS NULL OR " :: column ++ [.text " = '')"])
  | .isNotEmpty => pure (.text "(" :: column ++ .text " IS NOT NULL AND " :: column ++ [.text " <> '')"])
  | .gt => withOperand push value (cast ")::numeric > ") []
  | .gte => withOperand push value (cast ")::numeric >= ") []
  | .lt => withOperand push value (cast ")::numeric < ") []
  | .lte => withOperand push value (cast ")::numeric <= ") []
  | .isTrue => withOperand push (some (.boolean true)) (cast ")::boolean = ") []
  | .isFalse => withOperand push (some (.boolean false)) (cast ")::boolean = ") []
  | .before => withOperand push value (cast ")::timestamptz < ") []
  | .after => withOperand push value (cast ")::timestamptz > ") []
  | .inLastDays => withOperand push value (cast ")::timestamptz >= now() - (") [.text " || ' days')::interval"]
  | .hasTag => withOperand push value (column ++ [.text " @> ARRAY["]) [.text "]::text[]"]
  | .notHasTag => withOperand push value (.text "NOT (" :: column ++ [.text " @> ARRAY["]) [.text "]::text[])"]

def columnOf (condition : AttributeCondition) : m (Sql Bound) :=
  match condition.source with
  | .standard => (standardFieldColumns.lookup condition.field).elim
    (throw ("Unknown standard field: " ++ condition.field)) fun mapped => pure [.text mapped]
  | .custom => withOperand push (some (.string condition.field)) [.text "c.properties ->> "] []

def compileAttributeCondition (condition : AttributeCondition) : m (Sql Bound) := do
  let column ← columnOf push condition
  compileOperator push string column condition.operator condition.value

def timeClauseOf : BehavioralTimeframe → m (Sql Bound)
  | .lastDays days => withOperand push (some (.number days)) [.text " AND e.occurred_at >= now() - ("]
    [.text " || ' days')::interval"]
  | .allTime => pure []

def BehavioralCondition.negate (condition : BehavioralCondition) : Bool := condition.countOperator == .none

def havingClauseOf (condition : BehavioralCondition) : m (Sql Bound) :=
  if !condition.negate && decide (1 < condition.count.getD 1) then
    withOperand push (some (.number (condition.count.getD 1)))
      [.text " GROUP BY e.contact_id HAVING count(*) >= "] []
  else pure []

def compileBehavioralCondition (condition : BehavioralCondition) : m (Sql Bound) := do
  let eventName ← withOperand push (some (.string condition.eventName)) [.text "e.name = "] []
  let timeClause ← timeClauseOf push condition.timeframe
  let havingClause ← havingClauseOf push condition
  pure (.text (if condition.negate then "NOT " else "") ::
    .text "EXISTS (SELECT 1 FROM events e WHERE e.workspace_id = c.workspace_id AND e.contact_id = c.id AND " ::
    eventName ++ timeClause ++ havingClause ++ [.text ")"])

def compileCondition : SegmentCondition → m (Sql Bound)
  | .ofAttribute condition => compileAttributeCondition push string condition
  | .ofBehavioral condition => compileBehavioralCondition push condition

def compileEach {Item : Type} (compile : Item → m (Sql Bound)) : List Item → m (List (Sql Bound))
  | [] => pure []
  | item :: rest => do
    let clause ← compile item
    let clauses ← compileEach compile rest
    pure (clause :: clauses)

def compileGroup (group : SegmentGroup) : m (Sql Bound) := do
  let clauses ← compileEach (compileCondition push string) group.conditions
  pure (.text "(" :: joinSql " OR " clauses ++ [.text ")"])

/-- Groups joined by OR get a parenthesis of their own, outside of which the base predicate stays. -/
def combineGroups (combinator : Combinator) (groupClauses : List (Sql Bound)) : List (Sql Bound) :=
  if combinator = .or ∧ 1 < groupClauses.length then [.text "(" :: joinSql " OR " groupClauses ++ [.text ")"]]
  else groupClauses

def compileDefinition (definition : SegmentDefinition) (workspaceId : String) : m (Sql Bound) := do
  let workspace ← withOperand push (some (.string workspaceId)) [.text "c.workspace_id = "] []
  let groupClauses ← compileEach (compileGroup push string) definition.groups
  pure (joinSql " AND " (workspace :: [.text "c.anonymized_at IS NULL"] ::
    combineGroups (definition.groupCombinator.getD .and) groupClauses))

end Compilers

def pushParam (value : Value) : StateT (List Value) (Except String) Nat :=
  fun params => .ok (params.length + 1, params ++ [value])

structure CompiledSegment where
  whereSql : Sql Nat
  params : List Value

def compileSegmentDefinition (string : Value → String) (definition : SegmentDefinition) (workspaceId : String) :
    Except String CompiledSegment :=
  ((compileDefinition pushParam string definition workspaceId).run []).map fun (whereSql, params) =>
    { whereSql, params }

/-- A definition without the values its author supplied. -/
def AttributeCondition.erased (condition : AttributeCondition) : AttributeCondition :=
  { condition with
    value := none
    field := match condition.source with
      | .standard => condition.field
      | .custom => "" }

def BehavioralCondition.erased (condition : BehavioralCondition) : BehavioralCondition :=
  { condition with
    eventName := ""
    count := condition.count.map fun count => min count 2
    timeframe := match condition.timeframe with
      | .lastDays _ => .lastDays 0
      | .allTime => .allTime }

def SegmentCondition.erased : SegmentCondition → SegmentCondition
  | .ofAttribute condition => .ofAttribute condition.erased
  | .ofBehavioral condition => .ofBehavioral condition.erased

def SegmentGroup.erased (group : SegmentGroup) : SegmentGroup where
  conditions := group.conditions.map SegmentCondition.erased
  nonempty := fun empty => group.nonempty (List.map_eq_nil_iff.mp empty)

def SegmentDefinition.erased (definition : SegmentDefinition) : SegmentDefinition where
  groupCombinator := definition.groupCombinator
  groups := definition.groups.map SegmentGroup.erased
  nonempty := fun empty => definition.nonempty (List.map_eq_nil_iff.mp empty)

section Erasure

variable {m : Type → Type} [Monad m] {Bound : Type} {push : Value → m Bound}

/-- Where a push gives back nothing of the value, the text does not depend on it. -/
theorem withOperand_blind (blind : ∀ first second, push first = push second) (first second : Value)
    (before after : Sql Bound) : withOperand push first before after = withOperand push second before after := by
  rw [withOperand, blind first second, withOperand]

theorem compileEach_congr {Item Other : Type} {compile : Item → m (Sql Bound)} {other : Other → m (Sql Bound)}
    {view : Item → Other} (same : ∀ item, other (view item) = compile item) (items : List Item) :
    compileEach other (items.map view) = compileEach compile items := by
  induction items with
  | nil => rfl
  | cons item rest ih => rw [List.map_cons, compileEach, ih, same, compileEach]

variable [MonadExceptOf String m] {string : Value → String}

theorem compileCondition_erased (blind : ∀ first second, push first = push second) (condition : SegmentCondition) :
    compileCondition push string condition.erased = compileCondition push string condition := by
  cases condition with
  | ofAttribute condition =>
    obtain ⟨source, field, operator, value⟩ := condition
    have column : columnOf push (AttributeCondition.erased ⟨source, field, operator, value⟩) =
        columnOf push ⟨source, field, operator, value⟩ := by
      cases source with
      | standard => rfl
      | custom => exact withOperand_blind blind (some (.string "")) (some (.string field)) _ _
    have compared : ∀ column, compileOperator push string column operator none =
        compileOperator push string column operator value := by
      intro column
      cases operator with
      | isEmpty | isNotEmpty | isTrue | isFalse => rfl
      | contains | notContains =>
        exact withOperand_blind blind (likePattern string none) (likePattern string value) _ _
      | eq | neq | gt | gte | lt | lte | before | after | inLastDays | hasTag | notHasTag =>
        exact withOperand_blind blind none value _ _
    exact congrArg₂ bind column (funext compared)
  | ofBehavioral condition =>
    obtain ⟨eventName, countOperator, count, timeframe⟩ := condition
    have named := withOperand_blind blind (some (.string "")) (some (.string eventName)) [.text "e.name = "] []
    have timed : timeClauseOf push (BehavioralCondition.erased ⟨eventName, countOperator, count, timeframe⟩).timeframe =
        timeClauseOf push timeframe := by
      cases timeframe with
      | lastDays days =>
        exact withOperand_blind blind (some (.number (0 : Nat))) (some (.number days)) _ _
      | allTime => rfl
    have having_ : havingClauseOf push (BehavioralCondition.erased ⟨eventName, countOperator, count, timeframe⟩) =
        havingClauseOf push ⟨eventName, countOperator, count, timeframe⟩ := by
      have more : 1 < (count.map fun count => min count 2).getD 1 ↔ 1 < count.getD 1 := by
        cases count with
        | none => rfl
        | some count => simp
      simp only [havingClauseOf, BehavioralCondition.erased, BehavioralCondition.negate, more]
      exact ite_congr rfl (fun _ => withOperand_blind blind _ _ _ _) fun _ => rfl
    simp only [SegmentCondition.erased, compileCondition, compileBehavioralCondition, timed, having_]
    rw [BehavioralCondition.erased, named]
    rfl

theorem compileDefinition_erased (blind : ∀ first second, push first = push second) (definition : SegmentDefinition)
    (workspaceId : String) :
    compileDefinition push string definition.erased "" = compileDefinition push string definition workspaceId := by
  have groups : ∀ group, compileGroup push string (SegmentGroup.erased group) = compileGroup push string group := by
    intro group
    rw [compileGroup, SegmentGroup.erased, compileEach_congr (compileCondition_erased blind), compileGroup]
  rw [compileDefinition, SegmentDefinition.erased, compileEach_congr groups,
    withOperand_blind blind (some (.string "")) (some (.string workspaceId)), compileDefinition]

end Erasure

section Agreement

/-- `params.length` alone. -/
def pushIndex (_ : Value) : StateT Nat (Except String) Nat := fun length => .ok (length + 1, length + 1)

/-- The value itself, where the source puts its number. -/
def pushInline (value : Value) : Except String Value := .ok value

def SqlPiece.map {Bound Other : Type} (f : Bound → Other) : SqlPiece Bound → SqlPiece Other
  | .text sql => .text sql
  | .bound value => .bound (f value)

/-- `$1` is the first value of the list. -/
def paramAt (params : List Value) : Nat → Option Value
  | 0 => none
  | index + 1 => params[index]?

def resolve (params : List Value) (sql : Sql Nat) : Sql (Option Value) := sql.map (SqlPiece.map (paramAt params))

def Resolves (params : List Value) (sql : Sql Nat) (inline : Sql Value) : Prop :=
  resolve params sql = inline.map (SqlPiece.map some)

/-- One compilation with values, with their number only, and with the values in place. -/
structure Compiles {A B : Type} (params : List Value) (action : StateT (List Value) (Except String) A)
    (indexed : StateT Nat (Except String) A) (inline : Except String B) (related : List Value → A → B → Prop) :
    Prop where
  failed : ∀ error, inline = .error error → action params = .error error ∧ indexed params.length = .error error
  finished : ∀ result, inline = .ok result → ∃ answer added, action params = .ok (answer, params ++ added) ∧
    indexed params.length = .ok (answer, (params ++ added).length) ∧ related (params ++ added) answer result

variable {A B C D : Type} {params : List Value} {sql before after : Sql Nat} {inline first last : Sql Value}

theorem paramAt_extend {number : Nat} {value : Value} (found : paramAt params number = some value)
    (added : List Value) : paramAt (params ++ added) number = some value := by
  cases number with
  | zero => cases found
  | succ index => exact (List.getElem?_append_left (List.getElem?_eq_some_iff.mp found).1).trans found

theorem Resolves.extend (resolved : Resolves params sql inline) (added : List Value) :
    Resolves (params ++ added) sql inline := by
  induction sql generalizing inline with
  | nil => exact resolved
  | cons piece rest ih =>
    cases inline with
    | nil => cases resolved
    | cons placed others =>
      obtain ⟨here, onward⟩ := List.cons.inj resolved
      refine congrArg₂ List.cons (Eq.trans ?_ here) (ih onward)
      cases piece with
      | text sql => rfl
      | bound number =>
        cases placed with
        | text sql => cases here
        | bound value =>
          have found := SqlPiece.bound.inj here
          exact congrArg SqlPiece.bound ((paramAt_extend found added).trans found.symm)

theorem Resolves.append (head : Resolves params before first) (tail : Resolves params after last) :
    Resolves params (before ++ after) (first ++ last) := by
  rw [Resolves, resolve, List.map_append, List.map_append]
  exact congrArg₂ _ head tail

theorem Resolves.text (text : String) (tail : Resolves params sql inline) :
    Resolves params (.text text :: sql) (.text text :: inline) := congrArg (List.cons _) tail

theorem resolves_nil : Resolves params [] [] := rfl

section Steps

variable {action : StateT (List Value) (Except String) A} {indexed : StateT Nat (Except String) A}
  {result : Except String B} {related : List Value → A → B → Prop} {onward : List Value → C → D → Prop}

theorem run_bind {State : Type} {action : StateT State (Except String) A} {state : State}
    (next : A → StateT State (Except String) C) :
    (action >>= next) state = action state >>= fun pair : A × State => next pair.1 pair.2 := rfl

theorem Compiles.pure {answer : A} {value : B} (relates : related params answer value) :
    Compiles params (pure answer) (pure answer) (pure value) related := by
  constructor
  · intro _ failed
    cases failed
  · intro _ same
    cases same
    refine ⟨answer, [], ?_⟩
    rw [List.append_nil]
    exact ⟨rfl, rfl, relates⟩

theorem Compiles.bind (starts : Compiles params action indexed result related)
    {next : A → StateT (List Value) (Except String) C} {nextIndexed : A → StateT Nat (Except String) C}
    {nextResult : B → Except String D}
    (goes : ∀ added answer value, related (params ++ added) answer value →
      Compiles (params ++ added) (next answer) (nextIndexed answer) (nextResult value) onward) :
    Compiles params (action >>= next) (indexed >>= nextIndexed) (result >>= nextResult) onward := by
  cases result with
  | error error =>
    obtain ⟨failed, alike⟩ := starts.failed error rfl
    constructor
    · intro _ same
      cases same
      rw [run_bind, failed, run_bind, alike]
      exact ⟨rfl, rfl⟩
    · intro _ same
      cases same
  | ok value =>
    obtain ⟨answer, added, ran, alike, relates⟩ := starts.finished value rfl
    -- the second step starts from the values that the first has pushed
    obtain ⟨failed, finished⟩ := goes added answer value relates
    have stepped : (action >>= next) params = next answer (params ++ added) := by
      rw [run_bind, ran]
      rfl
    have counted : (indexed >>= nextIndexed) params.length = nextIndexed answer (params ++ added).length := by
      rw [run_bind, alike]
      rfl
    constructor
    · intro error same
      rw [stepped, counted]
      exact failed error same
    · intro value same
      obtain ⟨answer, more, ran, alike, relates⟩ := finished value same
      rw [List.append_assoc] at ran alike relates
      exact ⟨answer, added ++ more, stepped.trans ran, counted.trans alike, relates⟩

end Steps

theorem compiles_operand (value : Value) (leading : Resolves params before first)
    (trailing : Resolves params after last) :
    Compiles params (withOperand pushParam value before after) (withOperand pushIndex value before after)
      (withOperand pushInline value first last) Resolves := by
  constructor
  · intro _ failed
    cases failed
  · intro _ same
    cases same
    refine ⟨before ++ .bound (params.length + 1) :: after, [value], rfl, ?_, ?_⟩
    · rw [List.length_append]
      rfl
    · exact (leading.extend [value]).append (congrArg₂ List.cons
        (congrArg SqlPiece.bound List.getElem?_concat_length) (trailing.extend [value]))

variable {string : Value → String}

theorem compiles_operator (column : Resolves params sql inline) (operator : ConditionOperator) (value : Value) :
    Compiles params (compileOperator pushParam string sql operator value)
      (compileOperator pushIndex string sql operator value) (compileOperator pushInline string inline operator value)
      Resolves := by
  have one : ∀ text, Resolves params [.text text] [.text text] := fun text => resolves_nil.text text
  have followed : ∀ text, Resolves params (sql ++ [.text text]) (inline ++ [.text text]) :=
    fun text => column.append (one text)
  have wrapped : ∀ opening text,
      Resolves params (.text opening :: sql ++ [.text text]) (.text opening :: inline ++ [.text text]) :=
    fun opening text => (followed text).text opening
  cases operator with
  | eq | neq => exact compiles_operand value (followed _) resolves_nil
  | contains => exact compiles_operand (likePattern string value) (followed _) resolves_nil
  | notContains => exact compiles_operand (likePattern string value) (wrapped _ _) (one _)
  | isEmpty | isNotEmpty => exact Compiles.pure (((column.text _).append (column.text _)).append (one _))
  | gt | gte | lt | lte | before | after => exact compiles_operand value (wrapped _ _) resolves_nil
  | isTrue => exact compiles_operand (some (.boolean true)) (wrapped _ _) resolves_nil
  | isFalse => exact compiles_operand (some (.boolean false)) (wrapped _ _) resolves_nil
  | inLastDays => exact compiles_operand value (wrapped _ _) (one _)
  | hasTag => exact compiles_operand value (followed _) (one _)
  | notHasTag => exact compiles_operand value (wrapped _ _) (one _)

theorem compiles_condition (condition : SegmentCondition) (params : List Value) :
    Compiles params (compileCondition pushParam string condition) (compileCondition pushIndex string condition)
      (compileCondition pushInline string condition) Resolves := by
  have one : ∀ params text, Resolves params [.text text] [.text text] := fun _ text => resolves_nil.text text
  cases condition with
  | ofAttribute condition =>
    obtain ⟨source, field, operator, value⟩ := condition
    have column : Compiles params (columnOf pushParam ⟨source, field, operator, value⟩)
        (columnOf pushIndex ⟨source, field, operator, value⟩) (columnOf pushInline ⟨source, field, operator, value⟩)
        Resolves := by
      cases source with
      | standard =>
        simp only [columnOf]
        cases standardFieldColumns.lookup field with
        | none =>
          constructor
          · intro _ same
            cases same
            exact ⟨rfl, rfl⟩
          · intro _ same
            cases same
        | some mapped => exact Compiles.pure (one params mapped)
      | custom => exact compiles_operand _ (one params _) resolves_nil
    exact column.bind fun _ _ _ resolved => compiles_operator resolved operator value
  | ofBehavioral condition =>
    apply (compiles_operand (some (.string condition.eventName)) (one params "e.name = ") resolves_nil).bind
    intro named eventName eventValue event
    have timed : Compiles (params ++ named) (timeClauseOf pushParam condition.timeframe)
        (timeClauseOf pushIndex condition.timeframe) (timeClauseOf pushInline condition.timeframe) Resolves := by
      cases condition.timeframe with
      | lastDays days => exact compiles_operand _ (one _ _) (one _ _)
      | allTime => exact Compiles.pure resolves_nil
    apply timed.bind
    intro within timeClause timeValue time
    have counted : Compiles (params ++ named ++ within) (havingClauseOf pushParam condition)
        (havingClauseOf pushIndex condition) (havingClauseOf pushInline condition) Resolves := by
      simp only [havingClauseOf]
      split
      · exact compiles_operand _ (one _ _) resolves_nil
      · exact Compiles.pure resolves_nil
    apply counted.bind
    intro more havingClause havingValue counts
    exact Compiles.pure ((((((event.extend within).extend more).append (time.extend more)).append counts).append
      (one _ _)).text _ |>.text _)

/-- The clauses of a list, each resolved against the parameters of all. -/
def ResolveEach (params : List Value) (clauses : List (Sql Nat)) (inline : List (Sql Value)) : Prop :=
  List.Forall₂ (Resolves params) clauses inline

theorem compiles_each {Item : Type} {compile : Item → StateT (List Value) (Except String) (Sql Nat)}
    {indexed : Item → StateT Nat (Except String) (Sql Nat)} {result : Item → Except String (Sql Value)}
    (compiles : ∀ item params, Compiles params (compile item) (indexed item) (result item) Resolves)
    (items : List Item) (params : List Value) :
    Compiles params (compileEach compile items) (compileEach indexed items) (compileEach result items) ResolveEach := by
  induction items generalizing params with
  | nil => exact Compiles.pure List.Forall₂.nil
  | cons item rest ih =>
    apply (compiles item params).bind
    intro added clause value resolved
    apply (ih (params ++ added)).bind
    intro more clauses values others
    exact Compiles.pure (List.Forall₂.cons (resolved.extend more) others)

theorem resolves_join {clauses : List (Sql Nat)} {values : List (Sql Value)} (separator : String)
    (resolved : ResolveEach params clauses values) :
    Resolves params (joinSql separator clauses) (joinSql separator values) := by
  induction resolved with
  | nil => exact resolves_nil
  | cons first rest ih =>
    cases rest with
    | nil => exact first
    | cons second others => exact first.append (ih.text separator)

theorem resolves_combine {clauses : List (Sql Nat)} {values : List (Sql Value)} (combinator : Combinator)
    (resolved : ResolveEach params clauses values) :
    ResolveEach params (combineGroups combinator clauses) (combineGroups combinator values) := by
  unfold combineGroups
  rw [resolved.length_eq]
  split
  · exact .cons (((resolves_join " OR " resolved).append (resolves_nil.text ")")).text "(") .nil
  · exact resolved

theorem compiles_definition (definition : SegmentDefinition) (workspaceId : String) (params : List Value) :
    Compiles params (compileDefinition pushParam string definition workspaceId)
      (compileDefinition pushIndex string definition workspaceId)
      (compileDefinition pushInline string definition workspaceId) Resolves := by
  have group : ∀ group params, Compiles params (compileGroup pushParam string group)
      (compileGroup pushIndex string group) (compileGroup pushInline string group) Resolves := by
    intro group params
    apply (compiles_each compiles_condition group.conditions params).bind
    intro added clauses values resolved
    exact Compiles.pure (((resolves_join " OR " resolved).append (resolves_nil.text ")")).text "(")
  apply (compiles_operand (some (.string workspaceId)) (resolves_nil.text "c.workspace_id = ") resolves_nil).bind
  intro bound workspace workspaceValue owned
  apply (compiles_each group definition.groups (params ++ bound)).bind
  intro added clauses values resolved
  exact Compiles.pure (resolves_join " AND " (.cons (owned.extend added)
    (.cons (resolves_nil.text "c.anonymized_at IS NULL") (resolves_combine _ resolved))))

/-- With the values put back in for the placeholders, the text is the one that is compiled without numbering
anything, and both refuse the same definitions. -/
theorem compileSegmentDefinition_resolves (string : Value → String) (definition : SegmentDefinition)
    (workspaceId : String) :
    (∀ error, compileDefinition pushInline string definition workspaceId = .error error →
      compileSegmentDefinition string definition workspaceId = .error error) ∧
    ∀ inline, compileDefinition pushInline string definition workspaceId = .ok inline →
      ∃ compiled, compileSegmentDefinition string definition workspaceId = .ok compiled ∧
        resolve compiled.params compiled.whereSql = inline.map (SqlPiece.map some) := by
  obtain ⟨failed, finished⟩ := @compiles_definition string definition workspaceId []
  constructor
  · intro error refused
    exact congrArg (Except.map _) (failed error refused).1
  · intro inline placed
    obtain ⟨whereSql, params, ran, _, resolved⟩ := finished inline placed
    exact ⟨{ whereSql, params }, congrArg (Except.map _) ran, resolved⟩

/-- No value that the author of a definition supplies has a part in the SQL text. -/
theorem whereSql_erased (string : Value → String) (definition : SegmentDefinition) (workspaceId : String) :
    (compileSegmentDefinition string definition.erased "").map CompiledSegment.whereSql =
      (compileSegmentDefinition string definition workspaceId).map CompiledSegment.whereSql := by
  have indexed : ∀ definition workspaceId,
      (compileSegmentDefinition string definition workspaceId).map CompiledSegment.whereSql =
        (compileDefinition pushIndex string definition workspaceId 0).map Prod.fst := by
    intro definition workspaceId
    obtain ⟨failed, finished⟩ := @compiles_definition string definition workspaceId []
    cases placed : compileDefinition pushInline string definition workspaceId with
    | error error =>
      obtain ⟨ran, alike⟩ := failed error placed
      have counted : compileDefinition pushIndex string definition workspaceId 0 = .error error := alike
      rw [compileSegmentDefinition, StateT.run, ran, counted]
      rfl
    | ok inline =>
      obtain ⟨whereSql, params, ran, alike, _⟩ := finished inline placed
      have counted : compileDefinition pushIndex string definition workspaceId 0 =
          .ok (whereSql, ([] ++ params).length) := alike
      rw [compileSegmentDefinition, StateT.run, ran, counted]
      rfl
  rw [indexed, indexed, compileDefinition_erased (fun _ _ => rfl) definition workspaceId]

end Agreement

end LocalCrm.Segments
