import LocalCrm.Delivery.TransportClassify

/-! The provider call, and the key taken out of what it throws. -/

set_option autoImplicit false

namespace LocalCrm.Delivery

/-- A value that can be thrown. Objects are addresses of a heap, so causes may be shared or form a cycle. -/
inductive ErrorValue where
  | undefined
  | null
  | text (value : String)
  | primitive (printed : String)
  | object (address : Nat)
  deriving DecidableEq, Repr

/-- `printed` is what the object converts to, `none` where the conversion throws. -/
structure ErrorObject where
  isError : Bool
  code : ErrorValue := .undefined
  message : ErrorValue := .undefined
  stack : ErrorValue := .undefined
  cause : ErrorValue := .undefined
  printed : Option String := none
  deriving DecidableEq, Repr

abbrev ErrorHeap := List ErrorObject

inductive FetchOutcome where
  | resolved (status : Nat) (messageId : Option String)
  | rejected (err : ErrorValue)
  deriving DecidableEq, Repr

inductive SendMailFailure where
  | released
  | reconciling
  deriving DecidableEq, Repr

def ErrorValue.textOf : ErrorValue → Option String
  | .text value => some value
  | .undefined | .null | .primitive _ | .object _ => none

section Classifier

variable (heap : ErrorHeap)

def codeOf : ErrorValue → Option String
  | .object address => (heap[address]?).bind fun object => object.code.textOf
  | .undefined | .null | .text _ | .primitive _ => none

def causeOf : ErrorValue → ErrorValue
  | .object address => ((heap[address]?).map ErrorObject.cause).getD .undefined
  | .undefined | .null | .text _ | .primitive _ => .undefined

/-- What the classifier reads of a value: its code and that of its cause, one level down. -/
def thrownValue (err : ErrorValue) : ThrownValue :=
  .wrapping (codeOf heap err) (.object (codeOf heap (causeOf heap err)))

def SendMailFailure.handleAmbiguousSendMailError (err : ErrorValue) : SendMailFailure :=
  match classifyTransportError (thrownValue heap err) with
  | .preConnectionRetryable => .released
  | .ambiguous => .reconciling

end Classifier

section Redaction

/-- An empty separator splits a text into its characters. -/
def splitText (text separator : String) : List String :=
  if separator.isEmpty then text.toList.map String.singleton else text.splitOn separator

def redacted (apiKey text : String) : String := "[REDACTED]".intercalate (splitText text apiKey)

variable (stackTrace : String → String) (heap : ErrorHeap) (apiKey : String)

/-- A new error has neither code nor cause. -/
def newError (message : String) : ErrorObject where
  isError := true
  message := .text message
  stack := .text (stackTrace message)

/-- The text that `split` is called on, or what the call throws. -/
def splittable (place : String) : ErrorValue → Except String String
  | .text value => .ok value
  | .undefined => .error "Cannot read properties of undefined (reading 'split')"
  | .null => .error "Cannot read properties of null (reading 'split')"
  | .primitive _ | .object _ => .error (place ++ ".split is not a function")

def messageOf : ErrorValue → Except String String
  | .undefined => .ok "undefined"
  | .null => .ok "null"
  | .text value => .ok value
  | .primitive printed => .ok printed
  | .object address =>
    match heap[address]? with
    | none => splittable "message" .undefined
    | some object =>
      if object.isError then splittable "message" object.message
      else object.printed.elim (.error "Cannot convert object to primitive value") .ok

def isFalsy : ErrorValue → Bool
  | .undefined | .null => true
  | .text value => value.isEmpty
  | .primitive printed => ["false", "0", "NaN"].contains printed
  | .object _ => false

/-- The stack to carry over, if there is one. -/
def stackOf : ErrorValue → Except String (Option String)
  | .object address =>
    match (heap[address]?).filter ErrorObject.isError with
    | none => .ok none
    | some object => if isFalsy object.stack then .ok none else (splittable "err.stack" object.stack).map some
  | .undefined | .null | .text _ | .primitive _ => .ok none

def redactApiKey (err : ErrorValue) : ErrorObject :=
  match messageOf heap err, stackOf heap err with
  | .ok message, .ok stack =>
    let fresh := newError stackTrace (redacted apiKey message)
    { fresh with stack := (stack.map fun stack => ErrorValue.text (redacted apiKey stack)).getD fresh.stack }
  | .error failure, _ | .ok _, .error failure => newError stackTrace failure

/-- The heap after the call, and its result or what it throws. -/
def sendTenantMailV3 : FetchOutcome → ErrorHeap × Except ErrorValue (Nat × Option String)
  | .resolved status messageId => (heap, .ok (status, messageId))
  | .rejected err => (heap ++ [redactApiKey stackTrace heap apiKey err], .error (.object heap.length))

end Redaction

section Classification

variable {stackTrace : String → String} {heap : ErrorHeap} {apiKey : String}

theorem redactApiKey_bare (err : ErrorValue) :
    (redactApiKey stackTrace heap apiKey err).code = .undefined ∧
      (redactApiKey stackTrace heap apiKey err).cause = .undefined := by
  unfold redactApiKey
  split <;> exact ⟨rfl, rfl⟩

theorem thrownValue_redacted (err : ErrorValue) :
    thrownValue (heap ++ [redactApiKey stackTrace heap apiKey err]) (.object heap.length) =
      .wrapping none (.object none) := by
  have bare := @redactApiKey_bare stackTrace heap apiKey err
  simp only [thrownValue, codeOf, causeOf, List.getElem?_concat_length, Option.bind_some, Option.map_some,
    Option.getD_some, bare.1, bare.2, ErrorValue.textOf]

def PreConnection (code : Option String) : Prop := ∃ text, code = some text ∧ text ∈ preConnectionCodes

theorem any_preConnection {code : Option String} : code.any (· ∈ preConnectionCodes) = true ↔ PreConnection code := by
  rw [Option.any_eq_true]
  simp only [decide_eq_true_eq]
  rfl

theorem classifyTransportError_retryable_iff {err : ErrorValue} :
    classifyTransportError (thrownValue heap err) = .preConnectionRetryable ↔
      PreConnection (codeOf heap err) ∨ PreConnection (codeOf heap (causeOf heap err)) := by
  have own : readCode (thrownValue heap err) = codeOf heap err := rfl
  have wrapped : readCode (thrownValue heap err).cause = codeOf heap (causeOf heap err) := rfl
  rw [classifyTransportError, own, wrapped, ← any_preConnection, ← any_preConnection]
  split
  · next first => exact iff_of_true rfl (.inl first)
  · next other =>
    split
    · next second => exact iff_of_true rfl (.inr second)
    · next neither => exact iff_of_false (by simp) fun either => either.elim other neither

/-- What the call rejects with is classified the same before and after the redaction, or its own code and that
of its cause prove nothing. -/
theorem classification_survives_iff (stackTrace : String → String) (heap : ErrorHeap) (apiKey : String)
    (err : ErrorValue) :
    (∃ after thrown, sendTenantMailV3 stackTrace heap apiKey (.rejected err) = (after, .error thrown) ∧
        classifyTransportError (thrownValue after thrown) = classifyTransportError (thrownValue heap err) ∧
          (classifyTransportError (thrownValue heap err) = .preConnectionRetryable →
            SendMailFailure.handleAmbiguousSendMailError after thrown = .released)) ↔
      ¬ PreConnection (codeOf heap err) ∧ ¬ PreConnection (codeOf heap (causeOf heap err)) := by
  have lost : classifyTransportError (thrownValue (heap ++ [redactApiKey stackTrace heap apiKey err])
      (.object heap.length)) = .ambiguous := by
    rw [thrownValue_redacted]
    rfl
  rw [← not_or, ← classifyTransportError_retryable_iff]
  constructor
  · rintro ⟨after, thrown, left, same, _⟩ provable
    cases left
    rw [lost, provable] at same
    cases same
  · intro unprovable
    refine ⟨_, _, rfl, ?_, fun provable => absurd provable unprovable⟩
    rw [lost]
    cases verdict : classifyTransportError (thrownValue heap err) with
    | preConnectionRetryable => exact absurd verdict unprovable
    | ambiguous => rfl

def refusedConnection : ErrorHeap :=
  [{ isError := true, code := .text "ECONNREFUSED", message := .text "connect ECONNREFUSED 127.0.0.1:443" },
   { isError := true, message := .text "fetch failed", cause := .object 0 }]

theorem refused_connection_unretried :
    classifyTransportError (thrownValue refusedConnection (.object 1)) = .preConnectionRetryable ∧
      ∀ stackTrace apiKey after thrown,
        sendTenantMailV3 stackTrace refusedConnection apiKey (.rejected (.object 1)) = (after, .error thrown) →
          classifyTransportError (thrownValue after thrown) = .ambiguous ∧
            SendMailFailure.handleAmbiguousSendMailError after thrown = .reconciling := by
  constructor
  · decide
  · rintro stackTrace apiKey after thrown left
    cases left
    exact ⟨rfl, rfl⟩

end Classification

end LocalCrm.Delivery
