import LocalCrm.Schema

/-! Classification of what a rejected provider call proves.

Only a connection that provably never opened may be retried; every other rejection leaves the outcome unknown.
-/

set_option autoImplicit false

namespace LocalCrm.Delivery

/-- A thrown value as the classifier reads it: `code` is present only when it is a string. -/
inductive ThrownValue where
  | primitive
  | object (code : Option String)
  | wrapping (code : Option String) (cause : ThrownValue)
  deriving DecidableEq, Repr

inductive TransportClassification where
  | preConnectionRetryable
  | ambiguous
  deriving DecidableEq, Repr

def preConnectionCodes : List String := ["ENOTFOUND", "EAI_AGAIN", "ECONNREFUSED"]

def readCode : ThrownValue → Option String
  | .primitive => none
  | .object code => code
  | .wrapping code _ => code

def ThrownValue.cause : ThrownValue → ThrownValue
  | .wrapping _ cause => cause
  | .primitive | .object _ => .primitive

def classifyTransportError (err : ThrownValue) : TransportClassification :=
  if (readCode err).any (· ∈ preConnectionCodes) then .preConnectionRetryable
  else if (readCode err.cause).any (· ∈ preConnectionCodes) then .preConnectionRetryable
  else .ambiguous

/-- How one provider call ended, as far as the worker can observe. -/
inductive CallOutcome where
  | response (status : Nat) (messageId : Option String)
  | threw (err : ThrownValue)
  deriving DecidableEq, Repr

def CallOutcome.provenNotAccepted : CallOutcome → Bool
  | .response status _ => status == 429 || status ≥ 500
  | .threw err => classifyTransportError err == .preConnectionRetryable

end LocalCrm.Delivery
