import LocalCrm.Library.JsonText
import LocalCrm.Library.Pattern

/-! The one table of redaction rules: field names, and shapes of values. -/

set_option autoImplicit false

namespace LocalCrm.Redaction

open Library Library.JsonText Library.Pattern

def censor : Text := ascii "[REDACTED]"

section Units

def isDigit (unit : UInt16) : Bool := 0x30 ≤ unit.toNat && unit.toNat ≤ 0x39

def isUpper (unit : UInt16) : Bool := 0x41 ≤ unit.toNat && unit.toNat ≤ 0x5A

def isLower (unit : UInt16) : Bool := 0x61 ≤ unit.toNat && unit.toNat ≤ 0x7A

def isAlphanumeric (unit : UInt16) : Bool := isDigit unit || isUpper unit || isLower unit

def isHexDigit (unit : UInt16) : Bool :=
  isDigit unit || (0x41 ≤ unit.toNat && unit.toNat ≤ 0x46) || (0x61 ≤ unit.toNat && unit.toNat ≤ 0x66)

/-- `[0-9A-Za-z-]` -/
def isWordOrDash (unit : UInt16) : Bool := isAlphanumeric unit || unit == unitOf '-'

def isAlphanumericOr (others : String) (unit : UInt16) : Bool := isAlphanumeric unit || (ascii others).contains unit

/-- As far as the names of rules go: of all other units only the Kelvin sign has a lower case in ASCII. -/
def toLowerUnit (unit : UInt16) : UInt16 :=
  if isUpper unit then unit + 32 else if unit == 0x212A then unitOf 'k' else unit

end Units

section KeyRules

def keyRules : List Text :=
  ["sendgridKey", "apiKey", "password", "token", "secret", "apiSecret", "UNSUBSCRIBE_TOKEN_SECRET_PREVIOUS",
    "UNSUBSCRIBE_TOKEN_SECRET", "clientSecret", "refreshToken", "sessionToken", "accessToken", "authorization", "cookie",
    "plaintextDek", "email", "phone"].map ascii

def keyRuleNames : List Text := keyRules.map (·.map toLowerUnit)

def matchesKeyRule (key : Text) : Bool := keyRuleNames.contains (key.map toLowerUnit)

end KeyRules

section ValueRules

def literal (character : Char) : Pattern UInt16 := one (· == unitOf character)

def sendgridProviderKey : Pattern UInt16 :=
  let segment := repeated (one (isAlphanumericOr "_-")) 10 none
  inOrder (literal 'S') [literal 'G', literal '.', segment, literal '.', segment]

def emailLabel : Pattern UInt16 :=
  sequence (one isAlphanumeric) (optional (sequence (repeated (one isWordOrDash) 0 (some 61)) (one isAlphanumeric)))

def emailPattern : Pattern UInt16 :=
  inOrder (repeated (one (isAlphanumericOr ".!#$%&'*+/=?^_`\x7b|\x7d~-")) 1 none)
    [literal '@', emailLabel, repeated (sequence (literal '.') emailLabel) 1 none]

def uuidShape : Pattern UInt16 :=
  let hex (count : Nat) := repeated (one isHexDigit) count (some count)
  inOrder (hex 8) [literal '-', hex 4, literal '-', hex 4, literal '-', hex 4, literal '-', hex 12,
    notBefore (one isWordOrDash)]

def phonePattern : Pattern UInt16 :=
  let separator (unit : UInt16) := isWhitespace unit || (ascii "().-").contains unit
  inOrder (notAfter isWordOrDash) [optional (literal '+'), optional (literal '('), notBefore uuidShape, one isDigit,
    repeated (sequence (repeated (one separator) 0 none) (one isDigit)) 9 none, notBefore (one isWordOrDash)]

def valueRules : List (Pattern UInt16) := [sendgridProviderKey, emailPattern, phonePattern]

def matchesValuePattern (value : Text) : Bool := valueRules.any (·.test value)

end ValueRules

theorem censor_unmatched : matchesValuePattern censor = false := by decide +kernel

end LocalCrm.Redaction
