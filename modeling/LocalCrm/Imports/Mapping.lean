import LocalCrm.Contacts.Repository

/-! How one staged row of a CSV file becomes a contact: the column mapping. -/

set_option autoImplicit false

namespace LocalCrm.Imports

open Contacts Webhooks

/-- One row of the file, header to cell. -/
abbrev CsvRecord := List (String × String)

/-- Header to field, in the order in which the entries of the object are listed. -/
abbrev CsvColumnMapping := List (String × String)

/-- The contact under construction; its status is checked once the whole row is mapped. -/
structure MappedRow where
  externalId : Option String := none
  email : Option String := none
  profile : ContactProfile := {}
  tags : Option (List String) := none
  subscriptionStatus : Option String := none
  properties : Properties := []
  deriving DecidableEq, Repr

/-- Assigning a field of an object keeps the place of one that is there. -/
def assignProperty (properties : Properties) (field : String) (value : JsonValue) : Properties :=
  if properties.any fun property => property.1 == field then
    properties.map fun property => if property.1 == field then (field, value) else property
  else properties ++ [(field, value)]

def splitTags (value : String) : List String :=
  ((value.toList.splitOn ',').map fun tag => jsTrim (String.ofList tag)).filter fun tag => !tag.isEmpty

inductive StandardField where
  | externalId
  | email
  | firstName
  | lastName
  | phone
  | city
  | country
  | timezone
  | tags
  | subscriptionStatus
  deriving DecidableEq, Repr

def standardField : String → Option StandardField
  | "externalId" => some .externalId
  | "email" => some .email
  | "firstName" => some .firstName
  | "lastName" => some .lastName
  | "phone" => some .phone
  | "city" => some .city
  | "country" => some .country
  | "timezone" => some .timezone
  | "tags" => some .tags
  | "subscriptionStatus" => some .subscriptionStatus
  | _ => none

def assignStandard (boundary : Boundary) (target : MappedRow) (value : String) : StandardField → MappedRow
  | .externalId => { target with externalId := some value }
  | .email => { target with email := some (boundary.toLowerCase (jsTrim value)) }
  | .firstName => { target with profile := { target.profile with firstName := some value } }
  | .lastName => { target with profile := { target.profile with lastName := some value } }
  | .phone => { target with profile := { target.profile with phone := some value } }
  | .city => { target with profile := { target.profile with city := some value } }
  | .country => { target with profile := { target.profile with country := some value } }
  | .timezone => { target with profile := { target.profile with timezone := some value } }
  | .tags => { target with tags := some (splitTags value) }
  | .subscriptionStatus => { target with subscriptionStatus := some (boundary.toLowerCase (jsTrim value)) }

def assignField (boundary : Boundary) (target : MappedRow) (field value : String) : MappedRow :=
  match standardField field with
  | some standard => assignStandard boundary target value standard
  | none => { target with properties := assignProperty target.properties field (.string value) }

/-- A cell that is empty leaves its field alone. -/
def applyColumn (boundary : Boundary) (raw : CsvRecord) (target : MappedRow) (column : String × String) : MappedRow :=
  ((given (raw.lookup column.1)).map (assignField boundary target column.2)).getD target

/-- The default fills a row without a time zone of its own and overrides none. -/
def fillTimezone (defaultTimezone : Option String) (target : MappedRow) : MappedRow :=
  { target with
    profile := { target.profile with timezone := target.profile.timezone.or (given defaultTimezone) } }

/-- `/^[^\s@]+@[^\s@]+\.[^\s@]+$/` -/
def emailRe (text : String) : Bool :=
  match text.toList.splitOn '@' with
  | [mailbox, domain] =>
    !mailbox.isEmpty && domain.tail.dropLast.contains '.' && !text.toList.any jsWhitespace
  | _ => false

/-- Neither a nonsense value nor `suppressed` may be set from a cell. -/
def csvSettableSubscriptionStatus : String → Option SubscriptionStatus
  | "subscribed" => some .subscribed
  | "unsubscribed" => some .unsubscribed
  | _ => none

def mappingError (boundary : Boundary) (target : MappedRow) : Option String :=
  if target.subscriptionStatus.any fun status => (csvSettableSubscriptionStatus status).isNone then
    some "Invalid subscription status"
  else if target.profile.timezone.any fun timezone => !boundary.isValidIanaTimezone timezone then
    some "Invalid timezone"
  else if !truthy target.externalId && !truthy target.email then
    some "Missing both external_id and email (D-02)"
  else if (given target.email).any fun email => !emailRe email then some "Invalid email format"
  else none

def mappedInput (target : MappedRow) : UpsertContactIdentityInput where
  externalId := target.externalId
  email := target.email
  profile := target.profile
  tags := target.tags
  properties := some target.properties
  subscriptionStatus := target.subscriptionStatus.bind csvSettableSubscriptionStatus

def applyCsvRowMapping (boundary : Boundary) (raw : CsvRecord) (mapping : CsvColumnMapping)
    (defaultTimezone : Option String) : Except String UpsertContactIdentityInput :=
  let target := fillTimezone defaultTimezone (mapping.foldl (applyColumn boundary raw) {})
  match mappingError boundary target with
  | some error => .error error
  | none => .ok (mappedInput target)

end LocalCrm.Imports
