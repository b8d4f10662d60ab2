import Mathlib.Data.Rat.Defs

/-! JSON values, as parsed request bodies and `jsonb` columns hold them. -/

set_option autoImplicit false

namespace LocalCrm

inductive JsonValue where
  | null
  | boolean (value : Bool)
  | number (value : Rat)
  | string (value : String)
  | array (items : List JsonValue)
  | object (fields : List (String × JsonValue))
  deriving Repr

namespace JsonValue

mutual

def equal : (left right : JsonValue) → Decidable (left = right)
  | null, null => isTrue rfl
  | boolean left, boolean right => decidable_of_iff (left = right) (by simp)
  | number left, number right => decidable_of_iff (left = right) (by simp)
  | string left, string right => decidable_of_iff (left = right) (by simp)
  | array left, array right => @decidable_of_iff _ (left = right) (by simp) (equalItems left right)
  | object left, object right => @decidable_of_iff _ (left = right) (by simp) (equalFields left right)
  | null, boolean _ | null, number _ | null, string _ | null, array _ | null, object _
  | boolean _, null | boolean _, number _ | boolean _, string _ | boolean _, array _ | boolean _, object _
  | number _, null | number _, boolean _ | number _, string _ | number _, array _ | number _, object _
  | string _, null | string _, boolean _ | string _, number _ | string _, array _ | string _, object _
  | array _, null | array _, boolean _ | array _, number _ | array _, string _ | array _, object _
  | object _, null | object _, boolean _ | object _, number _ | object _, string _ | object _, array _ =>
    isFalse (by simp)

def equalItems : (left right : List JsonValue) → Decidable (left = right)
  | [], [] => isTrue rfl
  | [], _ :: _ | _ :: _, [] => isFalse (by simp)
  | first :: left, second :: right =>
    match equal first second, equalItems left right with
    | isTrue same, isTrue rest => isTrue (by rw [same, rest])
    | isFalse differ, _ => isFalse fun same => differ (List.cons.inj same).1
    | _, isFalse differ => isFalse fun same => differ (List.cons.inj same).2

def equalFields : (left right : List (String × JsonValue)) → Decidable (left = right)
  | [], [] => isTrue rfl
  | [], _ :: _ | _ :: _, [] => isFalse (by simp)
  | (name, first) :: left, (other, second) :: right =>
    if named : name = other then
      match equal first second, equalFields left right with
      | isTrue same, isTrue rest => isTrue (by rw [named, same, rest])
      | isFalse differ, _ => isFalse fun same => differ (Prod.mk.inj (List.cons.inj same).1).2
      | _, isFalse differ => isFalse fun same => differ (List.cons.inj same).2
    else isFalse fun same => named (Prod.mk.inj (List.cons.inj same).1).1

end

instance : DecidableEq JsonValue := equal

/-- A property read; `none` stands for `undefined`. -/
def field (value : JsonValue) (name : String) : Option JsonValue :=
  match value with
  | object fields => (fields.find? fun field => field.1 == name).map Prod.snd
  | _ => none

def stringField (value : JsonValue) (name : String) : Option String :=
  match value.field name with
  | some (string text) => some text
  | _ => none

end JsonValue

end LocalCrm
