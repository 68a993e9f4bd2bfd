import LanguageClient.Number.Binary64

/-!
# JSON values

Integers and floating-point numbers are told apart, integers have any size, and the members of an
object keep the order in which they were first given.
-/

namespace LanguageClient.Json

open LanguageClient.Number

/-- A JSON value. -/
inductive Value where
  | null
  | bool (value : Bool)
  | int (value : Int)
  | float (value : Binary64)
  | string (value : String)
  | array (items : List Value)
  | object (members : List (String × Value))
  deriving Inhabited, Repr

mutual

/-- Decides whether two values are the same value, member order included. -/
def Value.decideEq : (left right : Value) → Decidable (left = right)
  | .null, right =>
    match right with
    | .null => isTrue rfl
    | .bool _ | .int _ | .float _ | .string _ | .array _ | .object _ => isFalse nofun
  | .bool left, right =>
    match right with
    | .bool right =>
      if same : left = right then isTrue (by rw [same]) else isFalse (by simpa using same)
    | .null | .int _ | .float _ | .string _ | .array _ | .object _ => isFalse nofun
  | .int left, right =>
    match right with
    | .int right =>
      if same : left = right then isTrue (by rw [same]) else isFalse (by simpa using same)
    | .null | .bool _ | .float _ | .string _ | .array _ | .object _ => isFalse nofun
  | .float left, right =>
    match right with
    | .float right =>
      if same : left = right then isTrue (by rw [same]) else isFalse (by simpa using same)
    | .null | .bool _ | .int _ | .string _ | .array _ | .object _ => isFalse nofun
  | .string left, right =>
    match right with
    | .string right =>
      if same : left = right then isTrue (by rw [same]) else isFalse (by simpa using same)
    | .null | .bool _ | .int _ | .float _ | .array _ | .object _ => isFalse nofun
  | .array left, right =>
    match right with
    | .array right =>
      match Value.decideEqItems left right with
      | isTrue same => isTrue (by rw [same])
      | isFalse different => isFalse (by simpa using different)
    | .null | .bool _ | .int _ | .float _ | .string _ | .object _ => isFalse nofun
  | .object left, right =>
    match right with
    | .object right =>
      match Value.decideEqMembers left right with
      | isTrue same => isTrue (by rw [same])
      | isFalse different => isFalse (by simpa using different)
    | .null | .bool _ | .int _ | .float _ | .string _ | .array _ => isFalse nofun

/-- Decides whether two arrays hold the same values. -/
def Value.decideEqItems : (left right : List Value) → Decidable (left = right)
  | [], [] => isTrue rfl
  | [], _ :: _ => isFalse nofun
  | _ :: _, [] => isFalse nofun
  | left :: lefts, right :: rights =>
    match Value.decideEq left right, Value.decideEqItems lefts rights with
    | isTrue same, isTrue sameRest => isTrue (by rw [same, sameRest])
    | isFalse different, _ => isFalse fun same => different (List.cons.inj same).1
    | _, isFalse different => isFalse fun same => different (List.cons.inj same).2

/-- Decides whether two objects hold the same members in the same order. -/
def Value.decideEqMembers : (left right : List (String × Value)) → Decidable (left = right)
  | [], [] => isTrue rfl
  | [], _ :: _ => isFalse nofun
  | _ :: _, [] => isFalse nofun
  | (key, left) :: lefts, (otherKey, right) :: rights =>
    if sameKey : key = otherKey then
      match Value.decideEq left right, Value.decideEqMembers lefts rights with
      | isTrue same, isTrue sameRest => isTrue (by rw [sameKey, same, sameRest])
      | isFalse different, _ =>
        isFalse fun same => different (Prod.mk.inj (List.cons.inj same).1).2
      | _, isFalse different => isFalse fun same => different (List.cons.inj same).2
    else isFalse fun same => sameKey (Prod.mk.inj (List.cons.inj same).1).1

end

instance : DecidableEq Value := Value.decideEq

def member? (key : String) (members : List (String × Value)) : Option Value :=
  (members.find? fun entry => entry.1 = key).map (·.2)

/-- Gives a key a value: an old key keeps its place, a new one goes to the end. -/
def insertMember (key : String) (value : Value) : List (String × Value) → List (String × Value)
  | [] => [(key, value)]
  | entry :: rest =>
    if entry.1 = key then (key, value) :: rest else entry :: insertMember key value rest

/-- The members of a written object: the last value of a repeated key counts. -/
def collectMembers (written : List (String × Value)) : List (String × Value) :=
  written.foldl (fun members entry => insertMember entry.1 entry.2 members) []

namespace Value

def get? (key : String) : Value → Option Value
  | .object members => member? key members
  | _ => none

/-- The value of a key of an object; a null value counts as absent. -/
def present? (key : String) (value : Value) : Option Value :=
  match value.get? key with
  | none | some .null => none
  | some found => some found

/-- Whether a value counts as true: all do but null, false, zero and what is empty. -/
def truthy : Value → Bool
  | .null => false
  | .bool value => value
  | .int value => value != 0
  | .float value => !value.isZero
  | .string value => value != ""
  | .array items => !items.isEmpty
  | .object members => !members.isEmpty

/-- The integer that a number or a truth value equals, if there is one. -/
def integral? : Value → Option Int
  | .bool value => some (if value then 1 else 0)
  | .int value => some value
  | .float value => value.integral?
  | .null | .string _ | .array _ | .object _ => none

def strings (items : List String) : Value := .array (items.map .string)

end Value

/-! ## Nesting -/

mutual

/-- Whether no more than a number of lists and objects stand inside one another. -/
def Value.hasDepthWithin : Nat → Value → Bool
  | 0, .array _ => false
  | limit + 1, .array items => itemsHaveDepthWithin limit items
  | 0, .object _ => false
  | limit + 1, .object members => membersHaveDepthWithin limit members
  | _, .null | _, .bool _ | _, .int _ | _, .float _ | _, .string _ => true

def itemsHaveDepthWithin : Nat → List Value → Bool
  | _, [] => true
  | limit, item :: rest => item.hasDepthWithin limit && itemsHaveDepthWithin limit rest

/-- Whether the same holds for all members of an object. -/
def membersHaveDepthWithin : Nat → List (String × Value) → Bool
  | _, [] => true
  | limit, (_, value) :: rest => value.hasDepthWithin limit && membersHaveDepthWithin limit rest

end

end LanguageClient.Json
