import SlideDeck.Json.Number

/-! # JSON values

Objects hold their members as a list of names and values. An object in normal
form has its names in ascending order and each of them once.
-/

namespace SlideDeck

/-- A JSON value. -/
inductive Json
  | null
  | bool (value : Bool)
  | number (value : Json.Number)
  | string (value : String)
  | array (items : List Json)
  | object (members : List (String × Json))

namespace Json

instance : Inhabited Json := ⟨.null⟩

/-- The six kinds of JSON values. -/
inductive Kind
  | null
  | boolean
  | number
  | string
  | array
  | object
deriving DecidableEq, Repr

/-- The name of a kind in messages. -/
def Kind.name : Kind → String
  | .null => "null"
  | .boolean => "boolean"
  | .number => "number"
  | .string => "string"
  | .array => "array"
  | .object => "object"

/-- The kind of a value. -/
def kind : Json → Kind
  | .null => .null
  | .bool _ => .boolean
  | .number _ => .number
  | .string _ => .string
  | .array _ => .array
  | .object _ => .object

/-- The number of a count. -/
def ofNat (n : Nat) : Json := .number (.ofNat n)

/-- The double of a value, or null where JSON has no number for it. -/
def ofFloat (x : Float) : Json := (Number.ofFloat? x).elim .null .number

/-- The array of the strings of a list. -/
def ofStrings (texts : List String) : Json := .array (texts.map .string)

/-- The double nearest to a number; none for any other value. -/
def toFloat? : Json → Option Float
  | .number n => some n.toFloat
  | _ => none

/-- The value of a member; none where there is no such member or no object. -/
def member? (name : String) : Json → Option Json
  | .object members => members.lookup name
  | _ => none

/-- Puts a member where the ascending order of the names wants it, in front of the
members of its own name. -/
def insertMember (name : String) (value : α) : List (String × α) → List (String × α)
  | [] => [(name, value)]
  | (other, old) :: rest =>
    if other < name then (other, old) :: insertMember name value rest
    else (name, value) :: (other, old) :: rest

/-- The object of a list of members with different names. -/
def ofMembers (members : List (String × Json)) : Json :=
  .object (members.foldr (fun (name, value) rest => insertMember name value rest) [])

mutual

/-- Equality of values: names, order and kinds alike. -/
def decEq : (a b : Json) → Decidable (a = b)
  | .null, .null => .isTrue rfl
  | .bool a, .bool b =>
    if h : a = b then .isTrue (by rw [h]) else .isFalse fun e => h (by injection e)
  | .number a, .number b =>
    if h : a = b then .isTrue (by rw [h]) else .isFalse fun e => h (by injection e)
  | .string a, .string b =>
    if h : a = b then .isTrue (by rw [h]) else .isFalse fun e => h (by injection e)
  | .array a, .array b =>
    match decEqItems a b with
    | .isTrue h => .isTrue (by rw [h])
    | .isFalse h => .isFalse fun e => h (by injection e)
  | .object a, .object b =>
    match decEqMembers a b with
    | .isTrue h => .isTrue (by rw [h])
    | .isFalse h => .isFalse fun e => h (by injection e)
  | .null, .bool _ | .null, .number _ | .null, .string _ | .null, .array _
  | .null, .object _ | .bool _, .null | .bool _, .number _ | .bool _, .string _
  | .bool _, .array _ | .bool _, .object _ | .number _, .null | .number _, .bool _
  | .number _, .string _ | .number _, .array _ | .number _, .object _ | .string _, .null
  | .string _, .bool _ | .string _, .number _ | .string _, .array _ | .string _, .object _
  | .array _, .null | .array _, .bool _ | .array _, .number _ | .array _, .string _
  | .array _, .object _ | .object _, .null | .object _, .bool _ | .object _, .number _
  | .object _, .string _ | .object _, .array _ => .isFalse (by simp)

def decEqItems : (a b : List Json) → Decidable (a = b)
  | [], [] => .isTrue rfl
  | x :: xs, y :: ys =>
    match decEq x y, decEqItems xs ys with
    | .isTrue h, .isTrue h' => .isTrue (by rw [h, h'])
    | .isFalse h, _ => .isFalse fun e => h (by injection e)
    | _, .isFalse h => .isFalse fun e => h (by injection e)
  | [], _ :: _ | _ :: _, [] => .isFalse (by simp)

def decEqMembers : (a b : List (String × Json)) → Decidable (a = b)
  | [], [] => .isTrue rfl
  | (k, x) :: xs, (l, y) :: ys =>
    if h : k = l then
      match decEq x y, decEqMembers xs ys with
      | .isTrue h', .isTrue h'' => .isTrue (by rw [h, h', h''])
      | .isFalse h', _ => .isFalse fun e => h' (by injection e with e; injection e)
      | _, .isFalse h' => .isFalse fun e => h' (by injection e)
    else .isFalse fun e => h (by injection e with e; injection e)
  | [], _ :: _ | _ :: _, [] => .isFalse (by simp)

end

instance : DecidableEq Json := decEq

mutual

/-- Equality in which the two zeros of doubles are one. -/
def agrees : Json → Json → Bool
  | .null, .null => true
  | .bool a, .bool b => a == b
  | .number a, .number b => a.agrees b
  | .string a, .string b => a == b
  | .array a, .array b => itemsAgree a b
  | .object a, .object b => membersAgree a b
  | _, _ => false

def itemsAgree : List Json → List Json → Bool
  | [], [] => true
  | x :: xs, y :: ys => agrees x y && itemsAgree xs ys
  | _, _ => false

def membersAgree : List (String × Json) → List (String × Json) → Bool
  | [], [] => true
  | (k, x) :: xs, (l, y) :: ys => k == l && agrees x y && membersAgree xs ys
  | _, _ => false

end

mutual

/-- The value with the members of every object in ascending order of their names.
Members of one name keep their order. -/
def sorted : Json → Json
  | .array items => .array (sortedItems items)
  | .object members => .object (sortedMembers members)
  | j => j

def sortedItems : List Json → List Json
  | [] => []
  | j :: rest => sorted j :: sortedItems rest

def sortedMembers : List (String × Json) → List (String × Json)
  | [] => []
  | (name, value) :: rest => insertMember name (sorted value) (sortedMembers rest)

end

end Json

end SlideDeck
