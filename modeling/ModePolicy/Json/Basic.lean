import ModePolicy.Number.Binary64

/-!
JSON values, with the operations that loosely typed data needs.

An object keeps its fields in the order they were written, and integers are kept apart from
floating-point numbers. Operations on a value of the wrong kind do not guess: they fail with a
`Misuse`.
-/

namespace ModePolicy

/-- A JSON value. -/
inductive Json where
  | null
  | bool (b : Bool)
  | int (n : Int)
  | float (x : Binary64)
  | str (s : String)
  | arr (items : List Json)
  | obj (fields : List (String × Json))
  deriving Inhabited

/-- What goes wrong when a value of the wrong kind is used. -/
inductive Misuse where
  /-- The value cannot be searched, listed or indexed in this way. -/
  | unsuitable
  | fieldless
  deriving DecidableEq, Repr

/-- Values by name, in the order the names were first given. -/
abbrev Fields (α : Type) := List (String × α)

namespace Fields

variable {α : Type}

/-- Sets a value: a name that is present keeps its place. -/
def set (name : String) (value : α) : Fields α → Fields α
  | [] => [(name, value)]
  | (n, v) :: rest => if n == name then (n, value) :: rest else (n, v) :: set name value rest

/-- The fields of a list in which names may repeat: the first place and the last value count. -/
def ofList (pairs : List (String × α)) : Fields α :=
  pairs.foldl (fun fields p => fields.set p.1 p.2) []

/-- The names, in order. -/
def names (fields : Fields α) : List String := fields.map (·.1)

end Fields

namespace Json

/-- The name of a value's type, as messages give it. -/
def typeName : Json → String
  | .null => "NoneType"
  | .bool _ => "bool"
  | .int _ => "int"
  | .float _ => "float"
  | .str _ => "str"
  | .arr _ => "list"
  | .obj _ => "dict"

/-- Whether a value counts as present: null, false, zero and everything empty do not. -/
def truthy : Json → Bool
  | .null => false
  | .bool b => b
  | .int n => n != 0
  | .float x => !x.isZero
  | .str s => !s.isEmpty
  | .arr items => !items.isEmpty
  | .obj fields => !fields.isEmpty

/-- The value itself if it counts as present, otherwise the other one. -/
def orElse (value other : Json) : Json := if value.truthy then value else other

/-- The value is a text. -/
def isStr : Json → Bool
  | .str _ => true
  | _ => false

/-- The value is null. -/
def isNull : Json → Bool
  | .null => true
  | _ => false

/-- The text that the value is. -/
def str? : Json → Option String
  | .str s => some s
  | _ => none

/-- A truth value counts as the integer one or zero. -/
def int? : Json → Option Int
  | .bool b => some (if b then 1 else 0)
  | .int n => some n
  | _ => none

mutual

/-- Two values are equal: numbers by their value, lists item by item, objects as sets of fields. -/
def same : Json → Json → Bool
  | .null, .null => true
  | .str s, .str t => s == t
  | .float x, .float y => x.equal y
  | .float x, b => match b.int? with
    | some n => x.isInt n
    | none => false
  | .bool a, b => match b with
    | .float y => y.isInt (if a then 1 else 0)
    | _ => b.int? == some (if a then 1 else 0)
  | .int n, b => match b with
    | .float y => y.isInt n
    | _ => b.int? == some n
  | .arr xs, .arr ys => sameItems xs ys
  | .obj xs, .obj ys => xs.length == ys.length && sameFields xs ys
  | _, _ => false

/-- Two lists are equal item by item. -/
def sameItems : List Json → List Json → Bool
  | [], [] => true
  | x :: xs, y :: ys => same x y && sameItems xs ys
  | _, _ => false

/-- Every field of the first object has an equal field in the second. -/
def sameFields : List (String × Json) → List (String × Json) → Bool
  | [], _ => true
  | (name, x) :: xs, ys =>
    (match ys.lookup name with
      | some y => same x y
      | none => false) && sameFields xs ys

end

/-- The value is null or a text. -/
def isOptionalStr : Json → Bool
  | .null => true
  | .str _ => true
  | _ => false

/-- A value that may serve as a key of a table: anything but a list or an object. -/
def isKey : Json → Bool
  | .arr _ => false
  | .obj _ => false
  | _ => true

/-- The items one gets by going through a value: the items of a list, the names of an object, the
characters of a text. Nothing else can be gone through. -/
def elements : Json → Except Misuse (List Json)
  | .arr items => .ok items
  | .obj fields => .ok (fields.map fun f => .str f.1)
  | .str s => .ok (s.toList.map fun c => .str (String.singleton c))
  | _ => .error .unsuitable

/-- The list of characters starts with another. -/
def startsWith : List Char → List Char → Bool
  | _, [] => true
  | c :: cs, d :: ds => c == d && startsWith cs ds
  | [], _ :: _ => false

/-- Some part of the list of characters equals another. -/
def hasPart (part : List Char) : List Char → Bool
  | [] => part.isEmpty
  | c :: cs => startsWith (c :: cs) part || hasPart part cs

/-- Whether a name is found in a value: among the names of an object, among the items of a list, or
as a part of a text. -/
def mentions (name : String) : Json → Except Misuse Bool
  | .obj fields => .ok (fields.lookup name).isSome
  | .arr items => .ok (items.any (·.same (.str name)))
  | .str s => .ok (hasPart name.toList s.toList)
  | _ => .error .unsuitable

/-- The field of an object that is known to be there. Only objects are indexed by name. -/
def field (name : String) : Json → Except Misuse Json
  | .obj fields => .ok ((fields.lookup name).getD .null)
  | _ => .error .unsuitable

/-- The field of an object, or the default. A value that is no object is fieldless. -/
def fieldD (value : Json) (name : String) (default : Json) : Except Misuse Json :=
  match value with
  | .obj fields => .ok ((fields.lookup name).getD default)
  | _ => .error .fieldless

/-- The field under the first of two names, if there is one, else under the second, else null. -/
def oneOf (fields : Fields Json) (first second : String) : Json :=
  match fields.lookup first with
  | some value => value
  | none => (fields.lookup second).getD .null

/-- The field of a value under one of two names. Of the values that are no objects, one that
mentions the first name cannot be indexed by it, and another one is fieldless. -/
def eitherField (first second : String) : Json → Except Misuse Json
  | .obj fields => .ok (oneOf fields first second)
  | value => do if ← value.mentions first then throw .unsuitable else throw .fieldless

/-- The entry of a table under a key. Only texts name entries; a list or an object can be no key. -/
def entry? {α : Type} (fields : Fields α) (key : Json) : Except Misuse (Option α) :=
  match key with
  | .str s => .ok (fields.lookup s)
  | _ => if key.isKey then .ok none else .error .unsuitable

end Json

end ModePolicy
