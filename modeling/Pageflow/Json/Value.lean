import Pageflow.Number.Double
/-!
Document values: what a JSON text stands for. Objects keep the order of their keys and hold each
key once; integers are unbounded.
-/
namespace Pageflow

/-- A document value. -/
inductive Json where
  | null
  | bool (b : Bool)
  | int (n : Int)
  | float (x : Double)
  | str (s : String)
  | arr (items : List Json)
  | obj (fields : List (String × Json))

namespace Json

instance : Inhabited Json := ⟨.null⟩
instance : Coe String Json := ⟨.str⟩
instance : Coe Bool Json := ⟨.bool⟩
instance : Coe Int Json := ⟨.int⟩
instance : Coe Nat Json := ⟨fun n => .int n⟩

/-- Sets a key of an ordered table: a known key keeps its place, a new one goes to the end. -/
def setKey {α : Type} (key : String) (value : α) : List (String × α) → List (String × α)
  | [] => [(key, value)]
  | (k, v) :: rest => if k = key then (k, value) :: rest else (k, v) :: setKey key value rest

/-- An ordered table with each key of `pairs` once, at its first place and with its last value. -/
def table {α : Type} (pairs : List (String × α)) : List (String × α) :=
  pairs.foldl (fun fields (key, value) => setKey key value fields) []

/-- The value of a key in an object. -/
def get? (key : String) : Json → Option Json
  | .obj fields => fields.lookup key
  | _ => none

/-- The value of a key, `null` where there is none. -/
def getD (key : String) (j : Json) : Json := (j.get? key).getD .null

/-- The items of an array, none of anything else. -/
def items : Json → List Json
  | .arr xs => xs
  | _ => []

/-- The fields of an object, none of anything else. -/
def fields : Json → List (String × Json)
  | .obj fs => fs
  | _ => []

def str? : Json → Option String
  | .str s => some s
  | _ => none

def bool? : Json → Option Bool
  | .bool b => some b
  | _ => none

def isNull : Json → Bool
  | .null => true
  | _ => false

/-- The integer a number is written as; truth values are no numbers. -/
def int? : Json → Option Int
  | .int n => some n
  | .float x => x.whole?
  | _ => none

def nat? (j : Json) : Option Nat := j.int?.map Int.toNat

/-- A number as a double. -/
def double? : Json → Option Double
  | .int n => some (Double.ofInt n)
  | .float x => some x
  | _ => none

/-- Whether a value counts as present in a condition: `null`, `false`, zero and what is empty do not. -/
def truthy : Json → Bool
  | .null => false
  | .bool b => b
  | .int n => n != 0
  | .float x => !x.isZero
  | .str s => !s.isEmpty
  | .arr xs => !xs.isEmpty
  | .obj fs => !fs.isEmpty

/-- The kind of a value, as messages name it. -/
def kindName : Json → String
  | .null => "NoneType"
  | .bool _ => "bool"
  | .int _ => "int"
  | .float _ => "float"
  | .str _ => "str"
  | .arr _ => "list"
  | .obj _ => "dict"

end Json
end Pageflow

/-! ## Documents whose shape is known

Parts that are missing or of another kind count as their defaults. -/
namespace Pageflow.Json

def textAt? (j : Json) (key : String) : Option String := (j.get? key).bind str?

def textAt (j : Json) (key : String) (default : String := "") : String := (j.textAt? key).getD default

def intAt? (j : Json) (key : String) : Option Int := (j.get? key).bind int?

def intAt (j : Json) (key : String) (default : Int := 0) : Int := (j.intAt? key).getD default

def natAt? (j : Json) (key : String) : Option Nat := (j.get? key).bind nat?

def natAt (j : Json) (key : String) (default : Nat := 0) : Nat := (j.natAt? key).getD default

def doubleAt (j : Json) (key : String) (default : Double) : Double :=
  ((j.get? key).bind double?).getD default

def truthAt (j : Json) (key : String) : Bool := (j.getD key).truthy

/-- The items of the array under a key. -/
def itemsAt (j : Json) (key : String) : List Json := (j.getD key).items

/-- The texts among the items of an array. -/
def texts (j : Json) : List String := j.items.filterMap str?

/-- The texts of an object, under their keys. -/
def textTable (j : Json) : List (String × String) :=
  j.fields.filterMap fun (key, value) => value.str?.map (key, ·)

/-- The part of an array at a place, `null` where there is none. -/
def item (j : Json) (i : Nat) : Json := j.items[i]?.getD .null

/-- The text at a place of an array. -/
def textItem (j : Json) (i : Nat) : String := (j.item i).str?.getD ""

/-- The integer at a place of an array. -/
def intItem (j : Json) (i : Nat) : Int := (j.item i).int?.getD 0

/-- The object without the fields that are `null`. -/
def present (key : String) (j : Json) : Option Json :=
  (j.get? key).bind fun value => if value.isNull then none else some value

end Pageflow.Json
