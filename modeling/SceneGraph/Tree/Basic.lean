import SceneGraph.OrderedMap
import SceneGraph.Decimal.Notation
import SceneGraph.Decimal.Numeral

/-!
Declarative trees: scalars, sequences and maps. Maps keep the order in which their keys were
declared, which fixes the order of everything that is built from a tree.
-/
namespace SceneGraph

inductive Scalar where
  | bool (value : Bool)
  | number (value : Binary.Double)
  | string (value : String)
deriving DecidableEq, Repr

inductive Tree where
  | null
  | scalar (value : Scalar)
  | sequence (items : List Tree)
  | map (fields : OrderedMap Tree)

inductive Shape where
  | null
  | scalar
  | sequence
  | map
deriving DecidableEq, Repr

def Shape.name : Shape → String
  | .null => "null"
  | .scalar => "scalar"
  | .sequence => "sequence"
  | .map => "map"

/-- Numbers as scalars are written with the fewest digits that read back, without an exponent. -/
def Scalar.numberLayout : Decimal.Layout := ⟨.up, none, false⟩

def Scalar.display : Scalar → String
  | .bool value => if value then "true" else "false"
  | .number value =>
      match value.datum with
      | .nan => "NaN"
      | .infinite negative => if negative then "-inf" else "inf"
      | .finite negative magnitude =>
          (numberLayout.render? Binary.double (.finite negative magnitude)).getD ""
  | .string value => value

/-- Numbers are compared as numbers: zeros of both signs are equal, and NaN equals nothing. -/
def Scalar.same : Scalar → Scalar → Bool
  | .bool first, .bool second => first == second
  | .number first, .number second => first.toFloat == second.toFloat
  | .string first, .string second => first == second
  | _, _ => false

namespace Tree

instance : Inhabited Tree := ⟨null⟩

def shape : Tree → Shape
  | null => .null
  | scalar _ => .scalar
  | sequence _ => .sequence
  | map _ => .map

def isNull : Tree → Bool
  | null => true
  | _ => false

def fields? : Tree → Option (OrderedMap Tree)
  | map fields => some fields
  | _ => none

def items? : Tree → Option (List Tree)
  | sequence items => some items
  | _ => none

def scalar? : Tree → Option Scalar
  | scalar value => some value
  | _ => none

def string? : Tree → Option String
  | scalar (.string value) => some value
  | _ => none

/-- The value of a number, or of a string that writes one. -/
def float32? : Tree → Option Float32
  | scalar (.number value) => some (Binary.toFloat32 value.datum)
  | scalar (.string text) => Decimal.float32OfText? text
  | _ => none

def get? (tree : Tree) (key : String) : Option Tree :=
  tree.fields?.bind fun fields => fields.get? key

def typeName? (tree : Tree) : Option String := (tree.get? "type").bind string?

mutual

/-- Whether two trees are equal: sequences item by item, maps entry by entry in order. -/
def same : Tree → Tree → Bool
  | null, null => true
  | scalar first, scalar second => first.same second
  | sequence first, sequence second => sameItems first second
  | map first, map second => sameMaps first second
  | _, _ => false

def sameItems : List Tree → List Tree → Bool
  | [], [] => true
  | first :: firsts, second :: seconds => first.same second && sameItems firsts seconds
  | _, _ => false

def sameMaps : OrderedMap Tree → OrderedMap Tree → Bool
  | ⟨entries, index⟩, second => sameEntries entries second.entries && index == second.index

def sameEntries : List (String × Tree) → List (String × Tree) → Bool
  | [], [] => true
  | first :: firsts, second :: seconds => sameEntry first second && sameEntries firsts seconds
  | _, _ => false

def sameEntry : String × Tree → String × Tree → Bool
  | (key, value), second => key == second.1 && value.same second.2

end

instance : BEq Tree := ⟨same⟩

end Tree
end SceneGraph
