import SceneGraph.Tree.Basic
import SceneGraph.Json.Parse

/-!
Trees from JSON documents. Every JSON value is a tree: numbers become doubles, and an object
becomes the map of its members in order.
-/
namespace SceneGraph

def Json.Number.toFloat : Json.Number → Float
  | .integer value => Binary.floatOfInt value
  | .double value => value
  | .single value => Binary.widen value

namespace Tree

mutual

def ofJson : Json → Tree
  | .null => null
  | .bool value => scalar (.bool value)
  | .number value => scalar (.number (.ofFloat value.toFloat))
  | .string value => scalar (.string value)
  | .array items => sequence (ofItems items)
  | .object members => map (OrderedMap.ofList (ofMembers members))

def ofItems : List Json → List Tree
  | [] => []
  | item :: items => ofJson item :: ofItems items

def ofMembers : List (String × Json) → List (String × Tree)
  | [] => []
  | (key, value) :: members => (key, ofJson value) :: ofMembers members

end

def ofText (text : String) : Except Json.ParseError Tree := (Json.parse text).map ofJson

end Tree
end SceneGraph
