import SceneGraph.Scene.Error

/-!
What is reported while scenes are read, built and instantiated.
-/
namespace SceneGraph

inductive NodeKind where
  | entity
  | group
  | template
deriving DecidableEq, Repr

def NodeKind.name : NodeKind → String
  | .entity => "entity"
  | .group => "group"
  | .template => "template"

def NodeKind.ofName? : String → Option NodeKind
  | "entity" => some .entity
  | "group" => some .group
  | "template" => some .template
  | _ => none

inductive Event where
  | replacedConstructor (component : String)
  | nameTaken (name : String) (entity : Entity)
  | instantiated (entity : Entity) (children : Nat)
  | readingTree (name path : String)
  | buildingScene (scene : String)
  | skippedList (found : Shape)
  | skippedShape (node : String) (found : Shape)
  | skippedKind (node kind : String)
  | skippedUntyped (node : String)
  | loadingNode (kind : NodeKind) (node : String) (comment : Option String)
  | sourceMissing (node : String)
  | rootMissing (node source : String)
  | loadingTemplate (source : String)
  | unknownComponent (node component : String)
  | rejectedComponent (node component : String) (error : ConstructError)
deriving DecidableEq, Repr

namespace Event

inductive Level where
  | trace
  | debug
  | info
  | warn
  | error
deriving DecidableEq, Repr

def Level.name : Level → String
  | .trace => "TRACE"
  | .debug => "DEBUG"
  | .info => "INFO"
  | .warn => "WARN"
  | .error => "ERROR"

/-- A value that an event carries beside its message. -/
inductive Field where
  | text (value : String)
  | count (value : Nat)
deriving DecidableEq, Repr

def level : Event → Level
  | replacedConstructor _ | nameTaken _ _ | readingTree _ _ | buildingScene _
  | loadingNode _ _ _ | loadingTemplate _ => .debug
  | instantiated _ _ | skippedList _ | skippedShape _ _ | skippedKind _ _ | skippedUntyped _
  | unknownComponent _ _ => .trace
  | sourceMissing _ | rootMissing _ _ | rejectedComponent _ _ _ => .warn

def message : Event → String
  | replacedConstructor _ => "replaced component constructor"
  | nameTaken _ _ => "name already indexed, keeping the first entity"
  | instantiated _ _ => "instantiated entity"
  | readingTree _ _ => "reading tree"
  | buildingScene _ => "building scene"
  | skippedList _ => "skipping node list that is not a map"
  | skippedShape _ _ => "skipping node that is not a map"
  | skippedKind _ _ => "skipping node of unknown type"
  | skippedUntyped _ => "skipping node without a type"
  | loadingNode kind node comment =>
      "loading " ++ kind.name ++ ": " ++ node ++ (comment.map (" - " ++ ·)).getD ""
  | sourceMissing _ => "template has no source, using an empty blueprint"
  | rootMissing _ _ =>
      "template source has no entity or template node, using an empty blueprint"
  | loadingTemplate _ => "loading template"
  | unknownComponent _ _ => "skipping unknown component"
  | rejectedComponent _ _ _ => "ignoring ill-typed component data"

def fields : Event → List (String × Field)
  | replacedConstructor component => [("component", .text component)]
  | nameTaken name entity => [("name", .text name), ("entity", .text entity.display)]
  | instantiated entity children =>
      [("entity", .text entity.display), ("children", .count children)]
  | readingTree name path => [("name", .text name), ("path", .text path)]
  | buildingScene scene => [("scene", .text scene)]
  | skippedList found => [("found", .text found.name)]
  | skippedShape node found => [("node", .text node), ("found", .text found.name)]
  | skippedKind node kind => [("node", .text node), ("kind", .text kind)]
  | skippedUntyped node => [("node", .text node)]
  | loadingNode _ _ _ => []
  | sourceMissing node => [("node", .text node)]
  | rootMissing node source => [("node", .text node), ("source", .text source)]
  | loadingTemplate source => [("source", .text source)]
  | unknownComponent node component => [("node", .text node), ("component", .text component)]
  | rejectedComponent node component error =>
      [("node", .text node), ("component", .text component), ("error", .text error.message)]

end Event
end SceneGraph
