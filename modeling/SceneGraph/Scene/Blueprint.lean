import SceneGraph.Component.Stamp

/-!
Blueprints: what a scene becomes before there are entities. A blueprint is a stamp and the
blueprints of the children, in order; it names no entity, so it can be instantiated any number of
times.
-/
namespace SceneGraph

structure Blueprint where
  stamp : Stamp
  children : List Blueprint

namespace Blueprint

def empty : Blueprint := ⟨.empty, []⟩

instance : Inhabited Blueprint := ⟨empty⟩

def withChild (blueprint child : Blueprint) : Blueprint :=
  { blueprint with children := blueprint.children ++ [child] }

def name? (blueprint : Blueprint) : Option String := blueprint.stamp.name?

mutual

def entityCount : Blueprint → Nat
  | ⟨_, children⟩ => 1 + forestCount children

def forestCount : List Blueprint → Nat
  | [] => 0
  | blueprint :: blueprints => blueprint.entityCount + forestCount blueprints

end

mutual

/-- The longest chain from the blueprint down; one without children has height one. -/
def height : Blueprint → Nat
  | ⟨_, children⟩ => 1 + forestHeight children

def forestHeight : List Blueprint → Nat
  | [] => 0
  | blueprint :: blueprints => max blueprint.height (forestHeight blueprints)

end

mutual

/-- The stamps from the root down, each before those of its children, with their depths. -/
def flatten (depth : Nat) : Blueprint → List (Nat × Stamp)
  | ⟨stamp, children⟩ => (depth, stamp) :: flattenForest (depth + 1) children

def flattenForest (depth : Nat) : List Blueprint → List (Nat × Stamp)
  | [] => []
  | blueprint :: blueprints => blueprint.flatten depth ++ flattenForest depth blueprints

end

end Blueprint
end SceneGraph
