import SceneGraph.World.Basic

/-!
Worlds as JSON. A snapshot is the object of an entity's components by type name; a dump follows
the hierarchy from an entity down through the children that entities list.
-/
namespace SceneGraph.World

/-- The members of a snapshot: components in the given order, up to the first that has no JSON
form. -/
def snapshotMembers (entity : Entity) :
    List Component → Except WorldError (List (String × Json))
  | [] => .ok []
  | component :: rest =>
    match component.toJson with
    | .error reason => .error (.unserialisable entity component.typeName reason)
    | .ok value => (snapshotMembers entity rest).map ((component.typeName, value) :: ·)

def snapshot (world : World) (entity : Entity) : Except WorldError Json :=
  (world.components entity).bind fun components =>
    (snapshotMembers entity components).map Json.object

/-- Why a hierarchy has no dump: the world refuses, or an entity is its own descendant. -/
inductive DumpError where
  | world (error : WorldError)
  | endless (entity : Entity)
deriving DecidableEq, Repr

def DumpError.message : DumpError → String
  | .world error => error.message
  | .endless entity => entity.display ++ " is its own descendant"

/-- The dump of a hierarchy at most `levels` deep. -/
def dumpWithin (world : World) : (levels : Nat) → Entity → Except DumpError Json
  | 0, entity => .error (.endless entity)
  | levels + 1, entity =>
    match world.snapshot entity with
    | .error error => .error (.world error)
    | .ok components =>
      match (world.childrenOf entity).mapM (dumpWithin world levels) with
      | .error error => .error error
      | .ok children =>
        .ok (.object [("entity", .natural entity.id), ("components", components),
          ("children", .array children)])

/-- The dump of an entity and its descendants. A chain of descendants that is longer than the world
repeats an entity. -/
def dump (world : World) (entity : Entity) : Except DumpError Json :=
  dumpWithin world (world.size + 1) entity

def dumpAll (world : World) (entities : List Entity) : Except DumpError Json :=
  (entities.mapM world.dump).map Json.array

end SceneGraph.World
