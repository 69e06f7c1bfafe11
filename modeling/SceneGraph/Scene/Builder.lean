import SceneGraph.Scene.Blueprint
import SceneGraph.Scene.Loader
import SceneGraph.Scene.Registry

/-!
Builders: declared trees become forests of blueprints. An entity node is one blueprint with its
components and children; a group node is the forest of its children, to which its defaults are
applied; a template node is the root of another document, renamed and with children added. Nodes
that are none of these are skipped, and refused component data is ignored. Only documents that
cannot be loaded, templates that include themselves and nodes that nest too deep end a build.
-/
namespace SceneGraph

/-- What a builder works with; `maxDepth` is the deepest nesting of nodes that it accepts. -/
structure Builder (σ : Type) where
  registry : Registry
  loader : Loader σ
  maxDepth : Nat

def defaultMaxDepth : Nat := 64

/-- What a builder keeps from build to build: the loader's state, the template documents loaded so
far, the sources that are being expanded, innermost first, and what was reported. -/
structure Progress (σ : Type) where
  loader : σ
  templates : Std.TreeMap String Tree
  expanding : List String
  log : Array Event

def Progress.start {σ : Type} (loader : σ) : Progress σ := ⟨loader, ∅, [], #[]⟩

abbrev Build (σ : Type) := ExceptT BuildError (StateM (Progress σ))

/-- What a node is, or the report of why it is skipped. -/
def recognise (name : String) (node : Tree) : Except Event (NodeKind × OrderedMap Tree) :=
  match node.fields? with
  | none => .error (.skippedShape name node.shape)
  | some fields =>
    match (fields.get? "type").bind Tree.string? with
    | none => .error (.skippedUntyped name)
    | some kindName =>
      match NodeKind.ofName? kindName with
      | some kind => .ok (kind, fields)
      | none => .error (.skippedKind name kindName)

def scalarField (fields : OrderedMap Tree) (key : String) : Option String :=
  ((fields.get? key).bind Tree.scalar?).map Scalar.display

def mapField (fields : OrderedMap Tree) (key : String) : List (String × Tree) :=
  (((fields.get? key).bind Tree.fields?).map OrderedMap.entries).getD []

def isTemplateRoot (node : Tree) : Bool :=
  match node.typeName?.bind NodeKind.ofName? with
  | some .entity | some .template => true
  | some .group | none => false

/-- The root of a template document: its first entity or template node. -/
def templateRoot? (document : Tree) : Option (String × Tree) :=
  document.fields?.bind fun fields => fields.entries.find? fun entry => isTemplateRoot entry.2

namespace Build
variable {σ : Type}

def report (events : List Event) : Build σ Unit :=
  modify fun progress => { progress with log := progress.log ++ events }

def load (loader : Loader σ) (name : String) : Build σ Tree := do
  let progress ← get
  let reading := loader.load name progress.loader
  set { progress with loader := reading.state, log := progress.log ++ reading.events }
  match reading.result with
  | .ok tree => return tree
  | .error error => throw (.load error)

/-- The document of a template source, loaded once. -/
def loadTemplate (loader : Loader σ) (source : String) : Build σ Tree := do
  match (← get).templates[source]? with
  | some tree => return tree
  | none =>
    report [.loadingTemplate source]
    let tree ← load loader source
    modify fun progress => { progress with templates := progress.templates.insert source tree }
    return tree

/-- A build inside the expansion of a source, which ends with the build, also when that fails. -/
def within {α : Type} (source : String) (build : Build σ α) : Build σ α := ExceptT.mk do
  modify fun progress => { progress with expanding := source :: progress.expanding }
  let outcome ← build.run
  modify fun progress => { progress with expanding := progress.expanding.tail }
  return outcome

def recordAll (registry : Registry) (node : String) (stamp : Stamp) :
    List (String × Tree) → Build σ Stamp
  | [] => return stamp
  | (name, data) :: rest => do
      let (stamp, events) := registry.record node stamp name data
      report events
      recordAll registry node stamp rest

def applyDefault (registry : Registry) (node name : String) (data : Tree) :
    List Blueprint → Build σ (List Blueprint)
  | [] => return []
  | blueprint :: rest => do
      let (stamp, events) := registry.record node blueprint.stamp name data
      report events
      return { blueprint with stamp } :: (← applyDefault registry node name data rest)

/-- The defaults of a group applied to a forest, one after the other. -/
def applyDefaults (registry : Registry) (node : String) (forest : List Blueprint) :
    List (String × Tree) → Build σ (List Blueprint)
  | [] => return forest
  | (name, data) :: rest => do
      let forest ← applyDefault registry node name data forest
      applyDefaults registry node forest rest

def entries (visit : String → Tree → Build σ (List Blueprint)) :
    List (String × Tree) → Build σ (List Blueprint)
  | [] => return []
  | (name, node) :: rest => do
      let forest ← visit name node
      return forest ++ (← entries visit rest)

/-- The forest of a node list, which is a map or null. -/
def nodeList (visit : String → Tree → Build σ (List Blueprint)) (tree : Tree) :
    Build σ (List Blueprint) :=
  match tree with
  | .map fields => entries visit fields.entries
  | .null => return []
  | other => do
      report [.skippedList other.shape]
      return []

def children (visit : String → Tree → Build σ (List Blueprint)) (fields : OrderedMap Tree) :
    Build σ (List Blueprint) :=
  match fields.get? "children" with
  | some list => nodeList visit list
  | none => return []

/-- An entity: its name, then its components, then its children. -/
def entity (registry : Registry) (visit : String → Tree → Build σ (List Blueprint))
    (name : String) (fields : OrderedMap Tree) : Build σ Blueprint := do
  let stamp ← recordAll registry name (Stamp.empty.set (.name name)) (mapField fields "components")
  return ⟨stamp, ← children visit fields⟩

/-- A group: the forest of its children with its defaults applied to the roots. -/
def group (registry : Registry) (visit : String → Tree → Build σ (List Blueprint))
    (name : String) (fields : OrderedMap Tree) : Build σ (List Blueprint) := do
  let forest ← children visit fields
  applyDefaults registry name forest (mapField fields "defaults")

/-- A template: the root of its source's document under the name of this node, with the children
declared here behind those of the root. Only the root belongs to the expansion of the source. -/
def template (loader : Loader σ) (visit : String → Tree → Build σ (List Blueprint))
    (name : String) (fields : OrderedMap Tree) : Build σ Blueprint :=
  match scalarField fields "source" with
  | none => do
      report [.sourceMissing name]
      return .empty
  | some source => do
      if source ∈ (← get).expanding then throw (.templateCycle source)
      else do
        let document ← loadTemplate loader source
        match templateRoot? document with
        | none => do
            report [.rootMissing name source]
            return .empty
        | some (rootName, root) => do
            let built ← within source (visit rootName root)
            let blueprint := built.head?.getD .empty
            let children ← children visit fields
            return ⟨blueprint.stamp.set (.name name), blueprint.children ++ children⟩

/-- The forest of one node. At most `levels` nodes may nest from here on, this one included. -/
def node (builder : Builder σ) :
    (levels : Nat) → (name : String) → Tree → Build σ (List Blueprint)
  | levels, name, tree =>
    match recognise name tree with
    | .error event => do
        report [event]
        return []
    | .ok (kind, fields) =>
      match levels with
      | 0 => throw (.depthExceeded name builder.maxDepth)
      | levels + 1 => do
        report [.loadingNode kind name (scalarField fields "comment")]
        match kind with
        | .entity => return [← entity builder.registry (node builder levels) name fields]
        | .group => group builder.registry (node builder levels) name fields
        | .template => return [← template builder.loader (node builder levels) name fields]

end Build

namespace Builder
variable {σ : Type}

def buildTree (builder : Builder σ) (tree : Tree) : Build σ (List Blueprint) :=
  Build.nodeList (Build.node builder builder.maxDepth) tree

/-- The forest of a scene document's `scene` map. Scene documents are loaded anew each time. -/
def buildScene (builder : Builder σ) (name : String) : Build σ (List Blueprint) := do
  let document ← Build.load builder.loader name
  match (document.get? "scene").bind Tree.fields? with
  | none => throw (.missingScene name)
  | some fields =>
    Build.report [.buildingScene name]
    builder.buildTree (.map fields)

end Builder
end SceneGraph
