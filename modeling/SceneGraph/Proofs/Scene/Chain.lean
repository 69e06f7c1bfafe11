import Mathlib.Data.Finset.Lattice.Lemmas
import SceneGraph.Proofs.Scene.Standard

/-!
Templates of templates. The document of one template can have another one as its root, and so on
until the root is an entity, or a template that comes out empty. The entity keeps its components and
takes the name of the first template; children are added at each place of use, innermost first.
-/
namespace SceneGraph

/-- The components of both stamps are the same in the same order, apart from what has the slot of
names: the other one has the name there. -/
def Stamp.Renames (stamp : Stamp) (name : String) (other : Stamp) : Prop :=
  ∃ front held back, stamp.components = front ++ held :: back ∧
    held.id = ComponentType.name.id ∧
    (∀ component ∈ front, component.id ≠ ComponentType.name.id) ∧
    other.components = front ++ .name name :: back

/-- The blueprint under another name, with children that were added behind its own, those that are
listed last first. -/
def Blueprint.extended (blueprint : Blueprint) (name : String) (added : List (List Blueprint)) :
    Blueprint :=
  ⟨blueprint.stamp.set (.name name), blueprint.children ++ added.reverse.flatten⟩

/-- A place of use of a document, with the children that are declared there. -/
structure Link where
  source : String
  children : List (String × Tree)

def Link.sources (links : List Link) : Finset String := (links.map Link.source).toFinset

/-- From the first node on each node is a template, and the next one the root of its document. -/
inductive Answers.Chain (answers : Answers) : String × Tree → List Link → String × Tree → Prop
  | single (node : String × Tree) : Chain answers node [] node
  | link {node root last : String × Tree} {source : String} {children : List (String × Tree)}
      {links : List Link}
      (declared : node.2.declaration? = some (.template (some source) children))
      (rooted : answers.root? source = some root) (further : Chain answers root links last) :
      Chain answers node (⟨source, children⟩ :: links) last

/-- A chain that comes to the node ends there: it is an entity, or a template that comes out empty. -/
def Answers.Ends (answers : Answers) (node : Tree) : Prop :=
  (∃ components children, node.declaration? = some (.entity components children)) ∨
    ∃ source? children, node.declaration? = some (.template source? children) ∧
      ∀ source ∈ source?, answers.root? source = none

namespace Setting
open Answers

/-- The nodes that are evaluated with a tree, and the places where that happens. -/
inductive Visited (setting : Setting) (tree : Tree) :
    (levels : Nat) → (expanding : Finset String) → String × Tree → Prop
  | listed {node : String × Tree} (member : node ∈ tree.nodes) :
      Visited setting tree setting.maxDepth ∅ node
  | child {levels : Nat} {expanding : Finset String} {node child : String × Tree}
      {declaration : Declaration} (above : Visited setting tree (levels + 1) expanding node)
      (declared : node.2.declaration? = some declaration)
      (member : child ∈ setting.answers.walked declaration) :
      Visited setting tree levels expanding child
  | root {levels : Nat} {expanding : Finset String} {node root : String × Tree} {source : String}
      {children : List (String × Tree)} (above : Visited setting tree (levels + 1) expanding node)
      (declared : node.2.declaration? = some (.template (some source) children))
      (rooted : setting.answers.root? source = some root) :
      Visited setting tree levels (insert source expanding) root

/-- The forests of the children at the places of use, outermost first. The next place is one level
down, inside the expansion of the source. -/
inductive Adds (setting : Setting) :
    (levels : Nat) → (expanding : Finset String) → List Link → List (List Blueprint) → Prop
  | nil (levels : Nat) (expanding : Finset String) : Adds setting levels expanding [] []
  | cons {levels : Nat} {expanding : Finset String} {link : Link} {links : List Link}
      {own : List Blueprint} {added : List (List Blueprint)}
      (built : inOrder (setting.nodeForest levels expanding) link.children = .ok own)
      (further : Adds setting levels (insert link.source expanding) links added) :
      Adds setting (levels + 1) expanding (link :: links) (own :: added)

/-- What a template comes to at a place, by the links of a chain from it to the last node. -/
structure Composes (setting : Setting) (levels : Nat) (expanding : Finset String) (name : String)
    (links : List Link) (last : String × Tree) (forest : List Blueprint) : Prop where
  entity : ∀ components children, last.2.declaration? = some (.entity components children) →
    ∃ own added, setting.nodeForest (levels - links.length) (expanding ∪ Link.sources links)
        last.1 last.2 = .ok [own] ∧
      setting.Adds levels expanding links added ∧ forest = [own.extended name added] ∧
      (own.stamp.has .name → own.stamp.Renames name (own.extended name added).stamp) ∧
      (setting.registry = .defaults → own.stamp.has .name ∧ (own.extended name added).stamp =
        setting.recorded name components (Stamp.empty.set (.name name)))
  empty : ∀ source? children, last.2.declaration? = some (.template source? children) →
    (∀ source ∈ source?, setting.answers.root? source = none) →
    ∃ added, setting.Adds levels expanding links added ∧
      forest = [⟨⟨[.name name]⟩, added.reverse.flatten⟩] ∧
      ∀ visit, setting.declarationForest visit (expanding ∪ Link.sources links) last.1
        (.template source? children) = .ok [.empty]

end Setting

namespace Stamp

theorem record_record {first second : Component} (same : first.id = second.id)
    (components : List Component) :
    record second (record first components) = record second components := by
  induction components with
  | nil => simp [record, same]
  | cons other rest ih =>
    by_cases held : other.id = first.id
    · simp [record, held, same]
    · have free : other.id ≠ second.id := same ▸ held
      simp [record, held, free, ih]

theorem renames_set {stamp : Stamp} (named : stamp.has .name) (name : String) :
    stamp.Renames name (stamp.set (.name name)) := by
  obtain ⟨components⟩ := stamp
  unfold has contains at named
  unfold Renames Stamp.set
  induction components with
  | nil => cases named
  | cons first rest ih =>
    by_cases held : first.id = ComponentType.name.id
    · have replaced : record (.name name) (first :: rest) = .name name :: rest := if_pos held
      exact ⟨[], first, rest, rfl, held, List.forall_mem_nil _, replaced⟩
    · have kept : record (.name name) (first :: rest) = first :: record (.name name) rest :=
        if_neg held
      have later : rest.any (fun component => component.id = ComponentType.name.id) := by
        simpa [held] using named
      obtain ⟨front, other, back, listed, own, free, replaced⟩ := ih later
      dsimp only at listed replaced ⊢
      refine ⟨first :: front, other, back, ?_, own, ?_, ?_⟩
      · rw [listed, List.cons_append]
      · exact List.forall_mem_cons.mpr ⟨held, free⟩
      · rw [kept, replaced, List.cons_append]

/-- The standard constructors neither look at a name nor at the node that they report about. -/
theorem record_named (node other name : String) (components : List Component)
    (entry : String × Tree) :
    (Registry.defaults.record node ⟨.name name :: components⟩ entry.1 entry.2).1 =
      ⟨.name name ::
        (Registry.defaults.record other ⟨components⟩ entry.1 entry.2).1.components⟩ := by
  rw [Registry.record_defaults, Registry.record_defaults]
  split
  · rename_i component made
    obtain ⟨standard, type⟩ := Standard.type_made made
    have own : component.id = standard.type.id := congrArg ComponentType.id type
    have named : (Component.name name).id = ComponentType.name.id := rfl
    have apart : (Component.name name).id ≠ component.id := by
      rw [own, named]
      cases standard <;> decide
    exact congrArg Stamp.mk (if_neg apart)
  · rfl

end Stamp

namespace Blueprint

theorem extended_extended (blueprint : Blueprint) (inner outer : String)
    (added : List (List Blueprint)) (own : List Blueprint) :
    (blueprint.extended inner added).extended outer [own] =
      blueprint.extended outer (own :: added) := by
  have same : (Component.name inner).id = (Component.name outer).id := rfl
  have renamed := congrArg Stamp.mk (Stamp.record_record same blueprint.stamp.components)
  simp [extended, Stamp.set, renamed]

end Blueprint

namespace Link

theorem union_sources (expanding : Finset String) (link : Link) (links : List Link) :
    expanding ∪ sources (link :: links) = insert link.source expanding ∪ sources links := by
  simp [sources, Finset.insert_union, Finset.union_insert]

end Link

namespace Setting
open Answers

variable {setting : Setting} {levels : Nat} {expanding : Finset String} {name : String}
  {tree : Tree} {children : List (String × Tree)} {forest : List Blueprint}

theorem Visited.built (accepted : setting.forest tree = .ok forest) {node : String × Tree}
    (visited : setting.Visited tree levels expanding node) :
    ∃ own, setting.nodeForest levels expanding node.1 node.2 = .ok own := by
  induction visited with
  | listed member => exact inOrder_ok accepted _ member
  | child above declared member ih =>
    obtain ⟨own, built⟩ := ih
    rw [nodeForest_succ declared] at built
    exact (declarationForest_made built).walked _ member
  | root above declared rooted ih =>
    obtain ⟨own, built⟩ := ih
    rw [nodeForest_succ declared] at built
    exact (declarationForest_made built).root.2 _ rooted

section Nodes
variable (built : setting.nodeForest levels expanding name tree = .ok forest)
include built

theorem nodeForest_entity {components : List (String × Tree)}
    (declared : tree.declaration? = some (.entity components children)) :
    ∃ own, forest = [⟨setting.recorded name components (Stamp.empty.set (.name name)), own⟩] := by
  rcases nodeForest_made built with ⟨skipped, _⟩ | ⟨below, declaration, _, found, made⟩
  · cases skipped.symm.trans declared
  · cases found.symm.trans declared
    cases made with
    | @entity _ _ own below => exact ⟨own, rfl⟩

theorem nodeForest_expanded {source : String} {root : String × Tree}
    (declared : tree.declaration? = some (.template (some source) children))
    (rooted : setting.answers.root? source = some root) :
    ∃ below roots own, levels = below + 1 ∧
      setting.nodeForest below (insert source expanding) root.1 root.2 = .ok roots ∧
      inOrder (setting.nodeForest below expanding) children = .ok own ∧
      forest = [(roots.head?.getD .empty).extended name [own]] := by
  rcases nodeForest_made built with ⟨skipped, _⟩ | ⟨below, declaration, same, found, made⟩
  · cases skipped.symm.trans declared
  · cases found.symm.trans declared
    cases made with
    | rootless children fresh answered rootless =>
      rw [root?, answered] at rooted
      cases rootless.symm.trans rooted
    | @expanded _ _ _ _ roots own fresh answered chosen inner added =>
      rw [root?, answered] at rooted
      cases chosen.symm.trans rooted
      refine ⟨below, roots, own, same, inner, added, ?_⟩
      simp [Blueprint.extended]

theorem nodeForest_empty {source? : Option String}
    (declared : tree.declaration? = some (.template source? children))
    (rootless : ∀ source ∈ source?, setting.answers.root? source = none) :
    forest = [.empty] ∧ ∀ visit, setting.declarationForest visit expanding name
      (.template source? children) = .ok [.empty] := by
  rcases nodeForest_made built with ⟨skipped, _⟩ | ⟨below, declaration, _, found, made⟩
  · cases skipped.symm.trans declared
  · cases found.symm.trans declared
    cases made with
    | sourceless children => exact ⟨rfl, fun visit => rfl⟩
    | @rootless source _ document fresh answered none =>
      refine ⟨rfl, fun visit => ?_⟩
      have loaded : setting.answers.document source = .ok document := by
        rw [Answers.document, answered]
        rfl
      simp only [declarationForest, templateBlueprint, if_neg fresh, loaded, bind, Except.bind,
        none]
      rfl
    | expanded fresh answered chosen inner added =>
      have absent := rootless _ rfl
      rw [root?, answered] at absent
      cases chosen.symm.trans absent

end Nodes

theorem expanded_of_chain {node last : String × Tree} {links : List Link}
    (chain : setting.answers.Chain node links last)
    (built : setting.nodeForest levels expanding node.1 node.2 = .ok forest) :
    ∃ roots added, setting.nodeForest (levels - links.length) (expanding ∪ Link.sources links)
        last.1 last.2 = .ok roots ∧
      setting.Adds levels expanding links added ∧
      (links = [] ∧ forest = roots ∨
        links ≠ [] ∧ forest = [(roots.head?.getD .empty).extended node.1 added]) := by
  induction chain generalizing levels expanding forest with
  | single node =>
    have here : expanding ∪ Link.sources [] = expanding := by simp [Link.sources]
    rw [here]
    exact ⟨forest, [], built, .nil levels expanding, .inl ⟨rfl, rfl⟩⟩
  | @link node root last source children links declared rooted further ih =>
    obtain ⟨below, between, own, rfl, inner, here, rfl⟩ :=
      nodeForest_expanded built declared rooted
    obtain ⟨roots, added, innermost, adds, ends⟩ := ih inner
    rw [Link.union_sources, List.length_cons, Nat.add_sub_add_right]
    refine ⟨roots, own :: added, innermost, .cons here adds, .inr ⟨List.cons_ne_nil _ _, ?_⟩⟩
    -- The rest of the chain has left its name, if it has links at all; this one goes over it.
    rcases ends with ⟨rfl, rfl⟩ | ⟨_, rfl⟩
    · cases adds
      rfl
    · exact congrArg (fun blueprint => [blueprint]) (Blueprint.extended_extended _ _ _ added own)

theorem recorded_named (standards : setting.registry = .defaults) (node other name : String)
    (declared : List (String × Tree)) (components : List Component) :
    setting.recorded node declared ⟨.name name :: components⟩ =
      ⟨.name name :: (setting.recorded other declared ⟨components⟩).components⟩ := by
  unfold recorded
  rw [standards]
  induction declared generalizing components with
  | nil => rfl
  | cons entry rest ih =>
    rw [List.foldl_cons, List.foldl_cons, Stamp.record_named node other]
    exact ih _

/-- An entity that takes another name is as if it had been declared under that name. -/
theorem set_name_recorded (standards : setting.registry = .defaults) (node name : String)
    (declared : List (String × Tree)) :
    let own := setting.recorded node declared (Stamp.empty.set (.name node))
    own.has .name ∧
      own.set (.name name) = setting.recorded name declared (Stamp.empty.set (.name name)) := by
  have first : setting.recorded node declared (Stamp.empty.set (.name node)) = _ :=
    recorded_named standards node node node declared []
  have second : setting.recorded name declared (Stamp.empty.set (.name name)) = _ :=
    recorded_named standards name node name declared []
  rw [first, second]
  exact ⟨rfl, rfl⟩

theorem composes_of_chain {node last : String × Tree} {links : List Link}
    (chain : setting.answers.Chain node links last) (linked : links ≠ [])
    (built : setting.nodeForest levels expanding node.1 node.2 = .ok forest) :
    setting.Composes levels expanding node.1 links last forest := by
  obtain ⟨roots, added, innermost, adds, ⟨unlinked, _⟩ | ⟨_, rfl⟩⟩ := expanded_of_chain chain built
  · exact absurd unlinked linked
  constructor
  · intro components children declared
    obtain ⟨own, rfl⟩ := nodeForest_entity innermost declared
    refine ⟨_, added, innermost, adds, rfl, ?_, ?_⟩
    · exact fun named => Stamp.renames_set named node.1
    · exact fun standards => set_name_recorded standards last.1 node.1 components
  · intro source? children declared rootless
    obtain ⟨rfl, unvisited⟩ := nodeForest_empty innermost declared rootless
    exact ⟨added, adds, rfl, unvisited⟩

theorem declaration?_root {source : String} {root : String × Tree}
    (rooted : setting.answers.root? source = some root) :
    (∃ components children, root.2.declaration? = some (.entity components children)) ∨
      ∃ source? children, root.2.declaration? = some (.template source? children) := by
  obtain ⟨document, _, chosen⟩ := Option.bind_eq_some_iff.mp rooted
  have accepted := isTemplateRoot_of_templateRoot? chosen
  rw [isTemplateRoot_eq] at accepted
  cases declared : root.2.declaration? with
  | none =>
    rw [declared] at accepted
    cases accepted
  | some declaration =>
    rw [declared] at accepted
    cases declaration with
    | entity components children => exact .inl ⟨components, children, rfl⟩
    | template source? children => exact .inr ⟨source?, children, rfl⟩
    | group defaults children => cases accepted

/-- From a template that is built on there is a chain that ends. -/
theorem exists_chain {node : String × Tree} {source? : Option String}
    (declared : node.2.declaration? = some (.template source? children))
    (built : setting.nodeForest levels expanding node.1 node.2 = .ok forest) :
    ∃ links last, setting.answers.Chain node links last ∧ setting.answers.Ends last.2 := by
  induction levels generalizing expanding node source? children forest with
  | zero =>
    rw [nodeForest_zero declared] at built
    cases built
  | succ levels ih =>
    by_cases rootless : ∀ source ∈ source?, setting.answers.root? source = none
    · exact ⟨[], node, .single node, .inr ⟨source?, children, declared, rootless⟩⟩
    · obtain ⟨source, sourced⟩ := not_forall.mp rootless
      obtain ⟨rfl, rooted⟩ := Classical.not_imp.mp sourced
      obtain ⟨root, rooted⟩ := Option.ne_none_iff_exists'.mp rooted
      obtain ⟨_, _, _, same, inner, _⟩ := nodeForest_expanded built declared rooted
      cases same
      rcases declaration?_root rooted with ended | ⟨next, nextChildren, nextDeclared⟩
      · exact ⟨_, root, .link declared rooted (.single root), .inl ended⟩
      · obtain ⟨links, last, chain, ends⟩ := ih nextDeclared inner
        exact ⟨_, last, .link declared rooted chain, ends⟩

end Setting

variable {σ : Type}

/-- The document that is loaded for a template, if it names one, has no root. -/
def Build.Rootless (loader : Loader σ) (fields : OrderedMap Tree) (before : Progress σ) : Prop :=
  ∀ source document, scalarField fields "source" = some source →
    ((loadTemplate loader source).run.run before).1 = .ok document → templateRoot? document = none

/-- The run of a template without a root does not depend on what a visit of a node would do. -/
theorem Build.run_template_rootless {loader : Loader σ} {fields : OrderedMap Tree}
    {before : Progress σ} (rootless : Rootless loader fields before) (name : String)
    (visit other : String → Tree → Build σ (List Blueprint)) :
    (template loader visit name fields).run.run before =
      (template loader other name fields).run.run before := by
  unfold template
  cases declared : scalarField fields "source" with
  | none => rfl
  | some source =>
    dsimp only
    rw [run_bind_ok (run_get before), run_bind_ok (run_get before)]
    split
    · rfl
    · cases ran : (loadTemplate loader source).run.run before with
      | mk outcome between =>
      cases outcome with
      | error error => rw [run_bind_error ran, run_bind_error ran]
      | ok document =>
        rw [run_bind_ok ran, run_bind_ok ran, rootless source document declared (by rw [ran])]

namespace Builder
variable {builder : Builder σ} {progress : Progress σ}

/-- A run that succeeds gives the tree its meaning under the documents that are kept in the end.
From every template on there is a chain of templates that ends, and the template comes to what any
chain from it on composes. -/
def ComposesChains (builder : Builder σ) (tree : Tree)
    (run : Except BuildError (List Blueprint) × Progress σ) : Prop :=
  ∀ forest, run.1 = .ok forest →
    let setting := builder.setting run.2.answers
    builder.loader.Gives run.2.answers ∧ setting.forest tree = .ok forest ∧
      (∀ levels expanding node source? children, setting.Visited tree levels expanding node →
        node.2.declaration? = some (.template source? children) →
        ∃ links last, setting.answers.Chain node links last ∧ setting.answers.Ends last.2) ∧
      ∀ levels expanding node links last, setting.Visited tree levels expanding node →
        setting.answers.Chain node links last → links ≠ [] →
        ∃ own, setting.nodeForest levels expanding node.1 node.2 = .ok own ∧
          setting.Composes levels expanding node.1 links last own

theorem composesChains_of_sound (sound : progress.Sound builder.loader []) (tree : Tree) :
    builder.ComposesChains tree ((builder.buildTree tree).run.run progress) := by
  intro forest built
  obtain ⟨gives, meaning⟩ := meaning_of_kept sound built
  refine ⟨gives, meaning, ?_, ?_⟩
  · intro levels expanding node source? children visited declared
    obtain ⟨own, ownBuilt⟩ := visited.built meaning
    exact Setting.exists_chain declared ownBuilt
  · intro levels expanding node links last visited chain linked
    obtain ⟨own, ownBuilt⟩ := visited.built meaning
    exact ⟨own, ownBuilt, Setting.composes_of_chain chain linked ownBuilt⟩

/-- Templates of templates compose, wherever they stand in a tree or a scene that is built, and
whatever the builder loads from and has built before; and a template that comes out empty does so
without a look at its children. -/
theorem chains_compose (reached : builder.Reachable progress) :
    (∀ tree, builder.ComposesChains tree ((builder.buildTree tree).run.run progress)) ∧
      (∀ name document fields,
        (builder.loader.load name progress.loader).result = .ok document →
        document.get? "scene" = some (.map fields) →
        builder.ComposesChains (.map fields) ((builder.buildScene name).run.run progress)) ∧
      ∀ fields before, Build.Rootless builder.loader fields before → ∀ name visit other,
        (Build.template builder.loader visit name fields).run.run before =
          (Build.template builder.loader other name fields).run.run before := by
  refine ⟨composesChains_of_sound reached.sound, fun name document fields loaded listed => ?_,
    fun fields before rootless => Build.run_template_rootless rootless⟩
  have entered := sound_entered reached.sound name
  have ran := run_buildScene builder name progress
  rw [loaded] at ran
  dsimp only at ran
  rw [listed, Option.bind_some] at ran
  rw [ran]
  exact composesChains_of_sound entered (.map fields)

end Builder

namespace Sample

/-- A mast is a pole with a sail; a wreck has nothing left. -/
def shipyard : OrderedMap Tree := .ofList
  [("pole", list [("shaft", entity [("knob", entity [])])]),
    ("mast", list [("root", template "pole" [("sail", entity [])])]),
    ("wreck", list [("root", template "nothing" [("rats", entity [])])]),
    ("nothing", list [])]

def shipwright : Builder Unit := ⟨.defaults, .ofDocuments shipyard, 64⟩

/-- A usage of a mast, the places of use on the way from it, and the entity at their end. -/
def main : String × Tree := ("main", template "mast" [("flag", entity [])])

def rigging : List Link := [⟨"mast", [("flag", entity [])]⟩, ⟨"pole", [("sail", entity [])]⟩]

def shaft : String × Tree := ("shaft", entity [("knob", entity [])])

/-- A usage of a wreck, and the template at its end. -/
def hulk : String × Tree := ("hulk", template "wreck" [("weed", entity [])])

def moorings : List Link := [⟨"wreck", [("weed", entity [])]⟩]

def remains : String × Tree := ("root", template "nothing" [("rats", entity [])])

def fleet : Tree := list [main, hulk]

def leaf (name : String) : Blueprint := ⟨⟨[.name name]⟩, []⟩

def mainMast : Blueprint := ⟨⟨[.name "main"]⟩, [leaf "knob", leaf "sail", leaf "flag"]⟩

def hull : Blueprint := ⟨⟨[.name "hulk"]⟩, [leaf "weed"]⟩

def fleetForest : List Blueprint := [mainMast, hull]

end Sample

/-- The main mast keeps the knob of the shaft, gets the sail first and the flag last, and goes by
its own name; of the wreck there is only what grows on it. -/
theorem fleet_composes :
    let run := (Sample.shipwright.buildTree Sample.fleet).run.run (.start ())
    let setting := Sample.shipwright.setting run.2.answers
    run.1 = .ok Sample.fleetForest ∧ Sample.shipwright.ComposesChains Sample.fleet run ∧
      setting.answers.Chain Sample.main Sample.rigging Sample.shaft ∧
      setting.Composes 64 ∅ "main" Sample.rigging Sample.shaft [Sample.mainMast] ∧
      setting.Composes 64 ∅ "hulk" Sample.moorings Sample.remains [Sample.hull] := by
  intro run setting
  have reached : Sample.shipwright.Reachable (.start ()) := .start ()
  have composes := (Builder.chains_compose reached).1 Sample.fleet
  have built : run.1 = .ok Sample.fleetForest := rfl
  obtain ⟨_, _, _, comes⟩ := composes Sample.fleetForest built
  have nodes : Sample.fleet.nodes = [Sample.main, Sample.hulk] := rfl
  have visited : ∀ node ∈ [Sample.main, Sample.hulk], setting.Visited Sample.fleet 64 ∅ node :=
    fun _ member => .listed (nodes ▸ member)
  have mast : setting.answers.Chain Sample.main Sample.rigging Sample.shaft :=
    .link rfl rfl (.link rfl rfl (.single _))
  have wreck : setting.answers.Chain Sample.hulk Sample.moorings Sample.remains :=
    .link rfl rfl (.single _)
  have mastBuilt : setting.nodeForest 64 ∅ "main" Sample.main.2 = .ok [Sample.mainMast] := rfl
  have wreckBuilt : setting.nodeForest 64 ∅ "hulk" Sample.hulk.2 = .ok [Sample.hull] := rfl
  obtain ⟨_, own, mastComes⟩ :=
    comes 64 ∅ Sample.main _ _ (visited _ (by simp)) mast (List.cons_ne_nil _ _)
  cases own.symm.trans mastBuilt
  obtain ⟨_, own, wreckComes⟩ :=
    comes 64 ∅ Sample.hulk _ _ (visited _ (by simp)) wreck (List.cons_ne_nil _ _)
  cases own.symm.trans wreckBuilt
  exact ⟨built, composes, mast, mastComes, wreckComes⟩

end SceneGraph
