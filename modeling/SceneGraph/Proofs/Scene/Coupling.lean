import SceneGraph.Proofs.Scene.Composition
import SceneGraph.Proofs.Scene.Likeness
import SceneGraph.Proofs.Scene.Pairing

/-!
What all comparisons of two builds have in common. A comparison that goes through the steps which
builds are made of goes through the nodes: those of the same kind with related data compare if the
nodes below them do, and the roots of the documents that are loaded.
-/
namespace SceneGraph
open Build

/-- The same kind of node and the same source, with related component data. -/
inductive Declaration.Alike (data : List (String × Tree) → List (String × Tree) → Prop) :
    Declaration → Declaration → Prop
  | entity {components others children otherChildren : List (String × Tree)}
      (same : data components others) :
      Alike data (.entity components children) (.entity others otherChildren)
  | group {defaults others children otherChildren : List (String × Tree)}
      (same : data defaults others) :
      Alike data (.group defaults children) (.group others otherChildren)
  | template {source other : Option String} {children otherChildren : List (String × Tree)}
      (same : source = other) :
      Alike data (.template source children) (.template other otherChildren)

theorem Declaration.Alike.kind_eq {data : List (String × Tree) → List (String × Tree) → Prop}
    {fields others : OrderedMap Tree} {kind otherKind : NodeKind}
    (alike : (ofFields fields kind).Alike data (ofFields others otherKind)) : kind = otherKind := by
  cases kind <;> cases otherKind <;> first | rfl | cases alike

theorem Declaration.alike_refl {data : List (String × Tree) → List (String × Tree) → Prop}
    (same : ∀ list, data list list) (declaration : Declaration) :
    declaration.Alike data declaration := by
  cases declaration with
  | entity components children => exact .entity (same components)
  | group defaults children => exact .group (same defaults)
  | template source children => exact .template rfl

/-- Related data leave related stamps. -/
structure Setting.Accord (setting : Setting) (stamps : Stamp → Stamp → Prop)
    (data : List (String × Tree) → List (String × Tree) → Prop) : Prop where
  empty : stamps .empty .empty
  named : ∀ (name : String) {stamp other : Stamp}, stamps stamp other →
    stamps (stamp.set (.name name)) (other.set (.name name))
  recorded : ∀ (node : String) {declared others : List (String × Tree)} {stamp other : Stamp},
    data declared others → stamps stamp other →
      stamps (setting.recorded node declared stamp) (setting.recorded node others other)

theorem Setting.accord_eq (setting : Setting) : setting.Accord Eq Eq where
  empty := rfl
  named name stamp other same := congrArg (fun stamp : Stamp => stamp.set (.name name)) same
  recorded node declared others stamp other same sameStamp := by rw [same, sameStamp]

namespace Build

variable {σ τ : Type}

theorem settled_skipped (builder : Builder σ) (levels : Nat) (name : String) {node : Tree}
    (skipped : node.declaration? = none) :
    Settled (Build.node builder levels name node) (.ok []) := by
  unfold Build.node
  cases recognised : recognise name node with
  | error event =>
    exact settled_reporting.reported _ (templates_recognise recognised) (settled_reporting.pure [])
  | ok found =>
    rw [recognise_ok recognised] at skipped
    cases skipped

def kindForest (builder : Builder σ) (levels : Nat) (name : String) (fields : OrderedMap Tree) :
    NodeKind → Build σ (List Blueprint)
  | .entity => return [← entity builder.registry (Build.node builder levels) name fields]
  | .group => group builder.registry (Build.node builder levels) name fields
  | .template => return [← template builder.loader (Build.node builder levels) name fields]

theorem node_zero (builder : Builder σ) (name : String) {node : Tree} {declaration : Declaration}
    (declared : node.declaration? = some declaration) :
    Build.node builder 0 name node = throw (.depthExceeded name builder.maxDepth) := by
  unfold Build.node
  cases recognised : recognise name node with
  | error event =>
    rw [recognise_error recognised] at declared
    cases declared
  | ok found => rfl

theorem node_succ (builder : Builder σ) (levels : Nat) (name : String) {node : Tree}
    {declaration : Declaration} (found : node.declaration? = some declaration) :
    ∃ kind fields, declaration = .ofFields fields kind ∧
      Build.node builder (levels + 1) name node = (do
        report [.loadingNode kind name (scalarField fields "comment")]
        kindForest builder levels name fields kind) := by
  unfold Build.node
  cases recognised : recognise name node with
  | error event =>
    rw [recognise_error recognised] at found
    cases found
  | ok recognisedNode =>
    obtain ⟨kind, fields⟩ := recognisedNode
    refine ⟨kind, fields, ?_, ?_⟩
    · exact (Option.some.inj ((recognise_ok recognised).symm.trans found)).symm
    · cases kind <;> rfl

theorem report_nil : (report [] : Build σ Unit) = Pure.pure () := by
  funext before
  have unchanged : before.log ++ ([] : List Event) = before.log := by simp
  exact congrArg (fun log => (Except.ok (), { before with log })) unchanged

/-- A node list that is not a map is reported, and holds no nodes. -/
theorem exists_nodeList_eq (visit : String → Tree → Build σ (List Blueprint)) (tree : Tree) :
    ∃ events, nodeList visit tree = (do
      report events
      entries visit tree.nodes) := by
  cases tree with
  | map fields => exact ⟨[], by rw [report_nil]; rfl⟩
  | null => exact ⟨[], by rw [report_nil]; rfl⟩
  | scalar value => exact ⟨[.skippedList (Tree.scalar value).shape], rfl⟩
  | sequence items => exact ⟨[.skippedList (Tree.sequence items).shape], rfl⟩

theorem exists_children_eq (visit : String → Tree → Build σ (List Blueprint))
    (fields : OrderedMap Tree) :
    ∃ events, children visit fields = (do
      report events
      entries visit (mapField fields "children")) := by
  rw [Tree.mapField_eq]
  unfold children
  cases fields.get? "children" with
  | none => exact ⟨[], by rw [report_nil]; rfl⟩
  | some list => exact exists_nodeList_eq visit list

/-- A way to compare two builds by their results that all steps keep, where the loaders give
documents that are related. -/
structure Coupling (loader : Loader σ) (otherLoader : Loader τ) (documents : Tree → Tree → Prop)
    (couples : {α β : Type} → (α → β → Prop) → Build σ α → Build τ β → Prop) : Prop where
  settled : ∀ {α β : Type} {related : α → β → Prop} {first : Build σ α} {second : Build τ β}
    {value : α} {other : β}, Settled first (.ok value) → Settled second (.ok other) →
      related value other → couples related first second
  throw : ∀ {α β : Type} {related : α → β → Prop} (error : BuildError),
    couples related (MonadExcept.throw error) (MonadExcept.throw error)
  bind : ∀ {α β γ δ : Type} {related : α → β → Prop} {later : γ → δ → Prop} {first : Build σ α}
    {second : Build τ β} {next : α → Build σ γ} {otherNext : β → Build τ δ},
      couples related first second →
      (∀ value other, related value other → couples later (next value) (otherNext other)) →
      couples later (first >>= next) (second >>= otherNext)
  look : ∀ {α β : Type} {related : α → β → Prop} (next : List String → Build σ α)
    (otherNext : List String → Build τ β),
      (∀ expanding, couples related (next expanding) (otherNext expanding)) →
      couples related (get >>= fun progress => next progress.expanding)
        (get >>= fun progress => otherNext progress.expanding)
  loadTemplate : ∀ source : String, couples documents (Build.loadTemplate loader source)
    (Build.loadTemplate otherLoader source)
  within : ∀ {α β : Type} {related : α → β → Prop} (source : String) {first : Build σ α}
    {second : Build τ β}, couples related first second →
      couples related (Build.within source first) (Build.within source second)

namespace Coupling

variable {documents : Tree → Tree → Prop}
  {couples : {α β : Type} → (α → β → Prop) → Build σ α → Build τ β → Prop}
  {data : List (String × Tree) → List (String × Tree) → Prop} {stamps : Stamp → Stamp → Prop}

section Loaders
variable {loader : Loader σ} {otherLoader : Loader τ}
  (coupling : Coupling loader otherLoader documents couples)
include coupling

section Steps
variable {α β : Type} {related : α → β → Prop}

theorem pure {value : α} {other : β} (same : related value other) :
    couples related (Pure.pure value) (Pure.pure other) :=
  coupling.settled (settled_reporting.pure value) (settled_reporting.pure other) same

theorem settledLeft {γ : Type} {first : Build σ γ} {value : γ} {next : γ → Build σ α}
    {second : Build τ β} (settled : Settled first (.ok value))
    (rest : couples related (next value) second) : couples related (first >>= next) second := by
  rw [← pure_bind () fun _ => second]
  have begun : couples (fun result _ => result = value) first (Pure.pure ()) :=
    coupling.settled settled (settled_reporting.pure ()) rfl
  exact coupling.bind begun fun result _ same => same ▸ rest

theorem reported (events others : List Event) {first : Build σ α} {second : Build τ β}
    (inner : couples related first second) :
    couples related (Build.report events >>= fun _ => first)
      (Build.report others >>= fun _ => second) := by
  have both : couples (fun _ _ => True) (Build.report events) (Build.report others) :=
    coupling.settled (.report events) (.report others) trivial
  exact coupling.bind both fun _ _ _ => inner

end Steps

section Kinds
variable {visit : String → Tree → Build σ (List Blueprint)}
  {otherVisit : String → Tree → Build τ (List Blueprint)}

theorem sameEntries (visits : ∀ name tree,
      couples (List.Forall₂ (Blueprint.Alike stamps)) (visit name tree) (otherVisit name tree))
    (nodes : List (String × Tree)) :
    couples (List.Forall₂ (Blueprint.Alike stamps)) (Build.entries visit nodes)
      (Build.entries otherVisit nodes) := by
  induction nodes with
  | nil => exact coupling.pure .nil
  | cons node rest ih =>
    refine coupling.bind (visits node.1 node.2) fun forest otherForest same => ?_
    refine coupling.bind ih fun later otherLater sameLater => ?_
    exact coupling.pure (List.rel_append same sameLater)

theorem nodeList {tree other : Tree}
    (nodes : couples (List.Forall₂ (Blueprint.Alike stamps)) (entries visit tree.nodes)
      (entries otherVisit other.nodes)) :
    couples (List.Forall₂ (Blueprint.Alike stamps)) (Build.nodeList visit tree)
      (Build.nodeList otherVisit other) := by
  obtain ⟨events, reported⟩ := exists_nodeList_eq visit tree
  obtain ⟨otherEvents, otherReported⟩ := exists_nodeList_eq otherVisit other
  rw [reported, otherReported]
  exact coupling.reported events otherEvents nodes

variable {fields others : OrderedMap Tree}
  (nodes : couples (List.Forall₂ (Blueprint.Alike stamps))
    (entries visit (mapField fields "children")) (entries otherVisit (mapField others "children")))
include nodes

theorem children :
    couples (List.Forall₂ (Blueprint.Alike stamps)) (Build.children visit fields)
      (Build.children otherVisit others) := by
  obtain ⟨events, reported⟩ := exists_children_eq visit fields
  obtain ⟨otherEvents, otherReported⟩ := exists_children_eq otherVisit others
  rw [reported, otherReported]
  exact coupling.reported events otherEvents nodes

variable {setting : Setting} (accord : setting.Accord stamps data) (name : String)
include accord

theorem entity (same : data (mapField fields "components") (mapField others "components")) :
    couples (Blueprint.Alike stamps) (Build.entity setting.registry visit name fields)
      (Build.entity setting.registry otherVisit name others) := by
  have recorded : couples stamps _ _ :=
    coupling.settled (settled_reporting.recordAll setting name _ _)
      (settled_reporting.recordAll setting name _ _)
      (accord.recorded name same (accord.named name accord.empty))
  refine coupling.bind recorded fun stamp other alike => ?_
  refine coupling.bind (coupling.children nodes) fun forest otherForest below => ?_
  exact coupling.pure (.mk alike below)

theorem group (same : data (mapField fields "defaults") (mapField others "defaults")) :
    couples (List.Forall₂ (Blueprint.Alike stamps)) (Build.group setting.registry visit name fields)
      (Build.group setting.registry otherVisit name others) := by
  refine coupling.bind (coupling.children nodes) fun forest otherForest below => ?_
  refine coupling.settled (settled_reporting.applyDefaults setting name _ forest)
    (settled_reporting.applyDefaults setting name _ otherForest) ?_
  rw [List.forall₂_map_left_iff, List.forall₂_map_right_iff]
  refine below.imp fun blueprint other alike => ?_
  cases alike with
  | mk stamps children => exact .mk (accord.recorded name same stamps) children

variable (roots : ∀ document other, documents document other →
  Option.Rel (fun root otherRoot => root.1 = otherRoot.1 ∧
      couples (List.Forall₂ (Blueprint.Alike stamps)) (visit root.1 root.2)
        (otherVisit otherRoot.1 otherRoot.2))
    (templateRoot? document) (templateRoot? other))
include roots

theorem template (same : scalarField fields "source" = scalarField others "source") :
    couples (Blueprint.Alike stamps) (Build.template loader visit name fields)
      (Build.template otherLoader otherVisit name others) := by
  unfold Build.template
  rw [same]
  have empty : couples (Blueprint.Alike stamps) (Pure.pure .empty) (Pure.pure .empty) :=
    coupling.pure (.mk accord.empty .nil)
  cases scalarField others "source" with
  | none => exact coupling.reported _ _ empty
  | some source =>
    refine coupling.look (fun expanding => if source ∈ expanding then _ else _)
      (fun expanding => if source ∈ expanding then _ else _) fun expanding => ?_
    dsimp only
    split
    · exact coupling.throw _
    · refine coupling.bind (coupling.loadTemplate source) fun document other related => ?_
      have chosen := roots document other related
      revert chosen
      generalize templateRoot? document = root?, templateRoot? other = otherRoot?
      intro chosen
      cases chosen with
      | none => exact coupling.reported _ _ empty
      | some root =>
        refine coupling.bind (coupling.within source root.2) fun built otherBuilt alike => ?_
        refine coupling.bind (coupling.children nodes) fun forest otherForest below => ?_
        refine coupling.pure ?_
        cases alike with
        | nil => exact .mk (accord.named name accord.empty) below
        | cons first rest =>
          cases first with
          | mk stamps children =>
            exact .mk (accord.named name stamps) (List.rel_append children below)

end Kinds
end Loaders

/-- Nodes that declare alike compare if what they declare below does, whatever levels are left. -/
theorem node {builder : Builder σ} {other : Builder τ} {answers : Answers}
    (coupling : Coupling builder.loader other.loader documents couples)
    (registries : other.registry = builder.registry)
    (accord : (builder.setting answers).Accord stamps data) {levels more : Nat}
    (roots : ∀ document otherDocument, documents document otherDocument →
      Option.Rel (fun root otherRoot => root.1 = otherRoot.1 ∧
          couples (List.Forall₂ (Blueprint.Alike stamps)) (Build.node builder levels root.1 root.2)
            (Build.node other more otherRoot.1 otherRoot.2))
        (templateRoot? document) (templateRoot? otherDocument))
    (name : String) {tree otherTree : Tree} {declaration otherDeclaration : Declaration}
    (declared : tree.declaration? = some declaration)
    (otherDeclared : otherTree.declaration? = some otherDeclaration)
    (alike : declaration.Alike data otherDeclaration)
    (nodes : couples (List.Forall₂ (Blueprint.Alike stamps))
      (entries (Build.node builder levels) declaration.children)
      (entries (Build.node other more) otherDeclaration.children)) :
    couples (List.Forall₂ (Blueprint.Alike stamps)) (Build.node builder (levels + 1) name tree)
      (Build.node other (more + 1) name otherTree) := by
  obtain ⟨kind, fields, rfl, run⟩ := node_succ builder levels name declared
  obtain ⟨otherKind, others, rfl, otherRun⟩ := node_succ other more name otherDeclared
  obtain rfl := alike.kind_eq
  rw [Declaration.children_ofFields, Declaration.children_ofFields] at nodes
  rw [run, otherRun]
  refine coupling.reported _ _ ?_
  have single : ∀ blueprint otherBlueprint, blueprint.Alike stamps otherBlueprint →
      couples (List.Forall₂ (Blueprint.Alike stamps)) (Pure.pure [blueprint])
        (Pure.pure [otherBlueprint]) :=
    fun _ _ alike => coupling.pure (.cons alike .nil)
  unfold kindForest
  rw [registries]
  cases kind with
  | entity =>
    cases alike with
    | entity same => exact coupling.bind (coupling.entity nodes accord name same) single
  | group =>
    cases alike with
    | group same => exact coupling.group nodes accord name same
  | template =>
    cases alike with
    | template same => exact coupling.bind (coupling.template nodes accord name roots same) single

section Same
variable {builder : Builder σ} {other : Builder τ}
  (coupling : Coupling builder.loader other.loader Eq couples)
  (registries : other.registry = builder.registry) (limits : other.maxDepth = builder.maxDepth)
include coupling registries limits

/-- Loaders of the same documents make any comparison go through from a tree to itself. -/
theorem node_refl (levels : Nat) (name : String) (tree : Tree) :
    couples (List.Forall₂ (Blueprint.Alike Eq)) (Build.node builder levels name tree)
      (Build.node other levels name tree) := by
  have skipped : ∀ levels name (tree : Tree), tree.declaration? = none →
      couples (List.Forall₂ (Blueprint.Alike Eq)) (Build.node builder levels name tree)
        (Build.node other levels name tree) := fun levels name tree skipped =>
    coupling.settled (settled_skipped builder levels name skipped)
      (settled_skipped other levels name skipped) .nil
  induction levels generalizing name tree with
  | zero =>
    cases declared : tree.declaration? with
    | none => exact skipped 0 name tree declared
    | some declaration =>
      rw [node_zero builder name declared, node_zero other name declared, limits]
      exact coupling.throw _
  | succ levels ih =>
    cases declared : tree.declaration? with
    | none => exact skipped (levels + 1) name tree declared
    | some declaration =>
      have accord := (builder.setting fun source => .error (.notFound source)).accord_eq
      refine coupling.node registries accord ?_ name declared declared
        (declaration.alike_refl fun _ => rfl) (coupling.sameEntries ih declaration.children)
      rintro document _ rfl
      cases templateRoot? document with
      | none => exact .none
      | some root => exact .some ⟨rfl, ih root.1 root.2⟩

theorem buildTree_refl (tree : Tree) :
    couples (List.Forall₂ (Blueprint.Alike Eq)) (builder.buildTree tree)
      (other.buildTree tree) := by
  have visits := coupling.node_refl registries limits builder.maxDepth
  have both := coupling.nodeList (coupling.sameEntries visits tree.nodes)
  rw [Builder.buildTree, Builder.buildTree, limits]
  exact both

end Same
end Coupling

theorem Paired.coupling {documents : Tree → Tree → Prop} {loader otherLoader : Loader σ}
    (loaders : loader.Beside documents otherLoader) :
    Coupling loader otherLoader documents fun related => Paired documents related where
  settled := .settled
  throw error := .throw error
  bind := Linked.bind
  look := Linked.look (links_beside documents)
  loadTemplate := .loadTemplate loaders
  within := Linked.within (links_beside documents)

end Build
end SceneGraph
