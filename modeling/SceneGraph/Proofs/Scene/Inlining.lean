import Mathlib.Logic.Relation
import SceneGraph.Proofs.Scene.Depth
import SceneGraph.Proofs.Scene.Pruning

/-!
Groups whose defaults come to nothing. The nodes of such a group can stand in its place: they are
built one level higher and otherwise as before, so a tree that builds goes on to build the same, and
no other fault than too deep a nesting goes away.
-/
namespace SceneGraph
open Build

/-- No component of the map is made, since all are unknown or refused. -/
def Registry.Idle (registry : Registry) (declared : List (String × Tree)) : Prop :=
  ∀ entry ∈ declared, registry.accepts entry = false

instance (registry : Registry) (declared : List (String × Tree)) :
    Decidable (registry.Idle declared) :=
  inferInstanceAs (Decidable (∀ entry ∈ declared, registry.accepts entry = false))

namespace Tree

/-- In one node list of a tree, at whatever depth, the nodes of an idle group take its place. -/
inductive Inlines (registry : Registry) : Tree → Tree → Prop
  | inPlace {fields : OrderedMap Tree} {front back : List (String × Tree)} {name : String}
      {group : Tree} {defaults children : List (String × Tree)}
      (listed : fields.entries = front ++ (name, group) :: back)
      (declared : group.declaration? = some (.group defaults children))
      (idle : registry.Idle defaults)
      (distinct : ∀ child ∈ children, child.1 ∉ (front ++ back).map Prod.fst) :
      Inlines registry (map fields) (map (.ofList (front ++ children ++ back)))
  | inside {fields own : OrderedMap Tree} {front back : List (String × Tree)} {name : String}
      {list other : Tree} (listed : fields.entries = front ++ (name, map own) :: back)
      (recognised : (map own).kind?.isSome) (nested : own.get? "children" = some list)
      (inner : Inlines registry list other) :
      Inlines registry (map fields)
        (map (.ofList (front ++ (name, map (own.insert "children" other)) :: back)))

mutual

/-- The same node, or one of the same kind with the same data over an opened node list. -/
inductive Opens (registry : Registry) : Tree → Tree → Prop
  | same (node : Tree) : Opens registry node node
  | declared {node other : Tree} {declaration otherDeclaration : Declaration}
      (declared : node.declaration? = some declaration)
      (otherDeclared : other.declaration? = some otherDeclaration)
      (alike : declaration.Alike Eq otherDeclaration)
      (children : OpensAll registry declaration.children otherDeclaration.children) :
      Opens registry node other

/-- The same nodes in the same order, where idle groups may stand for their own nodes. -/
inductive OpensAll (registry : Registry) : List (String × Tree) → List (String × Tree) → Prop
  | nil : OpensAll registry [] []
  | cons (name : String) {node other : Tree} {rest others : List (String × Tree)}
      (first : Opens registry node other) (below : OpensAll registry rest others) :
      OpensAll registry ((name, node) :: rest) ((name, other) :: others)
  | opened (name : String) {node : Tree}
      {defaults children inner rest others : List (String × Tree)}
      (declared : node.declaration? = some (.group defaults children))
      (idle : registry.Idle defaults) (first : OpensAll registry children inner)
      (below : OpensAll registry rest others) :
      OpensAll registry ((name, node) :: rest) (inner ++ others)

end

variable {registry : Registry}

theorem opensAll_refl (nodes : List (String × Tree)) : OpensAll registry nodes nodes := by
  induction nodes with
  | nil => exact .nil
  | cons node rest ih => exact .cons node.1 (.same node.2) ih

theorem OpensAll.behind {nodes others : List (String × Tree)}
    (opens : OpensAll registry nodes others) (front : List (String × Tree)) :
    OpensAll registry (front ++ nodes) (front ++ others) := by
  induction front with
  | nil => exact opens
  | cons node rest ih => exact .cons node.1 (.same node.2) ih

theorem Opens.cases {node other : Tree} (opens : node.Opens registry other) :
    (node.declaration? = none ∧ other.declaration? = none) ∨
      ∃ declaration otherDeclaration, node.declaration? = some declaration ∧
        other.declaration? = some otherDeclaration ∧ declaration.Alike Eq otherDeclaration ∧
        OpensAll registry declaration.children otherDeclaration.children := by
  cases opens with
  | same =>
    cases declared : node.declaration? with
    | none => exact .inl ⟨rfl, rfl⟩
    | some declaration =>
      have alike : declaration.Alike Eq declaration := declaration.alike_refl fun _ => rfl
      exact .inr ⟨declaration, declaration, rfl, rfl, alike, opensAll_refl _⟩
  | declared declared otherDeclared alike children =>
    exact .inr ⟨_, _, declared, otherDeclared, alike, children⟩

section Formed

theorem Formed.nodes {tree : Tree} (formed : tree.Formed) :
    ∀ entry ∈ tree.nodes, entry.2.Formed := by
  cases formed with
  | map formed below => exact below
  | null => exact fun _ member => by cases member
  | scalar value => exact fun _ member => by cases member
  | sequence below => exact fun _ member => by cases member

theorem Formed.nodes_nodup {tree : Tree} (formed : tree.Formed) :
    (tree.nodes.map Prod.fst).Nodup := by
  cases formed with
  | map formed below => exact formed.keys_nodup
  | null => exact List.nodup_nil
  | scalar value => exact List.nodup_nil
  | sequence below => exact List.nodup_nil

theorem Formed.mapField {fields : OrderedMap Tree} (formed : (Tree.map fields).Formed)
    (key : String) : ∃ list : Tree, list.Formed ∧ SceneGraph.mapField fields key = list.nodes := by
  rw [mapField_eq]
  cases found : fields.get? key with
  | none => exact ⟨.null, .null, rfl⟩
  | some list => exact ⟨list, formed.get? found, rfl⟩

theorem Formed.children {node : Tree} (formed : node.Formed) {declaration : Declaration}
    (declared : node.declaration? = some declaration) :
    ∃ list : Tree, list.Formed ∧ declaration.children = list.nodes := by
  obtain ⟨fields, kind, rfl, _, rfl⟩ := declaration?_eq_some declared
  rw [Declaration.children_ofFields]
  exact formed.mapField "children"

theorem Formed.insert {fields : OrderedMap Tree} (formed : (Tree.map fields).Formed) (key : String)
    {value : Tree} (valueFormed : value.Formed) : (Tree.map (fields.insert key value)).Formed := by
  cases formed with
  | map formed below =>
    refine .map (formed.insert key value) fun entry member => ?_
    have found := (formed.insert key value).get?_eq_some_iff.mpr member
    rw [formed.get?_insert] at found
    split at found
    · cases found
      exact valueFormed
    · exact below entry (formed.get?_eq_some_iff.mp found)

end Formed

theorem Inlines.formed {tree other : Tree} (inlines : Inlines registry tree other)
    (formed : tree.Formed) : other.Formed := by
  induction inlines with
  | @inPlace fields front back name group defaults children listed declared idle distinct =>
    have each : ∀ entry ∈ front ++ (name, group) :: back, entry.2.Formed := listed ▸ formed.nodes
    obtain ⟨list, listFormed, rfl⟩ :=
      (each (name, group) (by simp)).children declared
    refine formed_ofList fun entry member => ?_
    rcases List.mem_append.mp member with member | later
    · rcases List.mem_append.mp member with early | own
      · exact each entry (List.mem_append_left _ early)
      · exact listFormed.nodes entry own
    · exact each entry (List.mem_append_right _ (.tail _ later))
  | @inside fields own front back name list other listed recognised nested inner ih =>
    have each : ∀ entry ∈ front ++ (name, map own) :: back, entry.2.Formed := listed ▸ formed.nodes
    have ownFormed := each (name, map own) (by simp)
    refine formed_ofList fun entry member => ?_
    rcases List.mem_append.mp member with early | member
    · exact each entry (List.mem_append_left _ early)
    · rcases List.mem_cons.mp member with rfl | later
      · exact ownFormed.insert "children" (ih (ownFormed.get? nested))
      · exact each entry (List.mem_append_right _ (.tail _ later))

theorem nodup_replaced {front children back : List (String × Tree)} {entry : String × Tree}
    (keys : ((front ++ entry :: back).map Prod.fst).Nodup)
    (own : (children.map Prod.fst).Nodup)
    (distinct : ∀ child ∈ children, child.1 ∉ (front ++ back).map Prod.fst) :
    ((front ++ children ++ back).map Prod.fst).Nodup := by
  have kept : ((front ++ back).map Prod.fst).Nodup := by
    refine List.Nodup.sublist ?_ keys
    exact ((List.Sublist.refl front).append (List.sublist_cons_self entry back)).map Prod.fst
  have moved : (front ++ children ++ back).Perm (children ++ (front ++ back)) := by
    rw [← List.append_assoc]
    exact List.perm_append_comm.append_right back
  rw [(moved.map Prod.fst).nodup_iff, List.map_append, List.nodup_append]
  refine ⟨own, kept, ?_⟩
  rintro key member _ others rfl
  obtain ⟨child, listed, rfl⟩ := List.mem_map.mp member
  exact distinct child listed others

/-- A node whose children are exchanged is of the same kind and has the same data. -/
theorem opens_insert {own : OrderedMap Tree} (formed : (map own).Formed)
    (recognised : (map own).kind?.isSome) {list other : Tree}
    (nested : own.get? "children" = some list) (inner : OpensAll registry list.nodes other.nodes) :
    (map own).Opens registry (map (own.insert "children" other)) := by
  cases formed with
  | map formed below =>
  obtain ⟨kind, known⟩ := Option.isSome_iff_exists.mp recognised
  have kept : ∀ key, key ≠ "children" →
      (own.insert "children" other).get? key = own.get? key := by
    intro key apart
    rw [formed.get?_insert, if_neg apart]
  have keptKind : (map (own.insert "children" other)).kind? = some kind := by
    rw [← known]
    have same := kept "type" (by decide)
    exact congrArg (fun value => (value.bind string?).bind NodeKind.ofName?) same
  have keptFields : ∀ key, key ≠ "children" →
      SceneGraph.mapField (own.insert "children" other) key = SceneGraph.mapField own key := by
    intro key apart
    rw [SceneGraph.mapField, kept key apart, SceneGraph.mapField]
  have keptSource : scalarField (own.insert "children" other) "source" =
      scalarField own "source" := by
    rw [scalarField, kept "source" (by decide), scalarField]
  have alike : (Declaration.ofFields own kind).Alike Eq
      (.ofFields (own.insert "children" other) kind) := by
    cases kind with
    | entity => exact .entity (keptFields "components" (by decide)).symm
    | group => exact .group (keptFields "defaults" (by decide)).symm
    | template => exact .template keptSource.symm
  refine .declared ?_ ?_ alike ?_
  · rw [declaration?_map, known, Option.map_some]
  · rw [declaration?_map, keptKind, Option.map_some]
  · rw [Declaration.children_ofFields, Declaration.children_ofFields, mapField_eq, mapField_eq,
      formed.get?_insert, if_pos rfl, nested]
    exact inner

theorem Inlines.opensAll {tree other : Tree} (inlines : Inlines registry tree other)
    (formed : tree.Formed) : OpensAll registry tree.nodes other.nodes := by
  induction inlines with
  | @inPlace fields front back name group defaults children listed declared idle distinct =>
    have entries : (map fields).nodes = front ++ (name, group) :: back := listed
    have keys := formed.nodes_nodup
    have each := formed.nodes
    rw [entries] at keys each ⊢
    obtain ⟨list, listFormed, rfl⟩ := (each (name, group) (by simp)).children declared
    have apart := nodup_replaced keys listFormed.nodes_nodup distinct
    have others : (map (.ofList (front ++ list.nodes ++ back))).nodes = _ :=
      OrderedMap.entries_ofList apart
    rw [others, List.append_assoc]
    exact (OpensAll.opened name declared idle (opensAll_refl _) (opensAll_refl back)).behind front
  | @inside fields own front back name list other listed recognised nested inner ih =>
    have entries : (map fields).nodes = front ++ (name, map own) :: back := listed
    have keys := formed.nodes_nodup
    have each := formed.nodes
    rw [entries] at keys each ⊢
    have ownFormed := each (name, map own) (by simp)
    have opens := opens_insert ownFormed recognised nested (ih (ownFormed.get? nested))
    have sameKeys : ((front ++ (name, map (own.insert "children" other)) :: back).map
        Prod.fst).Nodup := by
      rw [List.map_append, List.map_cons] at keys ⊢
      exact keys
    have others : (map (.ofList (front ++ (name, map (own.insert "children" other)) :: back))).nodes
        = _ := OrderedMap.entries_ofList sameKeys
    rw [others]
    exact (OpensAll.cons name opens (opensAll_refl back)).behind front

end Tree

variable {σ α β : Type}

namespace Build

/-- The first build refuses too deep a node, or both have the same fault or related results and end
in states that differ in the log only. -/
def Spares (related : α → β → Prop) (first : Build σ α) (second : Build σ β) : Prop :=
  ∀ before other, before.Beside Eq other →
    (∃ name limit, (first.run.run before).1 = .error (.depthExceeded name limit)) ∨
      Alike related (first.run.run before).1 (second.run.run other).1 ∧
        (first.run.run before).2.Beside Eq (second.run.run other).2

namespace Spares

variable {γ δ : Type} {related : α → β → Prop} {later : γ → δ → Prop}

theorem of_paired {first : Build σ α} {second : Build σ β}
    (paired : Paired Eq related first second) : Spares related first second :=
  fun before other beside => .inr (paired before other beside)

theorem refused (name : String) (limit : Nat) (second : Build σ β) :
    Spares related (MonadExcept.throw (.depthExceeded name limit)) second :=
  fun _ _ _ => .inl ⟨name, limit, rfl⟩

theorem bind {first : Build σ α} {second : Build σ β} {next : α → Build σ γ}
    {otherNext : β → Build σ δ} (spares : Spares related first second)
    (rest : ∀ value other, related value other → Spares later (next value) (otherNext other)) :
    Spares later (first >>= next) (second >>= otherNext) := by
  intro before other beside
  cases ran : first.run.run before with
  | mk outcome between =>
  cases otherRan : second.run.run other with
  | mk otherOutcome otherBetween =>
  have both := spares before other beside
  rw [ran, otherRan] at both
  rcases both with ⟨name, limit, refused⟩ | ⟨alike, besideBetween⟩
  · cases refused
    rw [run_bind_error ran]
    exact .inl ⟨name, limit, rfl⟩
  · cases alike with
    | error error =>
      rw [run_bind_error ran, run_bind_error otherRan]
      exact .inr ⟨.error error, besideBetween⟩
    | ok same =>
      rw [run_bind_ok ran, run_bind_ok otherRan]
      exact rest _ _ same between otherBetween besideBetween

theorem look (next : List String → Build σ α) (otherNext : List String → Build σ β)
    (inner : ∀ expanding, Spares related (next expanding) (otherNext expanding)) :
    Spares related (get >>= fun progress => next progress.expanding)
      (get >>= fun progress => otherNext progress.expanding) := by
  intro before other beside
  rw [run_bind_ok (run_get before), run_bind_ok (run_get other), beside.expanding_eq]
  exact inner other.expanding before other beside

theorem within (source : String) {first : Build σ α} {second : Build σ β}
    (inner : Spares related first second) :
    Spares related (Build.within source first) (Build.within source second) := by
  intro before other beside
  have entered := inner { before with expanding := source :: before.expanding }
    { other with expanding := source :: other.expanding }
    ⟨beside.loader_eq, beside.kept, congrArg (source :: ·) beside.expanding_eq⟩
  rcases entered with refused | ⟨alike, after⟩
  · exact .inl refused
  · exact .inr ⟨alike, after.loader_eq, after.kept, congrArg List.tail after.expanding_eq⟩

theorem coupling (loader : Loader σ) :
    Coupling loader loader Eq fun related => Spares related where
  settled first second same := .of_paired (.settled first second same)
  throw error := .of_paired (.throw error)
  bind := bind
  look := look
  loadTemplate source := .of_paired (.loadTemplate loader.beside_refl source)
  within := within

end Spares

/-- Visits of opened nodes spare those of the nodes, and so do visits of the nodes of idle groups
those of the groups. -/
structure SparingVisits (registry : Registry)
    (visit later : String → Tree → Build σ (List Blueprint)) : Prop where
  node : ∀ (name : String) {node other : Tree}, node.Opens registry other →
    Spares (List.Forall₂ (Blueprint.Alike Eq)) (visit name node) (later name other)
  group : ∀ (name : String) {node : Tree} {defaults children inner : List (String × Tree)},
    node.declaration? = some (.group defaults children) → registry.Idle defaults →
    Tree.OpensAll registry children inner →
    Spares (List.Forall₂ (Blueprint.Alike Eq)) (visit name node) (entries later inner)

theorem entries_append (visit : String → Tree → Build σ (List Blueprint))
    (nodes others : List (String × Tree)) :
    entries visit (nodes ++ others) = (do
      let forest ← entries visit nodes
      return forest ++ (← entries visit others)) := by
  induction nodes with
  | nil => simp [entries]
  | cons node rest ih =>
    simp only [List.cons_append, entries, ih, bind_assoc, pure_bind, List.append_assoc]

theorem SparingVisits.entries {registry : Registry}
    {visit later : String → Tree → Build σ (List Blueprint)}
    (visits : SparingVisits registry visit later) (loader : Loader σ)
    {nodes others : List (String × Tree)} (opens : Tree.OpensAll registry nodes others) :
    Spares (List.Forall₂ (Blueprint.Alike Eq)) (Build.entries visit nodes)
      (Build.entries later others) := by
  have coupling := Spares.coupling loader
  induction nodes generalizing others with
  | nil =>
    cases opens
    exact coupling.pure .nil
  | cons entry rest ih =>
    cases opens with
    | cons name first below =>
      refine coupling.bind (visits.node name first) fun forest other same => ?_
      refine coupling.bind (ih below) fun behind otherBehind sameBehind => ?_
      exact coupling.pure (List.rel_append same sameBehind)
    | opened name declared idle first below =>
      rw [entries_append]
      refine coupling.bind (visits.group name declared idle first) fun forest other same => ?_
      refine coupling.bind (ih below) fun behind otherBehind sameBehind => ?_
      exact coupling.pure (List.rel_append same sameBehind)

section Builders
variable {builder : Builder σ}

/-- The defaults of an idle group are reported, and change no stamp. -/
theorem settled_idle (standards : builder.registry = .defaults) (name : String)
    {declared : List (String × Tree)} (idle : builder.registry.Idle declared)
    (forest : List Blueprint) :
    Settled (σ := σ) (Build.applyDefaults builder.registry name forest declared) (.ok forest) := by
  let setting := builder.setting (.ofDocuments .empty)
  have applied := settled_reporting (σ := σ).applyDefaults setting name declared forest
  have none : builder.registry.accepted declared = [] := by
    rw [Registry.accepted, List.filter_eq_nil_iff]
    intro entry member accepted
    rw [idle entry member] at accepted
    cases accepted
  have unchanged : ∀ stamp, setting.recorded name declared stamp = stamp := by
    intro stamp
    rw [← Setting.recorded_accepted standards name declared stamp]
    exact congrArg (setting.recorded name · stamp) none
  have same : (forest.map fun blueprint => { blueprint with
      stamp := setting.recorded name declared blueprint.stamp }) = forest := by
    refine List.map_id'' ?_ forest
    rintro ⟨stamp, children⟩
    exact congrArg (Blueprint.mk · children) (unchanged stamp)
  rw [same] at applied
  exact applied

theorem SparingVisits.idleGroup (standards : builder.registry = .defaults) {levels more : Nat}
    (visits : SparingVisits builder.registry (Build.node builder levels) (Build.node builder more))
    (name : String) {node : Tree} {defaults children inner : List (String × Tree)}
    (declared : node.declaration? = some (.group defaults children))
    (idle : builder.registry.Idle defaults)
    (opens : Tree.OpensAll builder.registry children inner) :
    Spares (List.Forall₂ (Blueprint.Alike Eq)) (Build.node builder (levels + 1) name node)
      (Build.entries (Build.node builder more) inner) := by
  have coupling := Spares.coupling builder.loader
  obtain ⟨kind, fields, shape, run⟩ := node_succ builder levels name declared
  cases kind with
  | entity => cases shape
  | template => cases shape
  | group =>
    cases shape
    -- The group takes a level from its nodes, which they can spare when they stand in its place.
    obtain ⟨events, reported⟩ := exists_children_eq (Build.node builder levels) fields
    rw [run]
    refine coupling.settledLeft (.report _) ?_
    unfold Build.kindForest Build.group
    rw [reported, bind_assoc, ← bind_pure (Build.entries (Build.node builder more) inner)]
    refine coupling.settledLeft (.report events) ?_
    refine coupling.bind (visits.entries builder.loader opens) fun forest other same => ?_
    exact coupling.settled (settled_idle standards name idle forest)
      (settled_reporting.pure other) same

theorem SparingVisits.of_declared {levels more : Nat}
    (declared : ∀ (name : String) (node other : Tree) (declaration otherDeclaration : Declaration),
      node.declaration? = some declaration → other.declaration? = some otherDeclaration →
      declaration.Alike Eq otherDeclaration →
      Tree.OpensAll registry declaration.children otherDeclaration.children →
      Spares (List.Forall₂ (Blueprint.Alike Eq)) (Build.node builder levels name node)
        (Build.node builder more name other))
    (group : ∀ (name : String) {node : Tree} {defaults children inner : List (String × Tree)},
      node.declaration? = some (.group defaults children) → registry.Idle defaults →
      Tree.OpensAll registry children inner →
      Spares (List.Forall₂ (Blueprint.Alike Eq)) (Build.node builder levels name node)
        (Build.entries (Build.node builder more) inner)) :
    SparingVisits registry (Build.node builder levels) (Build.node builder more) where
  node name _ _ opens := by
    rcases opens.cases with ⟨skipped, otherSkipped⟩ | ⟨_, _, known, otherKnown, alike, below⟩
    · exact (Spares.coupling builder.loader).settled (settled_skipped builder levels name skipped)
        (settled_skipped builder more name otherSkipped) .nil
    · exact declared name _ _ _ _ known otherKnown alike below
  group := group

theorem sparingVisits_node (standards : builder.registry = .defaults) {levels more : Nat}
    (enough : levels ≤ more) :
    SparingVisits builder.registry (Build.node builder levels) (Build.node builder more) := by
  induction levels generalizing more with
  | zero =>
    refine .of_declared (fun name node other _ _ declared _ _ _ => ?_)
      fun name node _ _ _ declared _ _ => ?_
    · rw [node_zero builder name declared]
      exact .refused name builder.maxDepth _
    · rw [node_zero builder name declared]
      exact .refused name builder.maxDepth _
  | succ levels ih =>
    refine .of_declared (fun name node other _ _ declared otherDeclared alike below => ?_)
      fun name node _ _ _ declared idle opens => ?_
    · obtain ⟨more, rfl⟩ := Nat.exists_eq_add_one_of_ne_zero (Nat.ne_zero_of_lt enough)
      have visits := ih (Nat.le_of_succ_le_succ enough)
      have accord := (builder.setting (.ofDocuments .empty)).accord_eq
      refine (Spares.coupling builder.loader).node rfl accord ?_ name declared otherDeclared alike
        (visits.entries builder.loader below)
      rintro document _ rfl
      cases templateRoot? document with
      | none => exact .none
      | some root => exact .some ⟨rfl, visits.node root.1 (.same root.2)⟩
    · have visits := ih (Nat.le_of_succ_le enough)
      exact visits.idleGroup standards name declared idle opens

end Builders
end Build

namespace Sample

def pen : List (String × Json) := [("pen", .object [("type", .string "entity")])]

/-- The data for what is in the drawer are unknown or refused. -/
def drawer : List (String × Json) :=
  [("drawer", .object
    [("type", .string "group"),
      ("defaults", .object [("glow", .null), ("time_scale", .string "fast")]),
      ("children", .object pen)])]

def desk (contents : List (String × Json)) : List (String × Json) :=
  [("desk", .object [("type", .string "entity"), ("children", .object contents)])]

/-- Those for what is on the floor are not a map. -/
def floor (contents : List (String × Json)) : List (String × Json) :=
  [("floor", .object
    [("type", .string "group"), ("defaults", .string "oak"), ("children", .object contents)])]

theorem inlines_floor : (Tree.ofJson (.object (floor (desk drawer)))).Inlines .defaults
    (.ofJson (.object (desk drawer))) := by
  have declared : (Tree.ofJson (.object [("type", .string "group"), ("defaults", .string "oak"),
      ("children", .object (desk drawer))])).declaration? = some (.group _ _) := rfl
  exact @Tree.Inlines.inPlace _ _ [] [] "floor" _ _ _ rfl declared (by decide) (by decide)

theorem inlines_drawer :
    (Tree.ofJson (.object drawer)).Inlines .defaults (.ofJson (.object pen)) := by
  have declared : (Tree.ofJson (.object [("type", .string "group"),
      ("defaults", .object [("glow", .null), ("time_scale", .string "fast")]),
      ("children", .object pen)])).declaration? = some (.group _ _) := rfl
  exact @Tree.Inlines.inPlace _ _ [] [] "drawer" _ _ _ rfl declared (by decide) (by decide)

theorem inlines_desk : (Tree.ofJson (.object (desk drawer))).Inlines .defaults
    (.ofJson (.object (desk pen))) := by
  have nested : (OrderedMap.ofList (Tree.ofMembers [("type", .string "entity"),
      ("children", .object drawer)])).get? "children" = some (.ofJson (.object drawer)) := rfl
  exact @Tree.Inlines.inside _ _ _ [] [] "desk" _ _ rfl rfl nested inlines_drawer

end Sample

namespace Builder
variable {builder : Builder σ} {tree inlined : Tree}

theorem settles_inlined (standards : builder.registry = .defaults) (before : Progress σ)
    (formed : tree.Formed) (inlines : tree.Inlines .defaults inlined) :
    Settles (builder.outcome before tree) (builder.outcome before inlined) := by
  have opens := inlines.opensAll formed
  rw [← standards] at opens
  have visits := sparingVisits_node standards (Nat.le_refl builder.maxDepth)
  have states : before.Beside Eq before := before.beside_refl fun _ => rfl
  have lists := (Spares.coupling builder.loader).nodeList (visits.entries builder.loader opens)
  rcases lists before before states with refused | ⟨alike, _⟩
  · exact .inl refused
  · exact .inr (alike.imp fun _ _ => Blueprint.alikeAll_eq).eq.symm

/-- With the standard constructors, the nodes of groups whose defaults are all unknown or refused
can stand in the places of the groups, however these nest: the same forest is built, and no fault
goes away but that nodes nest too deep. -/
theorem idle_groups_transparent (standards : builder.registry = .defaults) (before : Progress σ)
    (formed : tree.Formed) (inlines : Relation.ReflTransGen (Tree.Inlines .defaults) tree inlined) :
    (∀ forest, builder.outcome before tree = .ok forest →
      builder.outcome before inlined = .ok forest) ∧
      ∀ error, builder.outcome before tree = .error error →
        (∀ name limit, error ≠ .depthExceeded name limit) →
        builder.outcome before inlined = .error error := by
  have settles : Settles (builder.outcome before tree) (builder.outcome before inlined) ∧
      inlined.Formed := by
    induction inlines with
    | refl => exact ⟨.refl _, formed⟩
    | tail _ step ih =>
      obtain ⟨settled, between⟩ := ih
      refine ⟨?_, step.formed between⟩
      rcases settled with refused | same
      · exact .inl refused
      · exact same ▸ settles_inlined standards before between step
  rcases settles.1 with ⟨name, limit, refused⟩ | same
  · refine ⟨fun forest built => ?_, fun error failed spared => ?_⟩
    · rw [refused] at built
      cases built
    · rw [refused] at failed
      cases failed
      exact absurd rfl (spared name limit)
  · rw [same]
    exact ⟨fun _ built => built, fun _ failed _ => failed⟩

end Builder

theorem furnished_transparent :
    let builder : Builder Unit := ⟨.defaults, .ofDocuments .empty, 4⟩
    (Tree.ofJson (.object (Sample.floor (Sample.desk Sample.drawer)))).Formed ∧
      builder.outcome (.start ()) (.ofJson (.object (Sample.desk Sample.pen))) =
        .ok [⟨⟨[.name "desk"]⟩, [⟨⟨[.name "pen"]⟩, []⟩]⟩] := by
  have formed := Tree.formed_ofJson (.object (Sample.floor (Sample.desk Sample.drawer)))
  have inlines := (Relation.ReflTransGen.single Sample.inlines_floor).tail Sample.inlines_desk
  exact ⟨formed, (Builder.idle_groups_transparent rfl (.start ()) formed inlines).1 _ rfl⟩
end SceneGraph
