import Mathlib.Data.Finset.Insert
import SceneGraph.Proofs.Execution
import SceneGraph.Proofs.Scene.Declaration

/-!
The meaning of declared trees, without a builder: no document is kept, nothing is reported, and the
sources under expansion are an argument. `Fails` lists the ways in which a node can have no
meaning, and every fault of the evaluation arises in one of them.
-/
namespace SceneGraph

/-- What a source stands for: its document, or why there is none. -/
abbrev Answers := String → Except LoadError Tree

theorem mapM_error {ε α β : Type} {visit : α → Except ε β} {items : List α} {error : ε}
    (failed : items.mapM visit = .error error) : ∃ item ∈ items, visit item = .error error := by
  induction items with
  | nil => cases failed
  | cons item rest ih =>
    rw [List.mapM_cons] at failed
    rcases bind_error failed with first | ⟨_, _, failed⟩
    · exact ⟨item, List.mem_cons_self, first⟩
    · rcases bind_error failed with later | ⟨_, _, done⟩
      · obtain ⟨other, member, fails⟩ := ih later
        exact ⟨other, List.mem_cons_of_mem item member, fails⟩
      · cases done

theorem map_error {ε α β : Type} {first : Except ε α} {next : α → β} {error : ε}
    (failed : first.map next = .error error) : first = .error error := by
  cases first with
  | error fault => exact congrArg Except.error (Except.error.inj failed)
  | ok value => cases failed

namespace Answers

def ofDocuments (documents : OrderedMap Tree) : Answers := fun name =>
  match documents.get? name with
  | some tree => .ok tree
  | none => .error (.notFound name)

def document (answers : Answers) (source : String) : Except BuildError Tree :=
  (answers source).mapError .load

def root? (answers : Answers) (source : String) : Option (String × Tree) :=
  (answers source).toOption.bind templateRoot?

/-- The children that are evaluated with a node: none of a template that comes out empty. -/
def walked (answers : Answers) : Declaration → List (String × Tree)
  | .template none _ => []
  | .template (some source) children => if (answers.root? source).isSome then children else []
  | .entity _ children => children
  | .group _ children => children

variable {answers : Answers} {source : String}

theorem document_error {error : BuildError} (failed : answers.document source = .error error) :
    ∃ fault, answers source = .error fault ∧ error = .load fault := by
  unfold document at failed
  cases answered : answers source with
  | error fault =>
    rw [answered] at failed
    cases failed
    exact ⟨fault, rfl, rfl⟩
  | ok document =>
    rw [answered] at failed
    cases failed

theorem document_ok {document : Tree} (loaded : answers.document source = .ok document) :
    answers source = .ok document := by
  unfold Answers.document at loaded
  cases answered : answers source with
  | error fault =>
    rw [answered] at loaded
    cases loaded
  | ok tree =>
    rw [answered] at loaded
    cases loaded
    rfl

theorem root?_of_document {document : Tree} (loaded : answers.document source = .ok document) :
    answers.root? source = templateRoot? document := by
  unfold root?
  rw [document_ok loaded]
  rfl

theorem mem_walked_template {children : List (String × Tree)} {child : String × Tree} :
    child ∈ answers.walked (.template (some source) children) ↔
      (∃ root, answers.root? source = some root) ∧ child ∈ children := by
  simp [walked, Option.isSome_iff_exists]

end Answers

structure Setting where
  registry : Registry
  answers : Answers
  maxDepth : Nat

namespace Setting
open Answers

def recorded (setting : Setting) (node : String) (declared : List (String × Tree))
    (stamp : Stamp) : Stamp :=
  declared.foldl (fun stamp entry => (setting.registry.record node stamp entry.1 entry.2).1) stamp

/-- The forests of nodes one after the other, or the first fault. -/
def inOrder (visit : String → Tree → Except BuildError (List Blueprint))
    (nodes : List (String × Tree)) : Except BuildError (List Blueprint) :=
  (nodes.mapM fun node => visit node.1 node.2).map List.flatten

section Declarations
variable (setting : Setting)
  (visit : Finset String → String → Tree → Except BuildError (List Blueprint))
  (expanding : Finset String) (name : String)

def entityBlueprint (components children : List (String × Tree)) : Except BuildError Blueprint := do
  let forest ← inOrder (visit expanding) children
  return ⟨setting.recorded name components (Stamp.empty.set (.name name)), forest⟩

def groupForest (defaults children : List (String × Tree)) :
    Except BuildError (List Blueprint) := do
  let forest ← inOrder (visit expanding) children
  return forest.map fun blueprint =>
    { blueprint with stamp := setting.recorded name defaults blueprint.stamp }

/-- The root of the source's document is visited with the source among those under expansion, the
children at the place of use without it. -/
def templateBlueprint (source : String) (children : List (String × Tree)) :
    Except BuildError Blueprint :=
  if source ∈ expanding then .error (.templateCycle source)
  else do
    let document ← setting.answers.document source
    match templateRoot? document with
    | none => return .empty
    | some root =>
      let expansion := (← visit (insert source expanding) root.1 root.2).head?.getD .empty
      let added ← inOrder (visit expanding) children
      return ⟨expansion.stamp.set (.name name), expansion.children ++ added⟩

def declarationForest : Declaration → Except BuildError (List Blueprint)
  | .entity components children =>
      return [← entityBlueprint setting visit expanding name components children]
  | .group defaults children => groupForest setting visit expanding name defaults children
  | .template none _ => return [.empty]
  | .template (some source) children =>
      return [← templateBlueprint setting visit expanding name source children]

end Declarations

/-- The forest of one node. At most `levels` nodes may nest from here on, this one included, and
`expanding` holds the sources of the templates around it. -/
def nodeForest (setting : Setting) :
    (levels : Nat) → (expanding : Finset String) → (name : String) → Tree →
      Except BuildError (List Blueprint)
  | levels, expanding, name, tree =>
    match tree.declaration?, levels with
    | none, _ => .ok []
    | some _, 0 => .error (.depthExceeded name setting.maxDepth)
    | some declaration, levels + 1 =>
        setting.declarationForest (nodeForest setting levels) expanding name declaration

def forest (setting : Setting) (tree : Tree) : Except BuildError (List Blueprint) :=
  inOrder (setting.nodeForest setting.maxDepth ∅) tree.nodes

def scene (setting : Setting) (name : String) : Except BuildError (List Blueprint) := do
  let document ← setting.answers.document name
  match (document.get? "scene").bind Tree.fields? with
  | none => .error (.missingScene name)
  | some fields => setting.forest (.map fields)

/-- The faults of a node: it nests too deep, its source is under expansion or has no document, or a
node below it fails. -/
inductive Fails (setting : Setting) :
    (levels : Nat) → (expanding : Finset String) → (name : String) → Tree → BuildError → Prop
  | tooDeep (expanding : Finset String) (name : String) {tree : Tree} {declaration : Declaration}
      (declared : tree.declaration? = some declaration) :
      Fails setting 0 expanding name tree (.depthExceeded name setting.maxDepth)
  | cyclic (levels : Nat) {expanding : Finset String} (name : String) {tree : Tree}
      {source : String} {children : List (String × Tree)}
      (declared : tree.declaration? = some (.template (some source) children))
      (inside : source ∈ expanding) :
      Fails setting (levels + 1) expanding name tree (.templateCycle source)
  | unloaded (levels : Nat) (expanding : Finset String) (name : String) {tree : Tree}
      {source : String} {children : List (String × Tree)} {fault : LoadError}
      (declared : tree.declaration? = some (.template (some source) children))
      (unanswered : setting.answers source = .error fault) :
      Fails setting (levels + 1) expanding name tree (.load fault)
  | root (name : String) {levels : Nat} {expanding : Finset String} {tree : Tree}
      {source : String} {children : List (String × Tree)} {root : String × Tree}
      {error : BuildError}
      (declared : tree.declaration? = some (.template (some source) children))
      (fresh : source ∉ expanding) (rooted : setting.answers.root? source = some root)
      (below : Fails setting levels (insert source expanding) root.1 root.2 error) :
      Fails setting (levels + 1) expanding name tree error
  | child (name : String) {levels : Nat} {expanding : Finset String} {tree : Tree}
      {declaration : Declaration} {child : String × Tree} {error : BuildError}
      (declared : tree.declaration? = some declaration)
      (member : child ∈ setting.answers.walked declaration)
      (below : Fails setting levels expanding child.1 child.2 error) :
      Fails setting (levels + 1) expanding name tree error

variable {setting : Setting} {levels : Nat} {expanding : Finset String} {name : String}
  {tree : Tree} {declaration : Declaration} {error : BuildError}

theorem nodeForest_skipped (skipped : tree.declaration? = none) :
    setting.nodeForest levels expanding name tree = .ok [] := by
  unfold nodeForest
  rw [skipped]

theorem nodeForest_zero (declared : tree.declaration? = some declaration) :
    setting.nodeForest 0 expanding name tree =
      .error (.depthExceeded name setting.maxDepth) := by
  unfold nodeForest
  rw [declared]

theorem nodeForest_succ (declared : tree.declaration? = some declaration) :
    setting.nodeForest (levels + 1) expanding name tree =
      setting.declarationForest (setting.nodeForest levels) expanding name declaration := by
  rw [nodeForest.eq_def]
  simp only [declared]

section Order
variable {visit : String → Tree → Except BuildError (List Blueprint)}
  {nodes : List (String × Tree)}

theorem inOrder_cons (node : String × Tree) :
    inOrder visit (node :: nodes) = (do
      let first ← visit node.1 node.2
      let rest ← inOrder visit nodes
      return first ++ rest) := by
  unfold inOrder
  rw [List.mapM_cons]
  cases visit node.1 node.2 with
  | error error => rfl
  | ok first => cases nodes.mapM fun node => visit node.1 node.2 <;> rfl

theorem inOrder_error (failed : inOrder visit nodes = .error error) :
    ∃ node ∈ nodes, visit node.1 node.2 = .error error :=
  mapM_error (map_error failed)

end Order

section Cases
variable {visit : Finset String → String → Tree → Except BuildError (List Blueprint)}

theorem templateBlueprint_error {source : String} {children : List (String × Tree)}
    (failed : setting.templateBlueprint visit expanding name source children = .error error) :
    source ∈ expanding ∧ error = .templateCycle source ∨
      source ∉ expanding ∧
        ((∃ fault, setting.answers source = .error fault ∧ error = .load fault) ∨
          ∃ root, setting.answers.root? source = some root ∧
            (visit (insert source expanding) root.1 root.2 = .error error ∨
              ∃ child ∈ children, visit expanding child.1 child.2 = .error error)) := by
  unfold templateBlueprint at failed
  by_cases inside : source ∈ expanding
  · rw [if_pos inside] at failed
    cases failed
    exact .inl ⟨inside, rfl⟩
  · rw [if_neg inside] at failed
    refine .inr ⟨inside, ?_⟩
    rcases bind_error failed with unloaded | ⟨document, loaded, failed⟩
    · exact .inl (document_error unloaded)
    · have rooted := root?_of_document loaded
      cases chosen : templateRoot? document with
      | none =>
        rw [chosen] at failed
        cases failed
      | some root =>
        rw [chosen] at failed rooted
        refine .inr ⟨root, rooted, ?_⟩
        rcases bind_error failed with below | ⟨roots, _, failed⟩
        · exact .inl below
        · rcases bind_error failed with added | ⟨forest, _, done⟩
          · exact .inr (inOrder_error added)
          · cases done

theorem declarationForest_error
    (failed : setting.declarationForest visit expanding name declaration = .error error) :
    (∃ source children, declaration = .template (some source) children ∧
      (source ∈ expanding ∧ error = .templateCycle source ∨
        (∃ fault, setting.answers source = .error fault ∧ error = .load fault) ∨
        source ∉ expanding ∧ ∃ root, setting.answers.root? source = some root ∧
          visit (insert source expanding) root.1 root.2 = .error error)) ∨
    ∃ child ∈ setting.answers.walked declaration,
      visit expanding child.1 child.2 = .error error := by
  cases declaration with
  | entity components children =>
    rcases bind_error failed with failed | ⟨_, _, done⟩
    · rcases bind_error failed with inner | ⟨_, _, done⟩
      · exact .inr (inOrder_error inner)
      · cases done
    · cases done
  | group defaults children =>
    rcases bind_error failed with inner | ⟨_, _, done⟩
    · exact .inr (inOrder_error inner)
    · cases done
  | template source? children =>
    cases source? with
    | none => cases failed
    | some source =>
      rcases bind_error failed with failed | ⟨_, _, done⟩
      · rcases templateBlueprint_error failed with
          cyclic | ⟨fresh, unloaded | ⟨root, rooted, cause⟩⟩
        · exact .inl ⟨source, children, rfl, .inl cyclic⟩
        · exact .inl ⟨source, children, rfl, .inr (.inl unloaded)⟩
        · rcases cause with below | added
          · exact .inl ⟨source, children, rfl, .inr (.inr ⟨fresh, root, rooted, below⟩)⟩
          · obtain ⟨child, member, fails⟩ := added
            exact .inr ⟨child, mem_walked_template.mpr ⟨⟨root, rooted⟩, member⟩, fails⟩
      · cases done

end Cases

theorem nodeForest_fails (failed : setting.nodeForest levels expanding name tree = .error error) :
    Fails setting levels expanding name tree error := by
  induction levels generalizing expanding name tree with
  | zero =>
    cases declared : tree.declaration? with
    | none =>
      rw [nodeForest_skipped declared] at failed
      cases failed
    | some declaration =>
      rw [nodeForest_zero declared] at failed
      cases failed
      exact .tooDeep expanding name declared
  | succ levels ih =>
    cases declared : tree.declaration? with
    | none =>
      rw [nodeForest_skipped declared] at failed
      cases failed
    | some declaration =>
      rw [nodeForest_succ declared] at failed
      rcases declarationForest_error failed with
        ⟨source, children, rfl,
          ⟨inside, rfl⟩ | ⟨fault, unanswered, rfl⟩ | ⟨fresh, root, rooted, below⟩⟩ |
        ⟨child, member, below⟩
      · exact .cyclic levels name declared inside
      · exact .unloaded levels expanding name declared unanswered
      · exact .root name declared fresh rooted (ih below)
      · exact .child name declared member (ih below)

end Setting
end SceneGraph
