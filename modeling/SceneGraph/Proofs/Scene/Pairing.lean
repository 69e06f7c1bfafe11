import SceneGraph.Proofs.Scene.Refinement

/-!
Two builds side by side. They start with related documents and ask for the same sources in the same
order, so they end with the same fault or with related results. What only one of them skips or
reports does not show.
-/
namespace SceneGraph

/-- The same fault, or related results. -/
inductive Alike {ε α β : Type} (related : α → β → Prop) : Except ε α → Except ε β → Prop
  | ok {value : α} {other : β} (same : related value other) : Alike related (.ok value) (.ok other)
  | error (error : ε) : Alike related (.error error) (.error error)

theorem Alike.eq {ε α : Type} {first second : Except ε α} (alike : Alike Eq first second) :
    first = second := by
  cases alike with
  | ok same => rw [same]
  | error error => rfl

theorem Alike.imp {ε α β : Type} {related later : α → β → Prop} {first : Except ε α}
    {second : Except ε β} (alike : Alike related first second)
    (weaker : ∀ value other, related value other → later value other) :
    Alike later first second := by
  cases alike with
  | ok same => exact .ok (weaker _ _ same)
  | error error => exact .error error

variable {σ τ α β γ δ : Type}

/-- In the same state both loaders give related documents, or the same error, and go on alike. -/
def Loader.Beside (documents : Tree → Tree → Prop) (first second : Loader σ) : Prop :=
  ∀ name state, (first.load name state).state = (second.load name state).state ∧
    Alike documents (first.load name state).result (second.load name state).result

theorem Loader.beside_ofDocuments {documents : Tree → Tree → Prop} {library other : OrderedMap Tree}
    (related : ∀ name, Option.Rel documents (library.get? name) (other.get? name)) :
    (ofDocuments library).Beside documents (ofDocuments other) := by
  intro name state
  refine ⟨rfl, ?_⟩
  have both := related name
  unfold ofDocuments Loader.pure
  dsimp only
  generalize library.get? name = found, other.get? name = held at both
  cases both with
  | none => exact .error _
  | some same => exact .ok same

theorem Loader.beside_refl (loader : Loader σ) : loader.Beside Eq loader := by
  intro name state
  refine ⟨rfl, ?_⟩
  cases (loader.load name state).result with
  | error error => exact .error error
  | ok document => exact .ok rfl

/-- Nothing but the log and related documents tells the states apart. -/
structure Progress.Beside (documents : Tree → Tree → Prop) (first second : Progress σ) : Prop where
  loader_eq : first.loader = second.loader
  kept : ∀ source : String,
    Option.Rel documents first.templates[source]? second.templates[source]?
  expanding_eq : first.expanding = second.expanding

theorem Progress.beside_start (documents : Tree → Tree → Prop) (loader : σ) :
    (start loader).Beside documents (start loader) where
  loader_eq := rfl
  kept source := by
    rw [show (start loader).templates[source]? = none from Std.TreeMap.getElem?_emptyc]
    exact .none
  expanding_eq := rfl

theorem Progress.beside_refl {documents : Tree → Tree → Prop}
    (same : ∀ tree, documents tree tree) (progress : Progress σ) :
    progress.Beside documents progress where
  loader_eq := rfl
  kept source := by
    cases progress.templates[source]? with
    | none => exact .none
    | some document => exact .some (same document)
  expanding_eq := rfl

namespace Build

/-- The build has the outcome and reports, and does nothing else. -/
def Settled (build : Build σ α) (outcome : Except BuildError α) : Prop :=
  ∀ before, ∃ log, build.run.run before = (outcome, { before with log })

theorem Settled.report (events : List Event) :
    Settled (σ := σ) (Build.report events) (.ok ()) :=
  fun before => ⟨before.log ++ events, rfl⟩

theorem settled_reporting : Reporting fun {α} => Settled (σ := σ) (α := α) where
  pure value := fun before => ⟨before.log, rfl⟩
  bind {_ _ build next outcome nextOutcome} first rest := by
    intro before
    obtain ⟨log, ran⟩ := first before
    cases outcome with
    | error error => exact ⟨log, run_bind_error ran⟩
    | ok value =>
      obtain ⟨logAfter, finished⟩ := rest value { before with log }
      exact ⟨logAfter, (run_bind_ok ran).trans finished⟩
  report events _ := .report events

/-- From states in the relation the builds have the same fault or related results, and end in such
states again. -/
def Linked (states : Progress σ → Progress τ → Prop) (related : α → β → Prop) (first : Build σ α)
    (second : Build τ β) : Prop :=
  ∀ before other, states before other →
    Alike related (first.run.run before).1 (second.run.run other).1 ∧
      states (first.run.run before).2 (second.run.run other).2

/-- Builders in such states have the same sources under expansion, and their logs are their own. -/
structure Links (states : Progress σ → Progress τ → Prop) : Prop where
  expanding_eq : ∀ {before : Progress σ} {other : Progress τ}, states before other →
    before.expanding = other.expanding
  sources : ∀ {before : Progress σ} {other : Progress τ} (change : List String → List String),
    states before other → states { before with expanding := change before.expanding }
      { other with expanding := change other.expanding }
  logs : ∀ {before : Progress σ} {other : Progress τ} (log otherLog : Array Event),
    states before other → states { before with log } { other with log := otherLog }

namespace Linked

variable {states : Progress σ → Progress τ → Prop} {related : α → β → Prop} {later : γ → δ → Prop}

theorem throw (error : BuildError) :
    Linked states related (MonadExcept.throw error) (MonadExcept.throw error) :=
  fun _ _ linked => ⟨.error error, linked⟩

theorem bind {first : Build σ α} {second : Build τ β} {next : α → Build σ γ}
    {otherNext : β → Build τ δ} (linked : Linked states related first second)
    (rest : ∀ value other, related value other →
      Linked states later (next value) (otherNext other)) :
    Linked states later (first >>= next) (second >>= otherNext) := by
  intro before other held
  obtain ⟨alike, heldBetween⟩ := linked before other held
  cases ran : first.run.run before with
  | mk outcome between =>
  cases otherRan : second.run.run other with
  | mk otherOutcome otherBetween =>
  rw [ran, otherRan] at alike heldBetween
  cases alike with
  | error error =>
    rw [run_bind_error ran, run_bind_error otherRan]
    exact ⟨.error error, heldBetween⟩
  | ok same =>
    rw [run_bind_ok ran, run_bind_ok otherRan]
    exact rest _ _ same _ _ heldBetween

variable (links : Links states)
include links

theorem settled {first : Build σ α} {second : Build τ β} {value : α} {other : β}
    (left : Settled first (.ok value)) (right : Settled second (.ok other))
    (same : related value other) : Linked states related first second := by
  intro before otherBefore held
  obtain ⟨log, ran⟩ := left before
  obtain ⟨otherLog, otherRan⟩ := right otherBefore
  rw [ran, otherRan]
  exact ⟨.ok same, links.logs log otherLog held⟩

theorem look (next : List String → Build σ α) (otherNext : List String → Build τ β)
    (inner : ∀ expanding, Linked states related (next expanding) (otherNext expanding)) :
    Linked states related (get >>= fun progress => next progress.expanding)
      (get >>= fun progress => otherNext progress.expanding) := by
  intro before other held
  rw [run_bind_ok (run_get before), run_bind_ok (run_get other), links.expanding_eq held]
  exact inner other.expanding before other held

theorem within (source : String) {first : Build σ α} {second : Build τ β}
    (inner : Linked states related first second) :
    Linked states related (Build.within source first) (Build.within source second) := by
  intro before other held
  obtain ⟨alike, after⟩ := inner _ _ (links.sources (source :: ·) held)
  exact ⟨alike, links.sources List.tail after⟩

end Linked

theorem links_beside (documents : Tree → Tree → Prop) :
    Links (Progress.Beside (σ := σ) documents) where
  expanding_eq beside := beside.expanding_eq
  sources change beside := ⟨beside.loader_eq, beside.kept, congrArg change beside.expanding_eq⟩
  logs _ _ beside := ⟨beside.loader_eq, beside.kept, beside.expanding_eq⟩

/-- From states with related documents the builds have the same fault or related results, and end
in such states again. -/
def Paired (documents : Tree → Tree → Prop) (related : α → β → Prop) (first : Build σ α)
    (second : Build σ β) : Prop :=
  ∀ before other, before.Beside documents other →
    Alike related (first.run.run before).1 (second.run.run other).1 ∧
      (first.run.run before).2.Beside documents (second.run.run other).2

namespace Paired

variable {documents : Tree → Tree → Prop} {related : α → β → Prop}

theorem throw (error : BuildError) :
    Paired (σ := σ) documents related (MonadExcept.throw error) (MonadExcept.throw error) :=
  Linked.throw error

theorem settled {first : Build σ α} {second : Build σ β} {value : α} {other : β}
    (left : Settled first (.ok value)) (right : Settled second (.ok other))
    (same : related value other) : Paired documents related first second :=
  Linked.settled (links_beside documents) left right same

/-- A source is kept on both sides or on neither, so both loaders are asked or none is. -/
theorem loadTemplate {loader otherLoader : Loader σ} (loaders : loader.Beside documents otherLoader)
    (source : String) :
    Paired documents documents (Build.loadTemplate loader source)
      (Build.loadTemplate otherLoader source) := by
  intro before other beside
  have both := beside.kept source
  cases kept : before.templates[source]? with
  | some document =>
    cases otherKept : other.templates[source]? with
    | none =>
      rw [kept, otherKept] at both
      cases both
    | some otherDocument =>
      rw [kept, otherKept] at both
      rw [run_loadTemplate_kept loader kept, run_loadTemplate_kept otherLoader otherKept]
      cases both with
      | some same => exact ⟨.ok same, beside⟩
  | none =>
    cases otherKept : other.templates[source]? with
    | some otherDocument =>
      rw [kept, otherKept] at both
      cases both
    | none =>
      obtain ⟨state, alike⟩ := loaders source before.loader
      rw [run_loadTemplate_new loader kept, run_loadTemplate_new otherLoader otherKept,
        ← beside.loader_eq]
      revert alike
      generalize read : (loader.load source before.loader).result = result
      generalize otherRead : (otherLoader.load source before.loader).result = otherResult
      intro alike
      have asked : (requested loader source before).loader =
          (requested otherLoader source other).loader := by
        rw [requested, requested, Build.asked, Build.asked, ← beside.loader_eq]
        exact state
      cases alike with
      | error error => exact ⟨.error _, asked, beside.kept, beside.expanding_eq⟩
      | ok same =>
        refine ⟨.ok same, asked, fun name => ?_, beside.expanding_eq⟩
        simp only [Std.TreeMap.getElem?_insert]
        split
        · exact .some same
        · exact beside.kept name

end Paired
end Build
end SceneGraph
