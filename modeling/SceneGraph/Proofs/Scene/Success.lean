import SceneGraph.Proofs.Execution
import SceneGraph.Proofs.Scene.Refinement

/-!
Builds that succeed, with any loader, also one that changes its answers. A document is kept as it
was loaded first and never replaced, so a build that succeeds gives the tree its meaning under the
documents that are kept in the end.
-/
namespace SceneGraph
open Setting

variable {σ α β : Type}

/-- What the sources stand for was an answer of the loader in some state. -/
def Loader.Gives (loader : Loader σ) (answers : Answers) : Prop :=
  ∀ source document, answers source = .ok document →
    ∃ state, (loader.load source state).result = .ok document

namespace Progress

def answers (progress : Progress σ) : Answers := fun source =>
  match progress.templates[source]? with
  | some tree => .ok tree
  | none => .error (.notFound source)

def Agrees (progress : Progress σ) (answers : Answers) : Prop :=
  ∀ source tree, progress.templates[source]? = some tree → answers source = .ok tree

structure Sound (loader : Loader σ) (expanding : List String) (progress : Progress σ) : Prop where
  loaded : ∀ source tree, progress.templates[source]? = some tree →
    ∃ state, (loader.load source state).result = .ok tree
  expanding_eq : progress.expanding = expanding

theorem agrees_answers (progress : Progress σ) : progress.Agrees progress.answers := by
  intro source tree kept
  unfold answers
  rw [kept]

theorem Sound.gives {loader : Loader σ} {expanding : List String} {progress : Progress σ}
    (sound : progress.Sound loader expanding) : loader.Gives progress.answers := by
  intro source document answered
  unfold answers at answered
  cases kept : progress.templates[source]? with
  | none =>
    rw [kept] at answered
    cases answered
  | some tree =>
    rw [kept] at answered
    cases answered
    exact sound.loaded source document kept

end Progress

/-- The build leaves a sound state, and a success has the value under all answers that agree with
the documents kept then. -/
def Build.Means (loader : Loader σ) (answers : Answers) (expanding : List String)
    (build : Build σ α) (value : Except BuildError α) : Prop :=
  ∀ (before after : Progress σ) (outcome : Except BuildError α),
    build.run.run before = (outcome, after) → before.Sound loader expanding →
      after.Sound loader expanding ∧
      ∀ result, outcome = .ok result → after.Agrees answers →
        before.Agrees answers ∧ value = .ok result

namespace Build.Means

variable {loader : Loader σ} {answers : Answers} {expanding : List String}

theorem pure (value : α) :
    Means loader answers expanding (Pure.pure value) (.ok value) := by
  rintro before _ _ ⟨⟩ sound
  exact ⟨sound, fun _ same agrees => ⟨agrees, same⟩⟩

theorem throw (error : BuildError) :
    Means (α := α) loader answers expanding (MonadExcept.throw error) (.error error) := by
  rintro before _ _ ⟨⟩ sound
  exact ⟨sound, fun _ same agrees => ⟨agrees, same⟩⟩

theorem bind {build : Build σ α} {next : α → Build σ β} {value : Except BuildError α}
    {nextValue : α → Except BuildError β} (first : Means loader answers expanding build value)
    (rest : ∀ result, Means loader answers expanding (next result) (nextValue result)) :
    Means loader answers expanding (build >>= next) (value >>= nextValue) := by
  intro before after outcome ran sound
  cases begun : build.run.run before with
  | mk middleOutcome middle =>
  obtain ⟨middleSound, firstMeans⟩ := first before middle middleOutcome begun sound
  cases middleOutcome with
  | error error =>
    rw [run_bind_error begun] at ran
    cases ran
    exact ⟨middleSound, fun _ success _ => by cases success⟩
  | ok middleResult =>
    rw [run_bind_ok begun] at ran
    obtain ⟨afterSound, restMeans⟩ := rest middleResult middle after outcome ran middleSound
    refine ⟨afterSound, fun result success agrees => ?_⟩
    obtain ⟨middleAgrees, nextIs⟩ := restMeans result success agrees
    obtain ⟨beforeAgrees, valueIs⟩ := firstMeans middleResult rfl middleAgrees
    refine ⟨beforeAgrees, ?_⟩
    rw [valueIs]
    exact nextIs

theorem report (events : List Event) :
    Means loader answers expanding (Build.report events) (.ok ()) := by
  rintro before _ _ ⟨⟩ sound
  exact ⟨⟨sound.loaded, sound.expanding_eq⟩, fun _ same agrees => ⟨agrees, same⟩⟩

theorem look (next : List String → Build σ α) {value : Except BuildError α}
    (inner : Means loader answers expanding (next expanding) value) :
    Means loader answers expanding (get >>= fun progress => next progress.expanding) value := by
  intro before after outcome ran sound
  change (next before.expanding).run.run before = _ at ran
  rw [sound.expanding_eq] at ran
  exact inner before after outcome ran sound

/-- A document is only kept for a source that has none, so the documents kept before stay. -/
theorem loadTemplate (source : String) :
    Means loader answers expanding (Build.loadTemplate loader source)
      (answers.document source) := by
  intro before after outcome ran sound
  cases found : before.templates[source]? with
  | some tree =>
    rw [run_loadTemplate_kept loader found] at ran
    cases ran
    refine ⟨sound, fun result success agrees => ⟨agrees, ?_⟩⟩
    rw [Answers.document, agrees source tree found]
    exact success
  | none =>
    rw [run_loadTemplate_new loader found] at ran
    cases answered : (loader.load source before.loader).result with
    | error error =>
      rw [answered] at ran
      cases ran
      exact ⟨⟨sound.loaded, sound.expanding_eq⟩, fun _ success _ => by cases success⟩
    | ok tree =>
      rw [answered] at ran
      cases ran
      have kept : ∀ other, (before.templates.insert source tree)[other]? =
          if source = other then some tree else before.templates[other]? := by
        intro other
        simp [Std.TreeMap.getElem?_insert]
      refine ⟨⟨?_, sound.expanding_eq⟩, ?_⟩
      · intro other document found
        rw [kept] at found
        split at found
        · rename_i same
          cases found
          exact ⟨before.loader, same ▸ answered⟩
        · exact sound.loaded other document found
      · intro result success agrees
        cases success
        have known : ∀ other document, (before.templates.insert source tree)[other]? =
            some document → answers other = .ok document := agrees
        constructor
        · intro other document held
          apply known
          rw [kept, if_neg, held]
          rintro rfl
          cases found.symm.trans held
        · rw [Answers.document, known source tree (by rw [kept, if_pos rfl])]
          rfl

theorem within {source : String} {build : Build σ α} {value : Except BuildError α}
    (inner : Means loader answers (source :: expanding) build value) :
    Means loader answers expanding (Build.within source build) value := by
  intro before after outcome ran sound
  cases begun : build.run.run { before with expanding := source :: before.expanding } with
  | mk innerOutcome middle =>
  obtain ⟨done, means⟩ := inner _ middle innerOutcome begun
    ⟨sound.loaded, congrArg (source :: ·) sound.expanding_eq⟩
  rw [run_within, begun] at ran
  cases ran
  exact ⟨⟨done.loaded, congrArg List.tail done.expanding_eq⟩, means⟩

theorem rules (loader : Loader σ) (answers : Answers) :
    Build.Rules loader answers (Means loader answers) where
  pure _ := pure
  throw _ := throw
  bind := bind
  report _ events _ := report events
  look := look
  loadTemplate _ := loadTemplate
  within := within

theorem buildTree {builder : Builder σ} (tree : Tree) :
    Means builder.loader answers [] (builder.buildTree tree)
      ((builder.setting answers).forest tree) :=
  (rules builder.loader answers).buildTree rfl tree

end Build.Means

namespace Builder

variable {builder : Builder σ} {progress : Progress σ} {forest : List Blueprint}

/-- The state in which a scene is built, after its document was loaded. -/
def entered (builder : Builder σ) (name : String) (before : Progress σ) : Progress σ :=
  let after := Build.asked builder.loader name before
  { after with log := after.log ++ [Event.buildingScene name] }

theorem sound_entered (sound : progress.Sound builder.loader []) (name : String) :
    (builder.entered name progress).Sound builder.loader [] :=
  ⟨sound.loaded, sound.expanding_eq⟩

theorem run_buildScene (builder : Builder σ) (name : String) (before : Progress σ) :
    (builder.buildScene name).run.run before =
      match (builder.loader.load name before.loader).result with
      | .error error => (.error (.load error), Build.asked builder.loader name before)
      | .ok document =>
        match (document.get? "scene").bind Tree.fields? with
        | none => (.error (.missingScene name), Build.asked builder.loader name before)
        | some fields =>
          (builder.buildTree (.map fields)).run.run (builder.entered name before) := by
  have loaded := Build.run_load builder.loader name before
  unfold buildScene
  cases answered : (builder.loader.load name before.loader).result with
  | error error =>
    rw [answered] at loaded
    exact run_bind_error loaded
  | ok document =>
    rw [answered] at loaded
    rw [run_bind_ok loaded]
    dsimp only
    cases (document.get? "scene").bind Tree.fields? <;> rfl

theorem sound_buildTree (sound : progress.Sound builder.loader []) (tree : Tree) :
    ((builder.buildTree tree).run.run progress).2.Sound builder.loader [] := by
  have means : Build.Means builder.loader progress.answers [] (builder.buildTree tree) _ :=
    .buildTree tree
  exact (means progress _ _ rfl sound).1

theorem Reachable.sound (reached : builder.Reachable progress) :
    progress.Sound builder.loader [] := by
  induction reached with
  | start loader => exact ⟨by simp [Progress.start], rfl⟩
  | tree _ tree sound => exact sound_buildTree sound tree
  | scene _ name sound =>
    rw [run_buildScene]
    split
    · exact ⟨sound.loaded, sound.expanding_eq⟩
    · split
      · exact ⟨sound.loaded, sound.expanding_eq⟩
      · exact sound_buildTree (sound_entered sound name) _

/-- The documents that are kept in the end are the ones that the build used: what a loader of
changing answers gave in the course of a build that succeeds gives the tree the same meaning. -/
theorem meaning_of_kept (sound : progress.Sound builder.loader []) {tree : Tree}
    (built : ((builder.buildTree tree).run.run progress).1 = .ok forest) :
    let answers := ((builder.buildTree tree).run.run progress).2.answers
    builder.loader.Gives answers ∧ (builder.setting answers).forest tree = .ok forest := by
  let after := ((builder.buildTree tree).run.run progress).2
  have means : Build.Means builder.loader after.answers [] (builder.buildTree tree) _ :=
    .buildTree tree
  obtain ⟨afterSound, success⟩ := means progress after _ rfl sound
  exact ⟨afterSound.gives, (success forest built after.agrees_answers).2⟩

/-- The same for the map of a scene document. -/
theorem scene_meaning_of_kept (sound : progress.Sound builder.loader []) {name : String}
    (built : ((builder.buildScene name).run.run progress).1 = .ok forest) :
    let answers := ((builder.buildScene name).run.run progress).2.answers
    ∃ document fields, (builder.loader.load name progress.loader).result = .ok document ∧
      document.get? "scene" = some (.map fields) ∧ builder.loader.Gives answers ∧
      (builder.setting answers).forest (.map fields) = .ok forest := by
  rw [run_buildScene] at built ⊢
  cases answered : (builder.loader.load name progress.loader).result with
  | error error =>
    rw [answered] at built
    cases built
  | ok document =>
    rw [answered] at built
    dsimp only at built ⊢
    cases chosen : (document.get? "scene").bind Tree.fields? with
    | none =>
      rw [chosen] at built
      cases built
    | some fields =>
      rw [chosen] at built
      obtain ⟨scene, listed, shape⟩ := Option.bind_eq_some_iff.mp chosen
      cases scene with
      | map own =>
        cases shape
        exact ⟨document, fields, rfl, listed, meaning_of_kept (sound_entered sound name) built⟩
      | null => cases shape
      | scalar value => cases shape
      | sequence items => cases shape

end Builder
end SceneGraph
