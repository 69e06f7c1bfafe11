import SceneGraph.Proofs.Scene.Recording
import SceneGraph.Proofs.Scene.Success

/-!
The documents of templates that a build asks for. It asks for those that are not kept, for each of
them once, and keeps what it is given; the first one that cannot be loaded ends the build. What it
builds is built from the documents that are kept in the end.
-/
namespace SceneGraph
open Build Setting

variable {σ α β : Type}

/-- The sources stand for what was answered to the requests. -/
def Answers.Heeds (answers : Answers) (requests : List Request) : Prop :=
  ∀ request ∈ requests, answers request.1 = request.2

/-- All documents were loaded, or all but the last, whose fault is the outcome. -/
inductive Build.Ends : List Request → Except BuildError α → Prop
  | loaded {requests : List Request} {outcome : Except BuildError α}
      (all : ∀ request ∈ requests, ∃ document, request.2 = .ok document) : Ends requests outcome
  | failed {requests : List Request} {source : String} {error : LoadError}
      (all : ∀ request ∈ requests, ∃ document, request.2 = .ok document) :
      Ends (requests ++ [(source, .error error)]) (.error (.load error))

namespace Build.Ends

variable {requests later : List Request}

theorem all_loaded {value : α} (ends : Ends requests (.ok value)) :
    ∀ request ∈ requests, ∃ document, request.2 = .ok document := by
  cases ends with
  | loaded all => exact all

theorem of_error {error : BuildError} (ends : Ends (α := α) requests (.error error)) :
    Ends (α := β) requests (.error error) := by
  cases ends with
  | loaded all => exact .loaded all
  | failed all => exact .failed all

theorem behind {outcome : Except BuildError α} (ends : Ends later outcome)
    (all : ∀ request ∈ requests, ∃ document, request.2 = .ok document) :
    Ends (requests ++ later) outcome := by
  cases ends with
  | loaded others => exact .loaded (List.forall_mem_append.mpr ⟨all, others⟩)
  | failed others =>
    rw [← List.append_assoc]
    exact .failed (List.forall_mem_append.mpr ⟨all, others⟩)

end Build.Ends

namespace Progress

variable {before middle after : Progress (σ × List Request)} {requests later : List Request}

/-- Between the states the documents of templates were asked for in this order, as reported. None
of them was kept before, none was asked for twice, and those that were loaded are kept. -/
structure Asked (before after : Progress (σ × List Request)) (requests : List Request) :
    Prop where
  history : after.loader.2 = requests.reverse ++ before.loader.2
  announced : ∃ events : List Event, after.log = before.log ++ events ∧
    Event.templates events = requests.map Prod.fst
  kept : ∀ source tree, after.templates[source]? = some tree ↔
    before.templates[source]? = some tree ∨ (source, .ok tree) ∈ requests
  fresh : ∀ request ∈ requests, before.templates[request.1]? = none
  nodup : (requests.map Prod.fst).Nodup
  expanding_eq : after.expanding = before.expanding

namespace Asked

theorem reported (before : Progress (σ × List Request)) {events : List Event}
    (plain : Event.templates events = []) :
    before.Asked { before with log := before.log ++ events } [] where
  history := rfl
  announced := ⟨events, rfl, plain⟩
  kept source tree := by simp
  fresh := List.forall_mem_nil _
  nodup := List.nodup_nil
  expanding_eq := rfl

theorem refl (before : Progress (σ × List Request)) : before.Asked before [] := by
  have same : before.Asked { before with log := before.log ++ ([] : List Event) } [] :=
    reported before rfl
  rw [show before.log ++ ([] : List Event) = before.log by simp] at same
  exact same

theorem mono (asked : before.Asked after requests) {answers : Answers}
    (agrees : after.Agrees answers) : before.Agrees answers :=
  fun source tree kept => agrees source tree ((asked.kept source tree).mpr (.inl kept))

theorem trans (first : before.Asked middle requests)
    (loaded : ∀ request ∈ requests, ∃ document, request.2 = .ok document)
    (second : middle.Asked after later) : before.Asked after (requests ++ later) where
  history := by rw [second.history, first.history, List.reverse_append, List.append_assoc]
  announced := by
    obtain ⟨events, log, names⟩ := first.announced
    obtain ⟨others, logAfter, otherNames⟩ := second.announced
    refine ⟨events ++ others, ?_, ?_⟩
    · rw [logAfter, log, log_append]
    · rw [Event.templates_append, names, otherNames, List.map_append]
  kept source tree := by rw [second.kept, first.kept, List.mem_append, or_assoc]
  fresh := by
    refine List.forall_mem_append.mpr ⟨first.fresh, fun request member => ?_⟩
    have missing := second.fresh request member
    rw [Option.eq_none_iff_forall_ne_some] at missing ⊢
    exact fun tree kept => missing tree ((first.kept request.1 tree).mpr (.inl kept))
  nodup := by
    rw [List.map_append, List.nodup_append]
    refine ⟨first.nodup, second.nodup, ?_⟩
    -- What was loaded first is kept, so it is not asked for later.
    rintro _ member _ laterMember rfl
    obtain ⟨⟨source, answer⟩, asked, rfl⟩ := List.mem_map.mp member
    obtain ⟨request, askedLater, same⟩ := List.mem_map.mp laterMember
    obtain ⟨document, rfl⟩ := loaded _ asked
    have kept := (first.kept source document).mpr (.inr asked)
    have missing := second.fresh request askedLater
    rw [same] at missing
    cases missing.symm.trans kept
  expanding_eq := second.expanding_eq.trans first.expanding_eq

theorem unique (asked : before.Asked after requests) (again : before.Asked after later) :
    requests = later := by
  have same := asked.history.symm.trans again.history
  exact List.reverse_injective (List.append_cancel_right same)

end Asked
end Progress

/-- The build asks for documents in good order, and its outcome is the value under all answers that
agree with the documents kept then and heed the requests. -/
def Build.Asks (answers : Answers) (expanding : List String) (build : Build (σ × List Request) α)
    (value : Except BuildError α) : Prop :=
  ∀ before after outcome, build.run.run before = (outcome, after) → before.expanding = expanding →
    ∃ requests, before.Asked after requests ∧ Ends requests outcome ∧
      (after.Agrees answers → answers.Heeds requests → value = outcome)

namespace Build.Asks

variable {answers : Answers} {expanding : List String}

theorem pure (value : α) : Asks (σ := σ) answers expanding (Pure.pure value) (.ok value) := by
  rintro before _ _ ⟨⟩ _
  exact ⟨[], .refl before, .loaded (List.forall_mem_nil _), fun _ _ => rfl⟩

theorem throw (error : BuildError) :
    Asks (σ := σ) (α := α) answers expanding (MonadExcept.throw error) (.error error) := by
  rintro before _ _ ⟨⟩ _
  exact ⟨[], .refl before, .loaded (List.forall_mem_nil _), fun _ _ => rfl⟩

theorem bind {build : Build (σ × List Request) α} {next : α → Build (σ × List Request) β}
    {value : Except BuildError α} {nextValue : α → Except BuildError β}
    (first : Asks answers expanding build value)
    (rest : ∀ result, Asks answers expanding (next result) (nextValue result)) :
    Asks answers expanding (build >>= next) (value >>= nextValue) := by
  intro before after outcome ran idle
  cases begun : build.run.run before with
  | mk middleOutcome middle =>
  obtain ⟨requests, asked, ends, valueIs⟩ := first before middle middleOutcome begun idle
  cases middleOutcome with
  | error error =>
    rw [run_bind_error begun] at ran
    cases ran
    refine ⟨requests, asked, ends.of_error, fun agrees heeds => ?_⟩
    rw [valueIs agrees heeds]
    rfl
  | ok result =>
    rw [run_bind_ok begun] at ran
    obtain ⟨later, askedLater, endsLater, nextIs⟩ :=
      rest result middle after outcome ran (asked.expanding_eq.trans idle)
    refine ⟨requests ++ later, asked.trans ends.all_loaded askedLater,
      endsLater.behind ends.all_loaded, fun agrees heeds => ?_⟩
    obtain ⟨heedsFirst, heedsLater⟩ := List.forall_mem_append.mp heeds
    rw [valueIs (askedLater.mono agrees) heedsFirst]
    exact nextIs agrees heedsLater

theorem report {events : List Event} (plain : Event.templates events = []) :
    Asks (σ := σ) answers expanding (Build.report events) (.ok ()) := by
  rintro before _ _ ⟨⟩ _
  exact ⟨[], .reported before plain, .loaded (List.forall_mem_nil _), fun _ _ => rfl⟩

theorem look (next : List String → Build (σ × List Request) α) {value : Except BuildError α}
    (inner : Asks answers expanding (next expanding) value) :
    Asks answers expanding (get >>= fun progress => next progress.expanding) value := by
  intro before after outcome ran idle
  rw [run_bind_ok (run_get before), idle] at ran
  exact inner before after outcome ran idle

theorem within {source : String} {build : Build (σ × List Request) α}
    {value : Except BuildError α} (inner : Asks answers (source :: expanding) build value) :
    Asks answers expanding (Build.within source build) value := by
  intro before after outcome ran idle
  cases begun : build.run.run { before with expanding := source :: before.expanding } with
  | mk innerOutcome middle =>
  obtain ⟨requests, asked, ends, valueIs⟩ :=
    inner _ middle innerOutcome begun (congrArg (source :: ·) idle)
  rw [run_within, begun] at ran
  cases ran
  exact ⟨requests, ⟨asked.history, asked.announced, asked.kept, asked.fresh, asked.nodup,
    congrArg List.tail asked.expanding_eq⟩, ends, valueIs⟩

variable {loader : Loader σ} {source : String} {before : Progress (σ × List Request)}

theorem log_requested (loader : Loader σ) (source : String)
    (before : Progress (σ × List Request)) :
    ∃ events : List Event,
      (requested loader.hushed.recorded source before).log = before.log ++ events ∧
        Event.templates events = [source] := by
  refine ⟨_, log_append _ _ _, ?_⟩
  have none := loader.templates_hushed source before.loader.1
  rw [Event.templates_append]
  exact congrArg ([source] ++ ·) none

theorem asked_failed (new : before.templates[source]? = none) {error : LoadError}
    (failed : (loader.hushed.recorded.load source before.loader).result = .error error) :
    before.Asked (requested loader.hushed.recorded source before) [(source, .error error)] where
  history := by
    rw [← failed]
    rfl
  announced := log_requested loader source before
  kept other tree := by simp [requested, asked]
  fresh := List.forall_mem_singleton.mpr new
  nodup := List.nodup_singleton source
  expanding_eq := rfl

theorem asked_loaded (new : before.templates[source]? = none) {tree : Tree}
    (loaded : (loader.hushed.recorded.load source before.loader).result = .ok tree) :
    before.Asked
      { requested loader.hushed.recorded source before with
        templates := before.templates.insert source tree } [(source, .ok tree)] where
  history := by
    rw [← loaded]
    rfl
  announced := log_requested loader source before
  kept other document := by
    simp only [Std.TreeMap.getElem?_insert, List.mem_singleton, Prod.mk.injEq,
      Std.compare_eq_iff_eq]
    by_cases same : source = other
    · subst same
      simp [new, eq_comm]
    · simp [same, Ne.symm same]
  fresh := List.forall_mem_singleton.mpr new
  nodup := List.nodup_singleton source
  expanding_eq := rfl

theorem loadTemplate (loader : Loader σ) (source : String) :
    Asks answers expanding (Build.loadTemplate loader.hushed.recorded source)
      (answers.document source) := by
  intro before after outcome ran _
  cases found : before.templates[source]? with
  | some tree =>
    rw [run_loadTemplate_kept _ found] at ran
    cases ran
    refine ⟨[], .refl before, .loaded (List.forall_mem_nil _), fun agrees _ => ?_⟩
    rw [Answers.document, agrees source tree found]
    rfl
  | none =>
    rw [run_loadTemplate_new _ found] at ran
    cases answered : (loader.hushed.recorded.load source before.loader).result with
    | error error =>
      rw [answered] at ran
      cases ran
      refine ⟨_, asked_failed found answered, .failed (List.forall_mem_nil _), fun _ heeds => ?_⟩
      have given : answers source = .error error := heeds _ List.mem_cons_self
      rw [Answers.document, given]
      rfl
    | ok tree =>
      rw [answered] at ran
      cases ran
      refine ⟨_, asked_loaded found answered, .loaded ?_, fun _ heeds => ?_⟩
      · exact List.forall_mem_singleton.mpr ⟨tree, rfl⟩
      · have given : answers source = .ok tree := heeds _ List.mem_cons_self
        rw [Answers.document, given]
        rfl

theorem rules (loader : Loader σ) (answers : Answers) :
    Build.Rules loader.hushed.recorded answers (Asks answers) where
  pure _ := pure
  throw _ := throw
  bind := bind
  report _ _ := report
  look := look
  loadTemplate _ := loadTemplate loader
  within := within

theorem buildTree (builder : Builder σ) (answers : Answers) (tree : Tree) :
    Asks answers [] (builder.watched.buildTree tree) ((builder.setting answers).forest tree) := by
  have rules : Build.Rules builder.watched.loader answers _ := rules builder.loader answers
  exact rules.buildTree rfl tree

/-- The requests do not depend on what the sources stand for. -/
theorem exists_requests {build : Build (σ × List Request) α} {value : Answers → Except BuildError α}
    (asks : ∀ answers, Asks answers expanding build (value answers))
    {before after : Progress (σ × List Request)} {outcome : Except BuildError α}
    (ran : build.run.run before = (outcome, after)) (idle : before.expanding = expanding) :
    ∃ requests, before.Asked after requests ∧ Ends requests outcome ∧
      ∀ answers : Answers, after.Agrees answers → answers.Heeds requests →
        value answers = outcome := by
  obtain ⟨requests, asked, ends, _⟩ := asks after.answers before after outcome ran idle
  refine ⟨requests, asked, ends, fun answers agrees heeds => ?_⟩
  obtain ⟨same, again, _, valueIs⟩ := asks answers before after outcome ran idle
  obtain rfl := asked.unique again
  exact valueIs agrees heeds

end Build.Asks

end SceneGraph
