import SceneGraph.Proofs.Scene.Requests

/-!
Calls of one builder one after the other, and the documents that they ask the loader for. One that
was loaded for a template is never asked for again, whatever becomes of the call; one that cannot be
loaded ends its call, and a later call may ask for it once more.
-/
namespace SceneGraph
open Build

variable {σ : Type}

namespace Builder

/-- What is seen of a call: the documents that it asked for, in order, what it reported, and what
came of it. -/
structure Record where
  call : Call
  requests : List Request
  reports : List Event
  outcome : Except BuildError (List Blueprint)

namespace Record

/-- The requests for documents of templates. Those for a scene come after that for its own. -/
def expansions (record : Record) : List Request :=
  match record.call with
  | .tree _ => record.requests
  | .scene _ => record.requests.tail

/-- The outcome is what the setting makes of the tree, or of the map in the scene's own document,
whatever the setting has for that. -/
inductive Means (setting : Setting) : Record → Prop
  | tree {tree : Tree} {requests : List Request} {reports : List Event}
      {outcome : Except BuildError (List Blueprint)} (built : setting.forest tree = outcome) :
      Means setting ⟨.tree tree, requests, reports, outcome⟩
  | unloaded {name : String} {error : LoadError} {reports : List Event} :
      Means setting ⟨.scene name, [(name, .error error)], reports, .error (.load error)⟩
  | unlisted {name : String} {document : Tree} {reports : List Event}
      (missing : (document.get? "scene").bind Tree.fields? = none) :
      Means setting ⟨.scene name, [(name, .ok document)], reports, .error (.missingScene name)⟩
  | scene {name : String} {document : Tree} {fields : OrderedMap Tree} {requests : List Request}
      {reports : List Event} {outcome : Except BuildError (List Blueprint)}
      (listed : (document.get? "scene").bind Tree.fields? = some fields)
      (built : setting.forest (.map fields) = outcome) :
      Means setting ⟨.scene name, (name, .ok document) :: requests, reports, outcome⟩

end Record

variable {builder : Builder σ} {before after : Progress σ} {record : Record}

def observe (builder : Builder σ) (before : Progress σ) (call : Call) : Record :=
  let watched := ((builder.watched.call call).run.run before.observed).2
  ⟨call, watched.loader.2.reverse, watched.log.toList, ((builder.call call).run.run before).1⟩

/-- The records of calls one after the other, whatever becomes of each. -/
def session (builder : Builder σ) : Progress σ → List Call → List Record
  | _, [] => []
  | before, call :: calls =>
      builder.observe before call ::
        builder.session ((builder.call call).run.run before).2 calls

/-- What a call asks for and what it keeps of that, and its outcome under what it keeps. -/
structure Observes (builder : Builder σ) (before after : Progress σ) (record : Record) : Prop where
  kept : ∀ source tree, after.templates[source]? = some tree ↔
    before.templates[source]? = some tree ∨ (source, .ok tree) ∈ record.expansions
  fresh : ∀ request ∈ record.expansions, before.templates[request.1]? = none
  nodup : (record.expansions.map Prod.fst).Nodup
  ends : Ends record.expansions record.outcome
  announced : Event.templates record.reports = record.expansions.map Prod.fst
  expanding_eq : after.expanding = before.expanding
  meaning : ∀ answers : Answers, after.Agrees answers → answers.Heeds record.expansions →
    record.Means (builder.setting answers)

theorem observes_of_asked {entered left : Progress (σ × List Request)} {requests : List Request}
    (templates_eq : entered.templates = before.templates)
    (expanding_eq : entered.expanding = before.expanding)
    (quiet : Event.templates entered.log.toList = []) (asked : entered.Asked left requests)
    (forgets : left.Forgets after) (expansions : record.expansions = requests)
    (reports : record.reports = left.log.toList) (ends : Ends requests record.outcome)
    (meaning : ∀ answers : Answers, left.Agrees answers → answers.Heeds requests →
      record.Means (builder.setting answers)) : builder.Observes before after record where
  kept source tree := by
    rw [expansions, ← forgets.templates_eq, asked.kept, templates_eq]
  fresh := by
    rw [expansions, ← templates_eq]
    exact asked.fresh
  nodup := expansions ▸ asked.nodup
  ends := expansions ▸ ends
  announced := by
    obtain ⟨events, log, names⟩ := asked.announced
    rw [expansions, reports, log, Array.toList_appendList, Event.templates_append, quiet, names]
    rfl
  expanding_eq := by rw [← forgets.expanding_eq, asked.expanding_eq, expanding_eq]
  meaning answers agrees heeds := by
    have same : left.Agrees answers := by
      intro source tree kept
      rw [forgets.templates_eq] at kept
      exact agrees source tree kept
    exact meaning answers same (expansions ▸ heeds)

/-- A tree that is built from a state under observation, in which other documents may have been
asked for. -/
theorem observes_of_built {entered left : Progress (σ × List Request)} {tree : Tree}
    {outcome : Except BuildError (List Blueprint)}
    (templates_eq : entered.templates = before.templates)
    (expanding_eq : entered.expanding = before.expanding) (idle : before.expanding = [])
    (quiet : Event.templates entered.log.toList = [])
    (built : (builder.watched.buildTree tree).run.run entered = (outcome, left))
    (forgets : left.Forgets after) :
    ∃ requests, left.loader.2.reverse = entered.loader.2.reverse ++ requests ∧
      ∀ record : Record, record.expansions = requests → record.reports = left.log.toList →
        record.outcome = outcome →
        (∀ answers, (builder.setting answers).forest tree = outcome →
          record.Means (builder.setting answers)) →
        builder.Observes before after record := by
  obtain ⟨requests, asked, ends, meaning⟩ := Asks.exists_requests
    (fun answers => Asks.buildTree builder answers tree) built (expanding_eq.trans idle)
  refine ⟨requests, ?_, fun record expansions reports same means => ?_⟩
  · rw [asked.history, List.reverse_append, List.reverse_reverse]
  · refine observes_of_asked templates_eq expanding_eq quiet asked forgets expansions reports
      (same ▸ ends) fun answers agrees heeds => ?_
    exact means answers (meaning answers agrees heeds)

theorem observes_tree (idle : before.expanding = []) (tree : Tree) :
    builder.Observes before ((builder.call (.tree tree)).run.run before).2
      (builder.observe before (.tree tree)) := by
  obtain ⟨same, forgets⟩ := builder.observed_call before (.tree tree)
  cases ran : (builder.watched.call (.tree tree)).run.run before.observed with
  | mk outcome left =>
  rw [ran] at same forgets
  obtain ⟨requests, history, observes⟩ := observes_of_built rfl rfl idle rfl ran forgets
  rw [observe, ran, history, ← same]
  exact observes _ rfl rfl rfl fun _ built => .tree built

theorem templates_opening (builder : Builder σ) (before : Progress σ) (name : String) :
    Event.templates (Build.asked builder.watched.loader name before.observed).log.toList = [] := by
  have none := builder.loader.templates_hushed name before.loader
  change Event.templates (#[] ++ _ : Array Event).toList = []
  rw [Array.toList_appendList]
  exact none

theorem templates_entered (builder : Builder σ) (before : Progress σ) (name : String) :
    Event.templates (builder.watched.entered name before.observed).log.toList = [] := by
  rw [entered, Array.toList_appendList, Event.templates_append, templates_opening]
  rfl

theorem observes_scene (idle : before.expanding = []) (name : String) :
    builder.Observes before ((builder.call (.scene name)).run.run before).2
      (builder.observe before (.scene name)) := by
  obtain ⟨same, forgets⟩ := builder.observed_call before (.scene name)
  have ran : (builder.watched.call (.scene name)).run.run before.observed = _ :=
    run_buildScene builder.watched name before.observed
  -- The scene's own document is asked for first, and that is not announced.
  have opening : (Build.asked builder.watched.loader name before.observed).loader.2 =
      [(name, (builder.watched.loader.load name before.observed.loader).result)] := rfl
  have quiet := builder.templates_opening before name
  rw [observe, ← same]
  cases answered : (builder.watched.loader.load name before.observed.loader).result with
  | error error =>
    rw [answered] at ran opening
    rw [ran] at forgets ⊢
    rw [opening]
    exact observes_of_asked rfl rfl quiet (.refl _) forgets rfl rfl
      (.loaded (List.forall_mem_nil _)) fun _ _ _ => .unloaded
  | ok document =>
    rw [answered] at ran opening
    dsimp only at ran
    cases listed : (document.get? "scene").bind Tree.fields? with
    | none =>
      rw [listed] at ran
      rw [ran] at forgets ⊢
      rw [opening]
      exact observes_of_asked rfl rfl quiet (.refl _) forgets rfl rfl
        (.loaded (List.forall_mem_nil _)) fun _ _ _ => .unlisted listed
    | some fields =>
      cases built : (builder.watched.buildTree (.map fields)).run.run
        (builder.watched.entered name before.observed) with
      | mk outcome left =>
      rw [listed] at ran
      dsimp only at ran
      rw [built] at ran
      rw [ran] at forgets ⊢
      obtain ⟨requests, history, observes⟩ :=
        observes_of_built rfl rfl idle (builder.templates_entered before name) built forgets
      have opened : left.loader.2.reverse = (name, .ok document) :: requests :=
        history.trans (congrArg (fun opened => List.reverse opened ++ requests) opening)
      rw [opened]
      exact observes _ rfl rfl rfl fun _ built => .scene listed built

theorem observes_call (builder : Builder σ) (idle : before.expanding = []) (call : Call) :
    builder.Observes before ((builder.call call).run.run before).2
      (builder.observe before call) := by
  cases call with
  | tree tree => exact observes_tree idle tree
  | scene name => exact observes_scene idle name

end Builder

def Request.loaded (requests : List Request) : List Request :=
  requests.filter fun request => request.2.isOk

theorem Request.mem_loaded {requests : List Request} {request : Request} :
    request ∈ loaded requests ↔ request ∈ requests ∧ ∃ document, request.2 = .ok document := by
  rw [loaded, List.mem_filter]
  obtain ⟨source, answer⟩ := request
  cases answer <;> simp [Except.isOk, Except.toBool]

/-- Requests for different sources can all be heeded. -/
theorem Answers.exists_heeds {requests : List Request} (nodup : (requests.map Prod.fst).Nodup) :
    ∃ answers : Answers, answers.Heeds requests := by
  induction requests with
  | nil => exact ⟨fun source => .error (.notFound source), List.forall_mem_nil _⟩
  | cons request rest ih =>
    rw [List.map_cons, List.nodup_cons] at nodup
    obtain ⟨answers, heeds⟩ := ih nodup.2
    refine ⟨Function.update answers request.1 request.2, List.forall_mem_cons.mpr ⟨?_, ?_⟩⟩
    · exact Function.update_self ..
    · intro other member
      have apart : other.1 ≠ request.1 := fun same =>
        nodup.1 (same ▸ List.mem_map_of_mem member)
      rw [Function.update_of_ne apart]
      exact heeds other member

namespace Builder
open Request

variable {builder : Builder σ} {before after : Progress σ} {record : Record}
  {earlier : List Request} {records : List Record}

/-- The documents that were loaded on these requests are kept, and no others. -/
structure Remembers (progress : Progress σ) (requests : List Request) : Prop where
  kept : ∀ source tree, progress.templates[source]? = some tree ↔ (source, .ok tree) ∈ requests
  nodup : ((loaded requests).map Prod.fst).Nodup
  idle : progress.expanding = []

/-- A call behind these requests asks for no document of a template that was loaded on one of them,
and for none twice; it reports the requests one by one, ends with the first that fails, and has the
outcome that the documents loaded so far give. -/
structure LoadsOnce (builder : Builder σ) (earlier : List Request) (record : Record) : Prop where
  fresh : ∀ request ∈ record.expansions, ∀ document, (request.1, .ok document) ∉ earlier
  nodup : (record.expansions.map Prod.fst).Nodup
  announced : Event.templates record.reports = record.expansions.map Prod.fst
  ends : Ends record.expansions record.outcome
  consistent : ∃ answers : Answers, answers.Heeds (loaded earlier ++ record.expansions)
  meaning : ∀ answers : Answers, answers.Heeds (loaded earlier ++ record.expansions) →
    record.Means (builder.setting answers)

/-- Each call is behind the requests of those before it. -/
inductive EachLoadsOnce (builder : Builder σ) : List Request → List Record → Prop
  | nil (earlier : List Request) : EachLoadsOnce builder earlier []
  | cons {earlier : List Request} {record : Record} {records : List Record}
      (first : builder.LoadsOnce earlier record)
      (rest : EachLoadsOnce builder (earlier ++ record.expansions) records) :
      EachLoadsOnce builder earlier (record :: records)

theorem Observes.fresh_remembered (observes : builder.Observes before after record)
    (remembers : Remembers before earlier) :
    ∀ request ∈ record.expansions, ∀ document, (request.1, .ok document) ∉ earlier := by
  intro request member document asked
  have kept := (remembers.kept request.1 document).mpr asked
  cases (observes.fresh request member).symm.trans kept

theorem Observes.nodup_remembered (observes : builder.Observes before after record)
    (remembers : Remembers before earlier) :
    ((loaded earlier ++ record.expansions).map Prod.fst).Nodup := by
  rw [List.map_append, List.nodup_append]
  refine ⟨remembers.nodup, observes.nodup, ?_⟩
  rintro _ member _ later rfl
  obtain ⟨⟨source, answer⟩, listed, rfl⟩ := List.mem_map.mp member
  obtain ⟨request, asked, same⟩ := List.mem_map.mp later
  obtain ⟨known, document, rfl⟩ := mem_loaded.mp listed
  have apart := observes.fresh_remembered remembers request asked document
  rw [same] at apart
  exact apart known

theorem Observes.loadsOnce (observes : builder.Observes before after record)
    (remembers : Remembers before earlier) : builder.LoadsOnce earlier record where
  fresh := observes.fresh_remembered remembers
  nodup := observes.nodup
  announced := observes.announced
  ends := observes.ends
  consistent := Answers.exists_heeds (observes.nodup_remembered remembers)
  meaning answers heeds := by
    obtain ⟨known, asked⟩ := List.forall_mem_append.mp heeds
    refine observes.meaning answers (fun source tree kept => ?_) asked
    rw [observes.kept, remembers.kept] at kept
    rcases kept with earlier | own
    · exact known _ (mem_loaded.mpr ⟨earlier, tree, rfl⟩)
    · exact asked _ own

theorem Observes.remembers (observes : builder.Observes before after record)
    (remembers : Remembers before earlier) : Remembers after (earlier ++ record.expansions) where
  kept source tree := by rw [observes.kept, remembers.kept, List.mem_append]
  nodup := by
    have within : (loaded (earlier ++ record.expansions)).Sublist
        (loaded earlier ++ record.expansions) := by
      rw [loaded, List.filter_append]
      exact (List.Sublist.refl _).append List.filter_sublist
    exact (observes.nodup_remembered remembers).sublist (within.map _)
  idle := observes.expanding_eq.trans remembers.idle

theorem eachLoadsOnce_session (builder : Builder σ) (remembers : Remembers before earlier)
    (calls : List Call) :
    builder.EachLoadsOnce earlier (builder.session before calls) := by
  induction calls generalizing before earlier with
  | nil => exact .nil earlier
  | cons call calls ih =>
    have observes := observes_call builder remembers.idle call
    exact .cons (observes.loadsOnce remembers) (ih (observes.remembers remembers))

theorem EachLoadsOnce.fresh (each : builder.EachLoadsOnce earlier records) :
    ∀ request ∈ records.flatMap Record.expansions, ∀ document,
      (request.1, .ok document) ∉ earlier := by
  induction each with
  | nil => exact List.forall_mem_nil _
  | cons first rest ih =>
    rw [List.flatMap_cons, List.forall_mem_append]
    refine ⟨first.fresh, fun request member document known => ?_⟩
    exact ih request member document (List.mem_append_left _ known)

theorem EachLoadsOnce.pairwise (each : builder.EachLoadsOnce earlier records) :
    (records.flatMap Record.expansions).Pairwise fun first later =>
      ∀ document, first.2 = .ok document → later.1 ≠ first.1 := by
  induction each with
  | nil => exact .nil
  | cons first rest ih =>
    rw [List.flatMap_cons, List.pairwise_append]
    refine ⟨?_, ih, ?_⟩
    · have apart := List.pairwise_map.mp first.nodup
      exact apart.imp fun different _ _ same => different same.symm
    · rintro ⟨source, _⟩ asked request later document rfl same
      refine rest.fresh request later document (List.mem_append_right _ ?_)
      rw [same]
      exact asked

theorem remembers_start (state : σ) : Remembers (.start state) [] where
  kept source tree := by simp [Progress.start]
  nodup := List.nodup_nil
  idle := rfl

/-- Whatever the loader answers from one request to the next, and whatever becomes of the calls, a
source whose document was loaded for a template is not asked for again, only a load that failed is
tried again by a later call, and every call builds from the documents that were loaded. -/
theorem templates_loaded_once (builder : Builder σ) (state : σ) (calls : List Call) :
    let records := builder.session (.start state) calls
    ((records.flatMap Record.expansions).Pairwise fun first later =>
      ∀ document, first.2 = .ok document → later.1 ≠ first.1) ∧
    builder.EachLoadsOnce [] records := by
  have each := eachLoadsOnce_session builder (remembers_start state) calls
  exact ⟨each.pairwise, each⟩

end Builder

namespace Sample

/-- A loader that refuses the first request and then gives the documents of the library. -/
def hesitant : Loader Nat where
  load name count :=
    let answer := if count = 0 then .error (.notFound name) else Answers.ofDocuments library name
    ⟨answer, count + 1, []⟩

end Sample

example :
    let builder : Builder Nat := ⟨.defaults, Sample.hesitant, 64⟩
    let lamps : Builder.Call := .tree Sample.lamps
    (builder.session (.start 0) [lamps, lamps, lamps]).map
      (fun record => record.expansions.map Prod.fst) = [["lamp"], ["lamp"], []] := rfl

end SceneGraph
