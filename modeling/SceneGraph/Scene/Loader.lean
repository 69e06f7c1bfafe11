import SceneGraph.Scene.Event

/-!
Loaders: where documents come from. A loader answers a name with a tree or the reason why there is
none; it has a state of its own, so its answer to a name may change from one request to the next.
-/
namespace SceneGraph

structure Reading (σ : Type) where
  result : Except LoadError Tree
  state : σ
  events : List Event

structure Loader (σ : Type) where
  load : String → σ → Reading σ

namespace Loader

def pure (answer : String → Except LoadError Tree) : Loader Unit where
  load name _ := ⟨answer name, (), []⟩

def ofDocuments (documents : OrderedMap Tree) : Loader Unit :=
  .pure fun name =>
    match documents.get? name with
    | some tree => .ok tree
    | none => .error (.notFound name)

/-- A loader that knows some answers and keeps the first name that it has none for. -/
def ofAnswers (answers : List (String × Except LoadError Tree)) : Loader (Option String) where
  load name missing :=
    match answers.lookup name with
    | some answer => ⟨answer, missing, []⟩
    | none => ⟨.error (.notFound name), missing <|> some name, []⟩

/-- A loader that also keeps every request and its outcome, last first. -/
def recorded {σ : Type} (loader : Loader σ) :
    Loader (σ × List (String × Except LoadError Tree)) where
  load name state :=
    let reading := loader.load name state.1
    ⟨reading.result, (reading.state, (name, reading.result) :: state.2), reading.events⟩

end Loader
end SceneGraph
