import StoryWorld.Store.Basic

/-!
# Runs of operations

The changes of a store as data, so that a whole editing session is a list. `Store.step` carries out
one operation and gives a reply; after a refusal the store is the one before. `Store.run` carries
out one operation after another.
-/

set_option autoImplicit false

namespace StoryWorld

/-- A change that can be asked of a store. -/
inductive Operation where
  | addNode (type : NodeType) (position : Option Position)
  | addSublocation (parent : ElementId) (name : String)
  | addEdge (source target : ElementId) (kind : EdgeKind)
  | connect (source target : ElementId) (kind : EdgeKind)
  | requestEdge (source target : ElementId)
  | patchNode (id : ElementId) (patch : NodePatch)
  | patchEdge (id : ElementId) (patch : EdgePatch)
  | rename (id : ElementId) (name : String)
  | setBody (id : ElementId) (field : ContentField) (body : String)
  | delete (id : ElementId)
  | clear
  | load (world : Snapshot)
  | select (id : ElementId)
  | clearSelection
  deriving DecidableEq

/-- What a store answers to an operation. -/
inductive Reply where
  | done
  | added (id : ElementId)
  | removed (gone : Removal)
  | refused (why : Refusal)
  deriving DecidableEq

namespace Store

/-- The store and the reply after a change that may be refused. -/
def settle {α : Type} (store : Store) (outcome : Except Refusal α) (accept : α → Store × Reply) :
    Store × Reply :=
  match outcome with
  | .ok result => accept result
  | .error why => (store, .refused why)

/-- Carries out one operation. -/
def step (store : Store) : Operation → Store × Reply
  | .addNode type position =>
    store.settle (store.addNode type position) fun result => (result.1, .added result.2)
  | .addSublocation parent name =>
    store.settle (store.addSublocation parent name) fun result => (result.1, .added result.2)
  | .addEdge source target kind =>
    store.settle (store.addEdge source target kind) fun result => (result.1, .added result.2)
  | .connect source target kind =>
    store.settle (store.connect source target kind) fun result => (result.1, .added result.2)
  | .requestEdge source target =>
    store.settle (store.requestEdge source target) fun result => (result.1, .added result.2)
  | .patchNode id patch => store.settle (store.patchNode id patch) fun result => (result, .done)
  | .patchEdge id patch => store.settle (store.patchEdge id patch) fun result => (result, .done)
  | .rename id name => store.settle (store.rename id name) fun result => (result, .done)
  | .setBody id field body =>
    store.settle (store.setBody id field body) fun result => (result, .done)
  | .delete id => store.settle (store.delete id) fun result => (result.1, .removed result.2)
  | .clear => (store.clear, .done)
  | .load world => store.settle (store.load world) fun result => (result, .done)
  | .select id => store.settle (store.select id) fun result => (result, .done)
  | .clearSelection => (store.clearSelection, .done)

/-- Carries out operations one after another. -/
def run (store : Store) (operations : List Operation) : Store :=
  operations.foldl (fun store operation => (store.step operation).1) store

end Store

end StoryWorld
