import StoryWorld.Proofs.Lore.Exported
import StoryWorld.Proofs.Store.Consistency

/-!
# Edges that are asked about and requested

A store tells which kind of edge a request would make between two nodes, before the request is made.
The answer foretells the request (`Store.Foretells`) when both agree: an edge of the told kind comes
of it, or a refusal, or both meet the same unknown identity.

The answer looks at the kinds of the nodes and not at the events. So it is right as long as it is
not about an event that happens anywhere and a location, where it promises a spawn edge that the
request refuses; `foretells_iff` says both. What a question and a request come to is found case by
case in `Sound.requested`.
-/

set_option autoImplicit false

namespace StoryWorld

/-- Only events happen anywhere. -/
theorem Node.type_of_isGlobalEvent {node : Node} (anywhere : node.isGlobalEvent = true) :
    node.type = .event := by
  rw [isGlobalEvent] at anywhere
  rw [type]
  split at anywhere
  · rename_i kind
    rw [kind]
    rfl
  · cases anywhere

namespace Store

variable {store after : Store} {source target id : ElementId}

theorem requireNode_eq_error (unknown : store.nodes.get? id = none) :
    store.requireNode id = .error (.unknownElement id) := by
  rw [requireNode, unknown]

theorem type_newEdgeKind (settings : GraphSettings) (type : EdgeType) :
    (newEdgeKind settings type).type = type := by
  cases type <;> rfl

/-- An edge of a kind from one node to another is new in the store, under the identity. -/
def HasNewEdge (store after : Store) (id source target : ElementId) (type : EdgeType) : Prop :=
  ∃ edge : Edge, edge.id = id ∧ edge.source = source ∧ edge.target = target ∧ edge.type = type ∧
    after.edges.entries = store.edges.entries ++ [(id, edge)]

/-- What the store tells about an edge between two nodes is what a request of that edge comes to. -/
structure Foretells (store : Store) (source target : ElementId) : Prop where
  /-- A kind is told just if the request succeeds. -/
  made : (∃ type, store.edgeTypeBetween source target = .ok (some type)) ↔
    ∃ after id, store.requestEdge source target = .ok (after, id)
  /-- The edge that comes of it is new, joins the two nodes and is of the kind that was told. -/
  own : ∀ type after id, store.edgeTypeBetween source target = .ok (some type) →
    store.requestEdge source target = .ok (after, id) →
      store.HasNewEdge after id source target type
  /-- No kind is told just if the request is refused for another reason than a node that is
  missing. -/
  refused : store.edgeTypeBetween source target = .ok none ↔
    ∃ why, store.requestEdge source target = .error why ∧ ∀ id, why ≠ .unknownElement id
  /-- A node that is missing is named by both. -/
  unknown : ∀ id, store.edgeTypeBetween source target = .error (.unknownElement id) ↔
    store.requestEdge source target = .error (.unknownElement id)

/-- The edge would make an event that happens anywhere appear at a location. -/
def SpawnsAnywhere (store : Store) (source target : ElementId) : Prop :=
  ∃ event place, store.nodes.get? source = some event ∧ store.nodes.get? target = some place ∧
    event.isGlobalEvent = true ∧ place.type = .location

/-! ## What a question and a request come to -/

/-- What the store tells about an edge between two nodes, and what a request of it comes to. -/
inductive Requested (store : Store) (source target : ElementId) : Prop where
  /-- One of the nodes is missing. -/
  | unknown (id : ElementId)
      (told : store.edgeTypeBetween source target = .error (.unknownElement id))
      (request : store.requestEdge source target = .error (.unknownElement id))
  /-- The nodes cannot be joined. -/
  | apart (why : Refusal) (told : store.edgeTypeBetween source target = .ok none)
      (request : store.requestEdge source target = .error why)
      (known : ∀ id, why ≠ .unknownElement id)
  /-- An event that happens anywhere would appear at a location. -/
  | anywhere (asks : store.SpawnsAnywhere source target)
  /-- The nodes are joined. -/
  | joined (type : EdgeType) (after : Store) (id : ElementId)
      (told : store.edgeTypeBetween source target = .ok (some type))
      (request : store.requestEdge source target = .ok (after, id))
      (added : store.HasNewEdge after id source target type)

section Found

variable {sourceNode targetNode : Node} (sourceFound : store.nodes.get? source = some sourceNode)
  (targetFound : store.nodes.get? target = some targetNode)

include sourceFound targetFound

theorem edgeTypeBetween_eq :
    store.edgeTypeBetween source target =
      .ok (if source = target then none else connectionType sourceNode.type targetNode.type) := by
  rw [edgeTypeBetween, requireNode_eq_ok_iff.2 sourceFound, requireNode_eq_ok_iff.2 targetFound]
  rfl

theorem connect_eq (kind : EdgeKind) :
    store.connect source target kind =
      (validateConnection sourceNode targetNode kind.type >>= fun _ =>
        store.addEdge source target kind) := by
  rw [connect, requireNode_eq_ok_iff.2 sourceFound, requireNode_eq_ok_iff.2 targetFound]
  rfl

/-- A request goes through the table of connections. -/
theorem requestEdge_eq_elim :
    store.requestEdge source target =
      (connectionType sourceNode.type targetNode.type).elim
        (.error (.unconnectable sourceNode.type targetNode.type)) fun type =>
          store.connect source target (newEdgeKind store.settings type) := by
  rw [requestEdge, requireNode_eq_ok_iff.2 sourceFound, requireNode_eq_ok_iff.2 targetFound]
  dsimp only [bind, Except.bind]
  cases connectionType sourceNode.type targetNode.type <;> rfl

theorem requestEdge_eq {type : EdgeType}
    (joined : connectionType sourceNode.type targetNode.type = some type) :
    store.requestEdge source target =
      (validateConnection sourceNode targetNode type >>= fun _ =>
        store.addEdge source target (newEdgeKind store.settings type)) := by
  rw [requestEdge_eq_elim sourceFound targetFound, joined, Option.elim_some,
    connect_eq sourceFound targetFound, type_newEdgeKind]

/-- An edge can be added as long as the numbering gives out identities. -/
theorem Sound.addEdge (sound : store.Sound) (left : store.numbering.nextEdge ≠ none)
    (kind : EdgeKind) :
    ∃ after id, store.addEdge source target kind = .ok (after, id) ∧
      store.HasNewEdge after id source target kind.type := by
  obtain ⟨ordinal, next⟩ := Option.ne_none_iff_exists'.1 left
  obtain ⟨id, numbering, allocated⟩ :
      ∃ id numbering, store.numbering.allocate .edge = .ok (id, numbering) :=
    ⟨_, _, Numbering.allocate_of_next next⟩
  have added : store.addEdge source target kind = .ok
      ({ store with
          edges := store.edges.insert id ⟨id, source, target, kind⟩
          numbering := numbering }, id) := by
    rw [Store.addEdge, requireNode_eq_ok_iff.2 sourceFound, requireNode_eq_ok_iff.2 targetFound,
      allocated]
    rfl
  have fresh : id ∉ store.edges.keys := fun bound => sound.not_holds allocated (Or.inr bound)
  exact ⟨_, id, added, _, rfl, rfl, rfl, rfl, Table.entries_insert_of_not_mem fresh⟩

end Found

/-- Wherever no event happens anywhere, the answer foretells the request. -/
theorem Requested.foretells (requested : store.Requested source target)
    (bound : ¬ store.SpawnsAnywhere source target) : store.Foretells source target := by
  cases requested with
  | unknown missing told request =>
    constructor <;> simp [told, request]
  | apart why told request known =>
    constructor <;> simp [told, request, known]
  | anywhere asks => exact absurd asks bound
  | joined type after id told request added =>
    constructor <;> simp [told, request, added]

/-- A spawn edge of an event that happens anywhere is promised, and refused. -/
theorem Consistent.spawnsAnywhere (consistent : store.Consistent)
    (asks : store.SpawnsAnywhere source target) :
    store.edgeTypeBetween source target = .ok (some .spawn) ∧
      store.requestEdge source target = .error (.globalEventSpawn source) := by
  obtain ⟨event, place, eventFound, placeFound, anywhere, isPlace⟩ := asks
  have isEvent := Node.type_of_isGlobalEvent anywhere
  have joins : connectionType event.type place.type = some .spawn :=
    connectionType_eq_spawn_iff.2 ⟨Or.inr isEvent, isPlace⟩
  have differ : source ≠ target := by
    rintro rfl
    rw [eventFound] at placeFound
    cases placeFound
    rw [isEvent] at isPlace
    cases isPlace
  constructor
  · rw [edgeTypeBetween_eq eventFound placeFound, if_neg differ, joins]
  · rw [requestEdge_eq eventFound placeFound joins, validateConnection,
      consistent.node_id source event eventFound, consistent.node_id target place placeFound,
      if_neg differ, if_neg (not_not_intro joins), if_pos ⟨rfl, anywhere⟩]
    rfl

/-- What a question about two stored nodes and the request come to in a sound store that has
identities left for edges. -/
theorem Sound.requested_of_found (sound : store.Sound) (left : store.numbering.nextEdge ≠ none)
    {sourceNode targetNode : Node} (sourceFound : store.nodes.get? source = some sourceNode)
    (targetFound : store.nodes.get? target = some targetNode) : store.Requested source target := by
  have told := edgeTypeBetween_eq sourceFound targetFound
  cases joins : connectionType sourceNode.type targetNode.type with
  | none =>
    have request := requestEdge_eq_elim sourceFound targetFound
    rw [joins] at told request
    rw [ite_self] at told
    exact .apart _ told request fun _ => Refusal.noConfusion
  | some type =>
    have request := requestEdge_eq sourceFound targetFound joins
    have sourceOwn := sound.consistent.node_id source sourceNode sourceFound
    have targetOwn := sound.consistent.node_id target targetNode targetFound
    by_cases same : source = target
    · -- The table would join a location or a character with itself; both know better.
      rw [if_pos same] at told
      rw [validateConnection, sourceOwn, targetOwn, if_pos same] at request
      exact .apart _ told request fun _ => Refusal.noConfusion
    rw [if_neg same, joins] at told
    by_cases anywhere : type = .spawn ∧ sourceNode.isGlobalEvent = true
    · obtain ⟨rfl, anywhere⟩ := anywhere
      exact .anywhere ⟨sourceNode, targetNode, sourceFound, targetFound, anywhere,
        (connectionType_eq_spawn_iff.1 joins).2⟩
    · have allowed : validateConnection sourceNode targetNode type = .ok () :=
        validateConnection_eq_ok_iff.2 ⟨by rwa [sourceOwn, targetOwn], joins, anywhere⟩
      obtain ⟨after, id, added, fresh⟩ :=
        sound.addEdge sourceFound targetFound left (newEdgeKind store.settings type)
      rw [type_newEdgeKind] at fresh
      rw [allowed] at request
      exact .joined type after id told (request.trans added) fresh

/-- What a question and a request come to in a sound store that has identities left for edges. -/
theorem Sound.requested (sound : store.Sound) (left : store.numbering.nextEdge ≠ none)
    (source target : ElementId) : store.Requested source target := by
  cases sourceFound : store.nodes.get? source with
  | none =>
    have missing := requireNode_eq_error sourceFound
    refine .unknown source ?_ ?_
    · rw [edgeTypeBetween, missing]
      rfl
    · rw [requestEdge, missing]
      rfl
  | some sourceNode =>
    cases targetFound : store.nodes.get? target with
    | none =>
      have missing := requireNode_eq_error targetFound
      refine .unknown target ?_ ?_
      · rw [edgeTypeBetween, requireNode_eq_ok_iff.2 sourceFound, missing]
        rfl
      · rw [requestEdge, requireNode_eq_ok_iff.2 sourceFound, missing]
        rfl
    | some targetNode => exact sound.requested_of_found left sourceFound targetFound

/-! ## The answer and the request -/

/-- **The answer foretells the request unless it is about an event that happens anywhere.** Take a
store that an editing session has reached, with identities left for edges, and any two identities.
What the store tells about an edge between them is what a request of that edge comes to, unless the
first is an event that happens anywhere and the second a location. Then a spawn edge is told, and
the request is refused. -/
theorem foretells_iff (settings : GraphSettings) (operations : List Operation)
    (left : ((Store.empty settings).run operations).numbering.nextEdge ≠ none)
    (source target : ElementId) :
    let reached := (Store.empty settings).run operations
    (reached.Foretells source target ↔ ¬ reached.SpawnsAnywhere source target) ∧
      (reached.SpawnsAnywhere source target →
        reached.edgeTypeBetween source target = .ok (some .spawn) ∧
          reached.requestEdge source target = .error (.globalEventSpawn source)) := by
  intro reached
  have sound : reached.Sound := (Sound.empty settings).run operations
  refine ⟨⟨fun foretells asks => ?_, fun bound => ?_⟩, sound.consistent.spawnsAnywhere⟩
  · obtain ⟨told, request⟩ := sound.consistent.spawnsAnywhere asks
    obtain ⟨after, id, made⟩ := foretells.made.1 ⟨.spawn, told⟩
    rw [request] at made
    cases made
  · exact (sound.requested left source target).foretells bound

/-- A town, and a storm that happens anywhere; the sailor and the regatta do not. -/
def stormyTown : List Operation :=
  [.addNode .location none, .addNode .event none, .addNode .character none, .addNode .event none,
    .patchNode (.numbered (.node .event) 2) { isGlobal := some true }]

theorem foretells_stormyTown :
    let reached := (Store.empty {}).run stormyTown
    let town : ElementId := .numbered (.node .location) 1
    reached.numbering.nextEdge ≠ none ∧
      reached.Foretells (.numbered (.node .character) 3) town ∧
      reached.Foretells (.numbered (.node .event) 4) town ∧ reached.Foretells town town := by
  intro reached town
  have left : reached.numbering.nextEdge ≠ none := by decide +kernel
  have foretold (source : ElementId)
      (bound : (reached.nodes.get? source).map Node.isGlobalEvent = some false) :
      reached.Foretells source town := by
    refine (foretells_iff {} stormyTown left source town).1.2 ?_
    rintro ⟨event, place, found, -, anywhere, -⟩
    rw [found, Option.map_some, anywhere] at bound
    cases bound
  exact ⟨left, foretold _ (by decide +kernel), foretold _ (by decide +kernel),
    foretold _ (by decide +kernel)⟩

/-- The storm may appear in the town by what is told, and may not by what is done. -/
theorem storm_not_foretold :
    ¬ ∀ (settings : GraphSettings) (operations : List Operation) (source target : ElementId),
      ((Store.empty settings).run operations).numbering.nextEdge ≠ none →
        ((Store.empty settings).run operations).Foretells source target := by
  intro claim
  let storm : ElementId := .numbered (.node .event) 2
  let town : ElementId := .numbered (.node .location) 1
  have left : ((Store.empty {}).run stormyTown).numbering.nextEdge ≠ none := by decide +kernel
  have told : ((Store.empty {}).run stormyTown).edgeTypeBetween storm town = .ok (some .spawn) := by
    decide +kernel
  have refused : ((Store.empty {}).run stormyTown).requestEdge storm town =
      .error (.globalEventSpawn storm) := by decide +kernel
  obtain ⟨after, id, made⟩ := (claim {} stormyTown storm town left).made.1 ⟨.spawn, told⟩
  rw [refused] at made
  cases made

end Store

end StoryWorld
