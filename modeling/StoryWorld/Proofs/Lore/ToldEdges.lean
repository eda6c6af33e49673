import StoryWorld.Proofs.Lore.ImportedEdges

/-!
# Entries told edge by edge

In a world in which at most one edge joins two nodes (`Snapshot.Simple`) nothing that an entry says
of others is said twice, if words are unambiguous. So the lists and tables of an entry can be told
edge by edge, in order: a spawn table has what the spawn edges say (`entries_spawnTable`), the
triggers of a location are the keywords at the other ends of its adjacency edges
(`triggers_locationEntry`), and what a character knows is what its acquaintances say
(`entries_knows`).

The main statement is `Reimport.mentionLinks_eq`: the references that an import follows are those
that each node makes, one for each of its edges that has a keyword at the other end.
-/

set_option autoImplicit false

namespace StoryWorld

namespace Snapshot

/-- At most one edge joins two nodes. -/
def Simple (world : Snapshot) : Prop :=
  ∀ first ∈ world.edges, ∀ second ∈ world.edges,
    second.joins first.source first.target = true → first = second

variable {world : Snapshot}

/-- Two edges of a simple world that join the same nodes are the same. -/
theorem Simple.eq_of_joins (simple : world.Simple) {first second : Edge}
    (isFirst : first ∈ world.edges) (isSecond : second ∈ world.edges) {a b : ElementId}
    (joins : first.joins a b = true) (alsoJoins : second.joins a b = true) : first = second := by
  refine simple first isFirst second isSecond ?_
  rcases of_decide_eq_true joins with ⟨rfl, rfl⟩ | ⟨rfl, rfl⟩
  · exact alsoJoins
  · rw [second.joins_comm]
    exact alsoJoins

/-! ## Spawn tables -/

section Spawns

variable (clear : world.Unambiguous) (valid : world.Valid) (typed : world.Typed)
  (simple : world.Simple)

include clear valid typed

/-- A spawn edge says nothing twice. -/
theorem Unambiguous.nodup_edgeSpawns {edge : Edge} (member : edge ∈ world.edgesOf .spawn) :
    (world.edgeSpawns edge).Nodup := by
  cases kind : edge.kind with
  | adjacent | knows =>
    rw [edgeSpawns, kind]
    exact List.nodup_nil
  | spawn probability overrides =>
    have rooms : (overrides.entries.filter fun entry => decide (0 < entry.2)).Nodup :=
      (overrides.keys_nodup.of_map Prod.fst).filter _
    have said : ∀ override ∈ overrides.entries.filter (fun entry => decide (0 < entry.2)),
        world.keyword? edge.target ≠ some override.1 := by
      intro override listed known
      obtain ⟨inside, positive⟩ := List.mem_filter.1 listed
      obtain ⟨-, -, place, isPlace, -, toThere, -⟩ := typed.spawn_ends member
      rw [← toThere, valid.keyword?_eq (mem_nodesOf.1 isPlace).1] at known
      have free := (clear.overrides edge (mem_edgesOf.1 member).1 override
        (by rwa [kind]) (of_decide_eq_true positive)).2
      exact free place isPlace (Node.lowercase_mem_of_firstKeyword known)
    rw [edgeSpawns, kind]
    cases known : world.keyword? edge.target with
    | none => exact rooms
    | some key =>
      refine List.nodup_cons.2 ⟨fun listed => ?_, rooms⟩
      exact said _ listed known

include simple

/-- Two spawn edges of one node that say something under one key are the same and say the same. -/
theorem Unambiguous.eq_of_said {first second : Edge} (isFirst : first ∈ world.edgesOf .spawn)
    (isSecond : second ∈ world.edgesOf .spawn) (sources : first.source = second.source)
    {key : String} {value other : Float} (said : (key, value) ∈ world.edgeSpawns first)
    (alsoSaid : (key, other) ∈ world.edgeSpawns second) : first = second ∧ value = other := by
  have once : first.target = second.target → first = second := fun targets =>
    simple first (mem_edgesOf.1 isFirst).1 second (mem_edgesOf.1 isSecond).1
      (decide_eq_true (Or.inl ⟨sources.symm, targets.symm⟩))
  obtain ⟨place, -, toPlace, here⟩ := clear.spawn_cases valid typed isFirst said
  obtain ⟨goal, -, toGoal, there⟩ := clear.spawn_cases valid typed isSecond alsoSaid
  rcases here with ⟨placeKey, overrides, kind⟩ | ⟨room, roomKey, below, listed, -⟩
  · rcases there with ⟨goalKey, others, alsoKind⟩ | ⟨other, otherKey, -⟩
    · have same : first = second := by
        refine once ?_
        rw [← toPlace, ← toGoal, clear.eq_of_placeKey placeKey goalKey]
      subst same
      rw [kind] at alsoKind
      cases alsoKind
      exact ⟨rfl, rfl⟩
    · exact absurd otherKey placeKey.not_roomKey
  · rcases there with ⟨goalKey, -⟩ | ⟨other, otherKey, alsoBelow, alsoListed, -⟩
    · exact absurd roomKey goalKey.not_roomKey
    · have same : first = second := by
        refine once ?_
        rw [← clear.eq_of_roomKey roomKey otherKey, below] at alsoBelow
        rw [← toPlace, ← toGoal, Option.some.inj alsoBelow]
      subst same
      rw [← Table.get?_eq_some_iff] at listed alsoListed
      rw [listed] at alsoListed
      exact ⟨rfl, Option.some.inj alsoListed⟩

/-- The spawn edges of a node say nothing twice. -/
theorem Unambiguous.nodup_spawns (id : ElementId) :
    ((world.spawns id).map Prod.fst).Nodup := by
  have inside : ∀ edge ∈ (world.edgesOf .spawn).filter (fun edge => decide (edge.source = id)),
      edge ∈ world.edgesOf .spawn ∧ edge.source = id := by
    intro edge member
    exact (List.mem_filter.1 member).imp_right of_decide_eq_true
  refine List.Nodup.map_on ?_ (List.pairwise_flatMap.2 ⟨fun edge member => ?_, ?_⟩)
  · rintro ⟨key, value⟩ isFirst ⟨_, other⟩ isSecond rfl
    obtain ⟨edge, isEdge, fromHere, said⟩ := mem_spawns.1 isFirst
    obtain ⟨second, isOther, alsoFromHere, alsoSaid⟩ := mem_spawns.1 isSecond
    rw [(clear.eq_of_said valid typed simple isEdge isOther (fromHere.trans alsoFromHere.symm) said
      alsoSaid).2]
  · exact clear.nodup_edgeSpawns valid typed (inside edge member).1
  · have distinct : ((world.edgesOf .spawn).filter fun edge => decide (edge.source = id)).Nodup :=
      ((valid.edges_nodup.of_map Edge.id).filter _).filter _
    refine List.Pairwise.imp_of_mem ?_ distinct
    intro edge other isEdge isOther differ first said second alsoSaid same
    obtain ⟨isEdge, fromHere⟩ := inside edge isEdge
    obtain ⟨isOther, alsoFromHere⟩ := inside other isOther
    subst same
    exact differ (clear.eq_of_said valid typed simple isEdge isOther
      (fromHere.trans alsoFromHere.symm) said alsoSaid).1

/-- A spawn table has what the spawn edges of its node say, edge by edge. -/
theorem Unambiguous.entries_spawnTable (id : ElementId) :
    (world.spawnTable id).entries = world.spawns id :=
  Table.entries_ofList (clear.nodup_spawns valid typed simple id)

end Spawns

/-! ## The other ends of edges -/

/-- The edges of a kind without direction, in the order in which the entry of a node goes through
them. -/
def edgesRead (world : Snapshot) (type : EdgeType) (id : ElementId) : List Edge :=
  match type with
  | .adjacent =>
    ((world.edgesOf .adjacent).filter fun edge => decide (edge.source = id)) ++
      (world.edgesOf .adjacent).filter fun edge => decide (edge.target = id)
  | other => world.edgesOf other

/-- The keyword at the other end of an edge. -/
def farKeyword? (world : Snapshot) (id : ElementId) (edge : Edge) : Option String :=
  (edge.otherEnd id).bind world.keyword?

theorem mem_edgesOf_of_mem_edgesRead {type : EdgeType} {id : ElementId} {edge : Edge}
    (member : edge ∈ world.edgesRead type id) : edge ∈ world.edgesOf type := by
  cases type with
  | spawn | knows => exact member
  | adjacent =>
    rcases List.mem_append.1 member with here | there
    · exact (List.mem_filter.1 here).1
    · exact (List.mem_filter.1 there).1

theorem farKeyword?_eq_some_iff {id : ElementId} {edge : Edge} {key : String} :
    world.farKeyword? id edge = some key ↔
      ∃ other, edge.otherEnd id = some other ∧ world.keyword? other = some key :=
  Option.bind_eq_some_iff

section Typed

variable (typed : world.Typed)

include typed

/-- The edges that lead from a node are among those that its entry goes through. -/
theorem Typed.filter_edgesRead {kind : NodeType} {type : EdgeType} (bond : Mutual kind type)
    (id : ElementId) :
    (world.edgesRead type id).filter (fun edge => decide (edge.source = id)) =
      (world.edgesOf type).filter fun edge => decide (edge.source = id) := by
  cases bond with
  | knows => rfl
  | adjacent =>
    have back : ((world.edgesOf .adjacent).filter fun edge => decide (edge.target = id)).filter
        (fun edge => decide (edge.source = id)) = [] := by
      refine List.filter_eq_nil_iff.2 fun edge member fromHere => ?_
      obtain ⟨isEdge, toHere⟩ := List.mem_filter.1 member
      obtain ⟨-, -, -, -, -, -, differ⟩ := typed.joinsApart .adjacent _ isEdge
      exact differ ((of_decide_eq_true fromHere).trans (of_decide_eq_true toHere).symm)
    rw [edgesRead, List.filter_append, List.filter_filter, back, List.append_nil]
    simp only [Bool.and_self]

/-- The neighbours of a node are the other ends of its adjacency edges. -/
theorem Typed.filterMap_neighbours (id : ElementId) :
    (world.neighbours id).filterMap world.keyword? =
      (world.edgesRead .adjacent id).filterMap (world.farKeyword? id) := by
  rw [neighbours, edgesRead, List.filterMap_append, List.filterMap_append, List.filterMap_map,
    List.filterMap_map]
  congr 1
  · refine List.filterMap_congr fun edge member => ?_
    have fromHere := of_decide_eq_true (List.mem_filter.1 member).2
    rw [farKeyword?, Edge.otherEnd, if_pos fromHere, Option.bind_some, Function.comp_apply]
  · refine List.filterMap_congr fun edge member => ?_
    obtain ⟨isEdge, toHere⟩ := List.mem_filter.1 member
    obtain ⟨-, -, -, -, -, -, differ⟩ := typed.joinsApart .adjacent _ isEdge
    have toHere := of_decide_eq_true toHere
    rw [farKeyword?, Edge.otherEnd, if_neg (fun fromHere => differ (fromHere.trans toHere.symm)),
      if_pos toHere, Option.bind_some, Function.comp_apply]

/-- What a node knows is what its acquaintances say, each under the keyword at the other end. -/
theorem Typed.acquaintances_eq (id : ElementId) :
    world.acquaintances id = (world.edgesRead .knows id).filterMap fun edge =>
      (world.farKeyword? id edge).map fun key => (key, edge.seenFrom id) := by
  rw [List.filterMap_eq_flatMap_toList]
  refine List.flatMap_congr fun edge member => ?_
  obtain ⟨-, -, -, -, -, -, differ⟩ := typed.joinsApart .knows _ member
  exact edgeAcquaintances_eq (mem_edgesOf.1 member).2 differ id

/-- A keyword at the other end is that of a node of the same kind. -/
theorem Typed.exists_far (valid : world.Valid) {kind : NodeType} {type : EdgeType}
    (bond : Mutual kind type) {edge : Edge} (member : edge ∈ world.edgesOf type)
    {id : ElementId} {key : String} (far : world.farKeyword? id edge = some key) :
    ∃ other ∈ world.nodesOf kind, edge.otherEnd id = some other.id ∧
      edge.joins id other.id = true ∧ other.firstKeyword = some key := by
  obtain ⟨other, opposite, known⟩ := farKeyword?_eq_some_iff.1 far
  obtain ⟨-, -, -, -, -, -, differ⟩ := typed.joinsApart bond _ member
  have joins := (Edge.otherEnd_eq_some_iff differ).1 opposite
  obtain ⟨node, isNode, rfl, -⟩ := (typed.joinsApart bond).other_end ⟨edge, member, joins⟩
  rw [valid.keyword?_eq (mem_nodesOf.1 isNode).1] at known
  exact ⟨node, isNode, opposite, joins, known⟩

end Typed

section Simple

variable (clear : world.Unambiguous) (valid : world.Valid) (typed : world.Typed)
  (simple : world.Simple)

include clear valid typed simple

/-- No two edges of a node have the same keyword at the other end. -/
theorem Unambiguous.nodup_farKeywords {kind : NodeType} {type : EdgeType} (bond : Mutual kind type)
    (id : ElementId) : ((world.edgesRead type id).filterMap (world.farKeyword? id)).Nodup := by
  have all : (world.edgesOf type).Nodup := (valid.edges_nodup.of_map Edge.id).filter _
  have distinct : (world.edgesRead type id).Nodup := by
    cases bond with
    | knows => exact all
    | adjacent =>
      refine List.nodup_append.2 ⟨all.filter _, all.filter _, ?_⟩
      intro edge here other there same
      subst same
      obtain ⟨isEdge, fromHere⟩ := List.mem_filter.1 here
      have toHere := (List.mem_filter.1 there).2
      obtain ⟨-, -, -, -, -, -, differ⟩ := typed.joinsApart .adjacent _ isEdge
      exact differ ((of_decide_eq_true fromHere).trans (of_decide_eq_true toHere).symm)
  refine List.pairwise_filterMap.2 (List.Pairwise.imp_of_mem ?_ distinct)
  intro edge other isEdge isOther differ key far alsoKey alsoFar same
  subst same
  have isEdge := mem_edgesOf_of_mem_edgesRead isEdge
  have isOther := mem_edgesOf_of_mem_edgesRead isOther
  obtain ⟨node, isNode, -, joins, known⟩ := typed.exists_far valid bond isEdge far
  obtain ⟨second, isSecond, -, alsoJoins, alsoKnown⟩ := typed.exists_far valid bond isOther alsoFar
  rw [clear.eq_of_firstKeyword bond isSecond isNode alsoKnown known] at alsoJoins
  exact differ
    (simple.eq_of_joins (mem_edgesOf.1 isEdge).1 (mem_edgesOf.1 isOther).1 joins alsoJoins)

/-- The triggers of a location are the keywords at the other ends of its adjacency edges. -/
theorem Unambiguous.triggers_locationEntry (node : Node) :
    (world.locationEntry node).triggers =
      (world.edgesRead .adjacent node.id).filterMap (world.farKeyword? node.id) := by
  change distinct _ = _
  rw [typed.filterMap_neighbours,
    distinct_eq_self (clear.nodup_farKeywords valid typed simple .adjacent node.id)]

/-- What a character knows is what its acquaintances say. -/
theorem Unambiguous.entries_knows (node : Node) :
    ((world.characterEntry node).knows.getD .empty).entries =
      (world.edgesRead .knows node.id).filterMap fun edge =>
        (world.farKeyword? node.id edge).map fun key => (key, edge.seenFrom node.id) := by
  have table : (world.characterEntry node).knows.getD .empty =
      Table.ofList (world.acquaintances node.id) :=
    getD_nonempty? _
  rw [table, typed.acquaintances_eq, Table.entries_ofList]
  have distinct := clear.nodup_farKeywords valid typed simple .knows node.id
  rw [List.map_filterMap]
  simpa only [Option.map_map, Function.comp_def, Option.map_id'] using distinct

end Simple

/-! ## References -/

/-- What an edge links when its node tells of it. The thoughts of the other end are found under the
keyword of the node. -/
def told (world : Snapshot) (node : Node) (other : ElementId) (edge : Edge) : Link where
  source := world.renamed node.id
  target := world.renamed other
  kind :=
    match edge.kind with
    | .knows .. =>
      .knows (edge.seenFrom node.id).relationship (edge.seenFrom node.id).thoughts
        ((node.firstKeyword.map fun _ => (edge.seenFrom other).thoughts).getD "")
    | kind => kind

/-- What a node mentions by an edge, if the other end has a keyword. -/
def mention (world : Snapshot) (node : Node) (edge : Edge) : Option Link :=
  (edge.otherEnd node.id).bind fun other =>
    (world.keyword? other).map fun _ => world.told node other edge

theorem mention_eq_some_iff {node : Node} {edge : Edge} {link : Link} :
    world.mention node edge = some link ↔
      ∃ other, edge.otherEnd node.id = some other ∧ world.keyword? other ≠ none ∧
        world.told node other edge = link := by
  rw [mention, Option.bind_eq_some_iff]
  refine exists_congr fun other => and_congr_right fun _ => ?_
  rw [Option.map_eq_some_iff, Option.ne_none_iff_exists']
  exact ⟨fun ⟨key, known, same⟩ => ⟨⟨key, known⟩, same⟩,
    fun ⟨⟨key, known⟩, same⟩ => ⟨key, known, same⟩⟩

/-- References by keywords at the other ends are mentions, if each leads where its edge does. -/
theorem filterMap_farKeyword? {α : Type} {node : Node} {edges : List Edge}
    {saying : Edge → String → α} {reference : α → Reference}
    (leads : ∀ edge ∈ edges, ∀ key, world.farKeyword? node.id edge = some key →
      ∃ other, edge.otherEnd node.id = some other ∧
        reference (saying edge key) = .inr (world.told node other edge)) :
    Draft.linked ((edges.filterMap fun edge =>
        (world.farKeyword? node.id edge).map (saying edge)).map reference) =
      edges.filterMap (world.mention node) := by
  rw [Draft.linked, List.filterMap_map, List.filterMap_filterMap]
  refine List.filterMap_congr fun edge member => ?_
  cases far : world.farKeyword? node.id edge with
  | none =>
    cases told : world.mention node edge with
    | none => rfl
    | some link =>
      obtain ⟨other, opposite, keyed, -⟩ := mention_eq_some_iff.1 told
      rw [farKeyword?, opposite, Option.bind_some] at far
      exact absurd far keyed
  | some key =>
    obtain ⟨other, opposite, same⟩ := leads edge member key far
    have keyed : world.keyword? other ≠ none := by
      rw [farKeyword?, opposite, Option.bind_some] at far
      rw [far]
      exact Option.some_ne_none key
    rw [mention_eq_some_iff.2 ⟨other, opposite, keyed, rfl⟩, Option.map_some, Option.bind_some,
      Function.comp_apply, same]
    rfl

namespace Reimport

variable {config : Config} {last : Draft} (again : world.Reimport config last)
  (simple : world.Simple)

include again simple

/-- The triggers of a location are what it mentions by its adjacency edges. -/
theorem linked_triggers (node : Node) :
    Draft.linked ((world.locationEntry node).triggers.map
        (last.adjacencyReference (world.renamed node.id, world.locationEntry node))) =
      (world.edgesRead .adjacent node.id).filterMap (world.mention node) := by
  have said : (world.locationEntry node).triggers =
      (world.edgesRead .adjacent node.id).filterMap fun edge =>
        (world.farKeyword? node.id edge).map fun key => key := by
    rw [again.clear.triggers_locationEntry again.valid again.typed simple node]
    simp only [Option.map_id']
  rw [said]
  refine filterMap_farKeyword? fun edge isEdge key far => ?_
  have isEdge := mem_edgesOf_of_mem_edgesRead isEdge
  obtain ⟨other, isOther, opposite, -, known⟩ :=
    again.typed.exists_far again.valid .adjacent isEdge far
  have leads := again.namedLocation?_of_placeKey ⟨isOther, known⟩
  rw [Draft.namedLocation?] at leads
  refine ⟨other.id, opposite, ?_⟩
  simp only [Draft.adjacencyReference, leads, told,
    Edge.kind_of_adjacent (mem_edgesOf.1 isEdge).2]

/-- What a character knows is what it mentions by its acquaintances. -/
theorem linked_knows {node : Node} (member : node ∈ world.nodesOf .character) :
    Draft.linked (((world.characterEntry node).knows.getD .empty).entries.map
        (last.acquaintanceReference
          ((world.nodesOf .character).map fun node =>
            (world.renamed node.id, world.characterEntry node))
          (world.renamed node.id, world.characterEntry node))) =
      (world.edgesRead .knows node.id).filterMap (world.mention node) := by
  rw [again.clear.entries_knows again.valid again.typed simple node]
  refine filterMap_farKeyword? fun edge isEdge key far => ?_
  obtain ⟨other, isOther, opposite, joins, known⟩ :=
    again.typed.exists_far again.valid .knows isEdge far
  obtain ⟨inside, typed⟩ := mem_edgesOf.1 isEdge
  obtain ⟨relationship, sourceThinks, targetThinks, kind⟩ := Edge.kind_of_knows typed
  have between : world.lastAcquaintance? node.id other.id = some edge := by
    obtain ⟨one, found⟩ := Option.isSome_iff_exists.1
      (isSome_lastAcquaintance?_iff.2 ⟨edge, isEdge, joins⟩)
    obtain ⟨isOne, alsoJoins⟩ := joins_of_lastAcquaintance? found
    rw [found, simple.eq_of_joins (mem_edgesOf.1 isOne).1 inside alsoJoins joins]
  refine ⟨other.id, opposite, ?_⟩
  rw [Draft.acquaintanceReference, again.characters_get?_of_firstKeyword isOther known]
  simp only [again.thoughtsBack_eq member isOther between, told, kind]

/-- **References edge by edge.** Each node of a kind mentions what its edges without direction lead
to, as far as there are keywords. -/
theorem mentionLinks_eq {kind : NodeType} {type : EdgeType} (bond : Mutual kind type) :
    last.mentionLinks config world.entries.length world.items type =
      (world.nodesOf kind).flatMap fun node =>
        (world.edgesRead type node.id).filterMap (world.mention node) := by
  cases bond with
  | adjacent =>
    change Draft.linked (last.triggerReferences config _ _) = _
    rw [Draft.triggerReferences, again.map_member_locations, Draft.adjacencyReferences,
      List.flatMap_map, Draft.linked_flatMap]
    exact List.flatMap_congr fun node _ => again.linked_triggers simple node
  | knows =>
    change Draft.linked (last.knowsReferences config _ _) = _
    rw [Draft.knowsReferences, again.castMembers_eq, Draft.acquaintanceReferences,
      List.flatMap_map, Draft.linked_flatMap]
    exact List.flatMap_congr fun node member => again.linked_knows simple member

end Reimport

end Snapshot

end StoryWorld
