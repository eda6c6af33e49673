import Mathlib.Data.List.Pairwise
import StoryWorld.Proofs.Lore.CarriedFields
import StoryWorld.Proofs.Lore.FirstMentions
import StoryWorld.Proofs.Lore.ToldEdges

/-!
# The order of an imported world

Whatever entries are imported, what comes out stands in order. The elements are numbered
(`Assembled.inOrder`), and each location has its sublocations behind it
(`Assembled.flatMap_family`). The edges come kind by kind (`Assembled.edges_eq`): first those of the
spawn tables (`Assembled.map_link_spawns`), and then, for the two kinds without direction, those of
the first mentions of each pair (`Assembled.map_link_mutual`). No two edges join the same nodes
(`Assembled.simple`).

Of two nodes that mention each other the one that comes first makes the edge
(`Assembled.exists_before_of_mention`).
-/

set_option autoImplicit false

namespace StoryWorld

/-- What can be joined either way is joined by edges of one kind, which have no direction. -/
theorem connectionType_comm {source target : NodeType} {type back : EdgeType}
    (there : connectionType source target = some type)
    (andBack : connectionType target source = some back) : type = back ∧ type ≠ .spawn := by
  cases source <;> cases target <;> cases there <;> cases andBack <;>
    exact ⟨rfl, EdgeType.noConfusion⟩

theorem Link.Joins.of_joins {link other : Link} (joins : link.Joins other.source other.target) :
    other.Joins link.source link.target := by
  rcases joins with ⟨here, there⟩ | ⟨there, here⟩
  · exact Or.inl ⟨here.symm, there.symm⟩
  · exact Or.inr ⟨here.symm, there.symm⟩

theorem Link.Apart.symm {first second : Link} (apart : first.Apart second) :
    second.Apart first := by
  intro same
  obtain ⟨directed, undirected⟩ := apart same.symm
  refine ⟨fun ends => directed ⟨ends.1.symm, ends.2.symm⟩, fun other joins => ?_⟩
  exact undirected (same ▸ other) joins.of_joins

/-- Edges are of the kind of their links. -/
theorem type_of_map_link_eq {edges : List Edge} {links : List Link} {type : EdgeType}
    (made : edges.map Edge.link = links) (typed : ∀ link ∈ links, link.kind.type = type) :
    ∀ edge ∈ edges, edge.type = type := by
  intro edge member
  exact typed edge.link (made ▸ List.mem_map_of_mem member)

/-- The edges of a kind among edges that are all of one kind. -/
theorem filter_type_of_forall {edges : List Edge} {own : EdgeType}
    (typed : ∀ edge ∈ edges, edge.type = own) (type : EdgeType) :
    edges.filter (fun edge => decide (edge.type = type)) = if own = type then edges else [] := by
  split
  · rename_i same
    exact List.filter_eq_self.2 fun edge member => decide_eq_true ((typed edge member).trans same)
  · rename_i other
    refine List.filter_eq_nil_iff.2 fun edge member same => other ?_
    rw [← typed edge member, of_decide_eq_true same]

/-- What the entry of a placement mentions. -/
def Placement.mentions (config : Config) (total : Nat) (items : List (Nat × Entry)) (last : Draft)
    (type : EdgeType) (placed : Placement) : List Link :=
  match type with
  | .spawn => []
  | .adjacent => Draft.linked (placed.entry.triggers.map (last.adjacencyReference placed.member))
  | .knows =>
    Draft.linked ((placed.entry.knows.getD .empty).entries.map
      (last.acquaintanceReference (Draft.castMembers (castPlacements config total items))
        placed.member))

namespace Draft

section Whole

variable {config : Config} {total : Nat} {items : List (Nat × Entry)} {last : Draft}
  (whole : Assembled config total items last []) {kind : NodeType} {type : EdgeType}

/-! ## Mentions by who makes them -/

/-- The mentions of a kind come mentioner by mentioner. -/
theorem mentionLinks_eq_flatMap (bond : Mutual kind type) :
    last.mentionLinks config total items type =
      (mentioners config total items type).flatMap
        (Placement.mentions config total items last type) := by
  cases bond with
  | adjacent =>
    change linked (last.adjacencyReferences _) = _
    rw [adjacencyReferences, List.flatMap_map, linked_flatMap]
    rfl
  | knows =>
    change linked (last.acquaintanceReferences (castMembers _)) = _
    rw [acquaintanceReferences, linked_flatMap, castMembers, List.flatMap_map]
    rfl

/-- Who mentions another is the source of the link. -/
theorem source_of_mem_mentions (bond : Mutual kind type) {placed : Placement} {link : Link}
    (member : link ∈ placed.mentions config total items last type) : link.source = placed.id := by
  cases bond with
  | adjacent =>
    obtain ⟨trigger, -, reference⟩ := List.mem_map.1 (mem_linked.1 member)
    unfold adjacencyReference at reference
    split at reference
    · cases reference
    · cases reference
      rfl
  | knows =>
    obtain ⟨known, -, reference⟩ := List.mem_map.1 (mem_linked.1 member)
    unfold acquaintanceReference at reference
    split at reference
    · cases reference
    · cases reference
      rfl

include whole

/-! ## Edges kind by kind -/

/-- The edges are those of the spawn tables, then the adjacencies, then the acquaintances. -/
theorem Assembled.exists_edges : ∃ spawns borders known : List Edge,
    last.edges = spawns ++ borders ++ known ∧
      spawns.map Edge.link = (castPlacements config total items).flatMap
        (Placement.spawnLinks config.graph last) ∧
      borders.map Edge.link = linksOnce [] (last.mentionLinks config total items .adjacent) ∧
      known.map Edge.link = linksOnce [] (last.mentionLinks config total items .knows) := by
  have made := map_link_numberedEdges 0 (last.links config total items)
  rw [← whole.edges, links] at made
  obtain ⟨front, known, edges, made, knownMade⟩ := List.map_eq_append_iff.1 made
  obtain ⟨spawns, borders, rfl, spawnsMade, bordersMade⟩ := List.map_eq_append_iff.1 made
  exact ⟨spawns, borders, known, edges, spawnsMade, bordersMade, knownMade⟩

/-- What was made kind by kind stands kind by kind. -/
theorem Assembled.exists_edgesOf :
    (last.outcome.world.edgesOf .spawn).map Edge.link =
        (castPlacements config total items).flatMap (Placement.spawnLinks config.graph last) ∧
      (last.outcome.world.edgesOf .adjacent).map Edge.link =
        linksOnce [] (last.mentionLinks config total items .adjacent) ∧
      (last.outcome.world.edgesOf .knows).map Edge.link =
        linksOnce [] (last.mentionLinks config total items .knows) ∧
      last.outcome.world.edges = last.outcome.world.edgesOf .spawn ++
        last.outcome.world.edgesOf .adjacent ++ last.outcome.world.edgesOf .knows := by
  obtain ⟨spawns, borders, known, edges, spawnsMade, bordersMade, knownMade⟩ := whole.exists_edges
  have spawnsTyped : ∀ edge ∈ spawns, edge.type = .spawn := by
    refine type_of_map_link_eq spawnsMade fun link member => ?_
    obtain ⟨placed, -, inside⟩ := List.mem_flatMap.1 member
    exact type_of_mem_spawnLinks inside
  have bordersTyped : ∀ edge ∈ borders, edge.type = .adjacent :=
    type_of_map_link_eq bordersMade fun _ => type_of_mem_linksOnce .adjacent
  have knownTyped : ∀ edge ∈ known, edge.type = .knows :=
    type_of_map_link_eq knownMade fun _ => type_of_mem_linksOnce .knows
  have split : ∀ type, last.outcome.world.edgesOf type =
      (if .spawn = type then spawns else []) ++ (if .adjacent = type then borders else []) ++
        if .knows = type then known else [] := by
    intro type
    change last.edges.filter _ = _
    rw [edges, List.filter_append, List.filter_append, filter_type_of_forall spawnsTyped,
      filter_type_of_forall bordersTyped, filter_type_of_forall knownTyped]
  have ofSpawn : last.outcome.world.edgesOf .spawn = spawns := by simp [split]
  have ofAdjacent : last.outcome.world.edgesOf .adjacent = borders := by simp [split]
  have ofKnows : last.outcome.world.edgesOf .knows = known := by simp [split]
  rw [ofSpawn, ofAdjacent, ofKnows]
  exact ⟨spawnsMade, bordersMade, knownMade, edges⟩

/-- The edges stand kind by kind. -/
theorem Assembled.edges_eq :
    last.outcome.world.edges = last.outcome.world.edgesOf .spawn ++
      last.outcome.world.edgesOf .adjacent ++ last.outcome.world.edgesOf .knows :=
  whole.exists_edgesOf.2.2.2

/-- The spawn edges are those of the spawn tables, in order. -/
theorem Assembled.map_link_spawns :
    (last.outcome.world.edgesOf .spawn).map Edge.link =
      (castPlacements config total items).flatMap (Placement.spawnLinks config.graph last) :=
  whole.exists_edgesOf.1

/-- The edges of a kind without direction are the first mentions of each pair, in order. -/
theorem Assembled.map_link_mutual (bond : Mutual kind type) :
    (last.outcome.world.edgesOf type).map Edge.link =
      linksOnce [] (last.mentionLinks config total items type) := by
  cases bond with
  | adjacent => exact whole.exists_edgesOf.2.1
  | knows => exact whole.exists_edgesOf.2.2.1

/-- No two edges join the same nodes. -/
theorem Assembled.simple : last.outcome.world.Simple := by
  intro first isFirst second isSecond joins
  by_contra differ
  have symmetric : Std.Symm fun first second : Edge => first.link.Apart second.link :=
    ⟨fun _ _ => Link.Apart.symm⟩
  have apart := whole.pairwise_apart_edges.forall isFirst isSecond differ
  obtain ⟨source, isSource, target, isTarget, fromHere, toThere, -, joined⟩ :=
    whole.typed_outcome first isFirst
  obtain ⟨start, isStart, goal, isGoal, fromStart, toGoal, -, alsoJoined⟩ :=
    whole.typed_outcome second isSecond
  have told : ∀ {node other : Node}, node ∈ last.outcome.world.nodes →
      other ∈ last.outcome.world.nodes → node.id = other.id → node = other :=
    fun isNode isOther same => eq_of_id_eq whole.indexed.nodup isNode isOther same
  rcases of_decide_eq_true joins with ⟨here, there⟩ | ⟨here, there⟩
  · have sources := told isStart isSource (fromStart.trans (here.trans fromHere.symm))
    have targets := told isGoal isTarget (toGoal.trans (there.trans toThere.symm))
    rw [sources, targets, joined] at alsoJoined
    exact (apart (Option.some.inj alsoJoined)).1 ⟨here.symm, there.symm⟩
  · have sources := told isStart isTarget (fromStart.trans (here.trans toThere.symm))
    have targets := told isGoal isSource (toGoal.trans (there.trans fromHere.symm))
    rw [sources, targets] at alsoJoined
    obtain ⟨same, undirected⟩ := connectionType_comm joined alsoJoined
    exact (apart same).2 undirected (Or.inr ⟨there.symm, here.symm⟩)

/-! ## Who makes an edge -/

/-- The edges of a kind without direction come in the order of the nodes that they lead from. -/
theorem Assembled.flatMap_filter_mutual (bond : Mutual kind type) :
    ((last.outcome.world.nodesOf kind).flatMap fun node =>
        (last.outcome.world.edgesOf type).filter fun edge => decide (edge.source = node.id)) =
      last.outcome.world.edgesOf type := by
  rw [nodesOf_mentioners whole.nodes bond, List.flatMap_map]
  have among : ((last.outcome.world.edgesOf type).map Edge.link).Sublist
      ((mentioners config total items type).flatMap
        (Placement.mentions config total items last type)) := by
    rw [whole.map_link_mutual bond, mentionLinks_eq_flatMap bond]
    exact linksOnce_sublist [] _
  exact flatMap_filter_of_sublist Link.source (whole.nodup_mentioners bond)
    (fun placed _ link member => source_of_mem_mentions bond member) among

/-- An edge leads from a node that comes before the one it leads to, if that one mentions its pair,
too. -/
theorem Assembled.exists_before_of_mention (bond : Mutual kind type) {before after : List Node}
    {node : Node} (split : last.outcome.world.nodesOf kind = before ++ node :: after) {edge : Edge}
    (member : edge ∈ last.outcome.world.edgesOf type) (toHere : edge.target = node.id)
    {link : Link} (mentioned : link ∈ last.mentionLinks config total items type)
    (fromHere : link.source = node.id) (toSource : link.target = edge.source) :
    ∃ first ∈ before, first.id = edge.source := by
  rw [nodesOf_mentioners whole.nodes bond] at split
  obtain ⟨early, rest, placed, rfl, later⟩ := List.map_eq_append_iff.1 split
  obtain ⟨here, late, rfl, rfl, rfl⟩ := List.map_eq_cons_iff.1 later
  have once := List.mem_map_of_mem (f := Edge.link) member
  have distinct := whole.nodup_mentioners bond
  have rows : last.mentionLinks config total items type = _ := mentionLinks_eq_flatMap bond
  rw [placed, List.map_append, List.map_cons, List.nodup_append, List.nodup_cons] at distinct
  have order : early ++ here :: late = early ++ [here] ++ late := by
    rw [List.append_assoc, List.singleton_append]
  rw [placed, order, List.flatMap_append] at rows
  rw [whole.map_link_mutual bond, rows] at once
  rw [rows] at mentioned
  have soFar : link ∈ (early ++ [here]).flatMap
      (Placement.mentions config total items last type) := by
    refine (List.mem_append.1 mentioned).resolve_right fun inside => ?_
    obtain ⟨other, isLate, tells⟩ := List.mem_flatMap.1 inside
    have own : here.id = other.id := fromHere.symm.trans (source_of_mem_mentions bond tells)
    exact distinct.2.1.1 (own ▸ List.mem_map_of_mem isLate)
  have made := mem_linksOnce_of_mentioned once soFar
    (Or.inr ⟨toSource.symm, toHere.trans fromHere.symm⟩)
  obtain ⟨first, isFirst, tells⟩ := List.mem_flatMap.1 ((linksOnce_sublist _ _).subset made)
  have own : edge.source = first.id := source_of_mem_mentions bond tells
  rcases List.mem_append.1 isFirst with isEarly | isHere
  · exact ⟨first.node config.graph, List.mem_map_of_mem isEarly, own.symm⟩
  · exfalso
    rw [List.mem_singleton.1 isHere] at own
    have differ := (fresh_of_mem_linksOnce made).1
    exact differ (toHere.trans own.symm)

/-! ## Nodes in order -/

theorem Assembled.inOrder : last.outcome.world.InOrder :=
  ⟨whole.indexed.numbered, fun _ _ found => whole.id_of_edge found⟩

/-- Each location has its sublocations behind it. -/
theorem Assembled.flatMap_family :
    (last.outcome.world.nodesOf .location).flatMap last.outcome.world.family =
      (locationPlacements config total items).flatMap (Placement.nodes config.graph) := by
  rw [nodesOf_location whole.nodes, List.flatMap_map]
  refine List.flatMap_congr fun placed member => ?_
  rw [Snapshot.family, Placement.id_node, whole.sublocationsOf_placed member]
  rfl

end Whole

end Draft

end StoryWorld
