import StoryWorld.Proofs.Lore.Counterparts
import StoryWorld.Proofs.Lore.ImportedEdges
import StoryWorld.Proofs.Lore.References

/-!
# Who mentions whom

A location mentions other locations by its triggers, and a character other characters by whom it
knows. Both kinds of mention are followed alike: a keyword leads to the first node of the kind that
has it, and joins the two nodes. Here the two are described together, by the kind of edge that comes
of them: the placements of those who mention (`mentioners`), the keys by which they do
(`Entry.mentionKeys`), what joins two nodes (`exists_mention_of_joined`), and what a key does
(`Assembled.eq_or_joined_of_mention`).
-/

set_option autoImplicit false

namespace StoryWorld

/-- The keys by which an entry mentions others of its own category. -/
def Entry.mentionKeys (entry : Entry) : EdgeType → List String
  | .spawn => []
  | .adjacent => entry.triggers
  | .knows => entry.knownKeys

/-- Where the entries come that mention others. -/
def mentioners (config : Config) (total : Nat) (items : List (Nat × Entry)) :
    EdgeType → List Placement
  | .spawn => []
  | .adjacent => locationPlacements config total items
  | .knows => (castPlacements config total items).filter fun placed =>
      decide (placed.entry.category = .character)

namespace Draft

variable {config : Config} {total : Nat} {items : List (Nat × Entry)} {last : Draft}
  {kind : NodeType} {type : EdgeType}

/-- The nodes of a kind are those of the entries that mention others. -/
theorem nodesOf_mentioners (nodes : last.nodes = importedNodes config total items)
    (bond : Mutual kind type) :
    last.outcome.world.nodesOf kind =
      (mentioners config total items type).map (Placement.node config.graph) := by
  cases bond with
  | adjacent => exact nodesOf_location nodes
  | knows => exact nodesOf_character nodes

/-- The entry of one who mentions others has made its node. -/
theorem makes_node_of_mem_mentioners (bond : Mutual kind type) {placed : Placement}
    (member : placed ∈ mentioners config total items type) :
    placed.entry.Makes (placed.node config.graph) := by
  cases bond with
  | adjacent => exact makes_node_of_mem_locations member
  | knows => exact makes_node_of_mem_cast (List.mem_filter.1 member).1

/-- A mention links the node of an entry with the one that a key of the entry leads to. -/
theorem Indexed.exists_of_mem_mentionLinks (indexed : last.Indexed) (bond : Mutual kind type)
    {link : Link} (member : link ∈ last.mentionLinks config total items type) :
    ∃ placed ∈ mentioners config total items type, ∃ key ∈ placed.entry.mentionKeys type,
      link.source = placed.id ∧
        declarer? last.nodes kind (Text.lowercase key) = some link.target := by
  cases bond with
  | adjacent =>
    obtain ⟨from_, inside, key, listed, target, found, rfl⟩ :=
      mem_adjacencyReferences.1 (mem_linked.1 member)
    obtain ⟨placed, isPlaced, rfl⟩ := List.mem_map.1 inside
    rw [indexed.locations] at found
    exact ⟨placed, isPlaced, key, listed, rfl, found⟩
  | knows =>
    obtain ⟨from_, inside, known, listed, other, found, rfl⟩ :=
      mem_acquaintanceReferences.1 (mem_linked.1 member)
    obtain ⟨placed, isPlaced, rfl⟩ := List.mem_map.1 inside
    rw [indexed.characters] at found
    exact ⟨placed, isPlaced, known.1, List.mem_map_of_mem listed, rfl, found⟩

/-- A key that leads somewhere is mentioned there. -/
theorem Indexed.exists_mem_mentionLinks (indexed : last.Indexed) (bond : Mutual kind type)
    {placed : Placement} (member : placed ∈ mentioners config total items type) {key : String}
    (listed : key ∈ placed.entry.mentionKeys type) {id : ElementId}
    (found : declarer? last.nodes kind (Text.lowercase key) = some id) :
    ∃ link ∈ last.mentionLinks config total items type,
      link.source = placed.id ∧ link.target = id := by
  have inside := List.mem_map_of_mem (f := Placement.member) member
  cases bond with
  | adjacent =>
    rw [← indexed.locations] at found
    exact ⟨_, mem_linked.2 (mem_adjacencyReferences.2 ⟨_, inside, key, listed, id, found, rfl⟩),
      rfl, rfl⟩
  | knows =>
    rw [← indexed.characters] at found
    obtain ⟨known, told, rfl⟩ := List.mem_map.1 listed
    exact ⟨_, mem_linked.2 (mem_acquaintanceReferences.2 ⟨_, inside, known, told, id, found, rfl⟩),
      rfl, rfl⟩

section Whole

variable (whole : Assembled config total items last [])

include whole

/-- Those who mention others have different identities. -/
theorem Assembled.nodup_mentioners (bond : Mutual kind type) :
    ((mentioners config total items type).map Placement.id).Nodup := by
  have valid : last.outcome.world.Valid := whole.valid_snapshot
  have ids : ((last.outcome.world.nodesOf kind).map Node.id).Nodup :=
    valid.nodes_nodup.sublist (List.filter_sublist.map Node.id)
  rw [nodesOf_mentioners whole.nodes bond, List.map_map] at ids
  exact ids

/-- Two nodes are joined only if the entry of one of them has a key that leads to the other. -/
theorem Assembled.exists_mention_of_joined (bond : Mutual kind type) {a b : ElementId}
    (joined : last.outcome.world.Joined type a b) :
    ∃ placed ∈ mentioners config total items type, ∃ key ∈ placed.entry.mentionKeys type,
      ∃ id, declarer? last.nodes kind (Text.lowercase key) = some id ∧
        ((placed.id = a ∧ id = b) ∨ (placed.id = b ∧ id = a)) := by
  obtain ⟨edge, isEdge, joins⟩ := joined
  obtain ⟨inside, typed⟩ := Snapshot.mem_edgesOf.1 isEdge
  have once := (mem_links_iff bond).1 ⟨whole.link_mem inside, typed⟩
  obtain ⟨placed, isPlaced, key, listed, source, found⟩ :=
    whole.indexed.exists_of_mem_mentionLinks bond ((linksOnce_sublist _ _).subset once)
  refine ⟨placed, isPlaced, key, listed, edge.target, found, ?_⟩
  have fromHere : edge.source = placed.id := source
  rw [← fromHere]
  exact of_decide_eq_true joins

/-- A key by which an entry mentions others leads to its own node or to one joined with it. -/
theorem Assembled.eq_or_joined_of_mention (bond : Mutual kind type) {placed : Placement}
    (member : placed ∈ mentioners config total items type) {key : String}
    (listed : key ∈ placed.entry.mentionKeys type) {id : ElementId}
    (found : declarer? last.nodes kind (Text.lowercase key) = some id) :
    id = placed.id ∨ last.outcome.world.Joined type placed.id id := by
  obtain ⟨link, mentioned, source, target⟩ :=
    whole.indexed.exists_mem_mentionLinks bond member listed found
  rw [← source, ← target]
  refine or_iff_not_imp_left.2 (whole.joined_of_mention (fun one once => ?_) ?_ mentioned)
  · exact ((mem_links_iff bond).2 once).1
  · exact fun one inside => type_of_mem_mentionLinks bond inside

end Whole

end Draft

namespace Snapshot

variable {world : Snapshot} {config : Config} {kind : NodeType} {type : EdgeType}

theorem knownKeys_characterEntry (node : Node) :
    (world.characterEntry node).knownKeys =
      (Table.ofList (world.acquaintances node.id)).keys := by
  rw [Entry.knownKeys, characterEntry, getD_nonempty?]

/-- The entries of the nodes of a kind come in the order of the nodes. They have the keywords of
their nodes, and their keys are the keywords that the nodes mention. -/
theorem Typed.forall₂_mentioners (typed : world.Typed) (valid : world.Valid)
    (bond : Mutual kind type) :
    List.Forall₂ (fun node placed => placed.entry.keywords = node.keywords ∧
        ∀ key, key ∈ placed.entry.mentionKeys type ↔ world.Mentions kind type node.id key)
      (world.nodesOf kind) (mentioners config world.entries.length world.items type) := by
  cases bond with
  | adjacent =>
    refine (world.forall₂_locationPlacements config).imp fun node placed entry => ?_
    rw [entry]
    exact ⟨rfl, fun key => typed.mem_triggers_locationEntry valid⟩
  | knows =>
    refine (world.forall₂_characterPlacements config).imp fun node placed entry => ?_
    rw [entry]
    refine ⟨rfl, fun key => ?_⟩
    rw [Entry.mentionKeys, knownKeys_characterEntry, Table.mem_keys_ofList]
    exact (typed.joinsApart .knows).mem_keys_acquaintances valid

end Snapshot

end StoryWorld
