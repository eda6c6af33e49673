import StoryWorld.Proofs.Lore.Assembly
import StoryWorld.Proofs.Lore.Exported

/-!
# Entries and the nodes they become

An import makes one node for each entry about a location, character or event, and one for each
sublocation that a location lists. Among the locations of the imported world the nodes come in the
order of the entries, and so they do among the characters and events (`nodesOf_location`,
`filter_cast_nodes`); what a node takes over from its entry is said by `Entry.Makes`.

The words that lead somewhere in the imported world are therefore the words that the entries
declare: keywords of locations and characters (`declarer?_location_ne_none_iff`,
`declarer?_character_ne_none_iff`) and names of sublocations (`sublocationNamed?_ne_none_iff`).
-/

set_option autoImplicit false

namespace StoryWorld

/-- What a node takes over from the entry that it is made of. -/
structure Entry.Makes (entry : Entry) (node : Node) : Prop where
  type : entry.category.nodeType = some node.type
  name : node.name = entry.nodeName
  keywords : node.keywords = entry.keywords
  content : node.content = entry.content

theorem Draft.map_snd_sublocationsOf (entry : Entry) :
    (Draft.sublocationsOf entry).map Prod.snd = (entry.subLocations.getD .empty).entries :=
  map_snd_zip_range _

/-- The sublocations of an entry are listed under their names. -/
theorem map_name_sublocationsOf (entry : Entry) :
    (Draft.sublocationsOf entry).map (fun listed => listed.2.1) = entry.sublocationNames := by
  rw [Entry.sublocationNames, Table.keys, ← Draft.map_snd_sublocationsOf, List.map_map]
  rfl

section Placed

variable {config : Config} {total : Nat} {items : List (Nat × Entry)}

/-! ## Placements of entries -/

theorem map_entry_locationPlacements :
    (locationPlacements config total items).map Placement.entry =
      (items.map Prod.snd).filter fun entry => decide entry.IsLocation := by
  rw [locationPlacements, map_entry_placements, locationItems, List.filter_map]
  rfl

/-- The entry of a placed location is one of the entries. -/
theorem entry_mem_of_mem_locations {placed : Placement}
    (member : placed ∈ locationPlacements config total items) :
    placed.entry ∈ items.map Prod.snd := by
  have entry := List.mem_map_of_mem (f := Placement.entry) member
  rw [map_entry_locationPlacements] at entry
  exact (List.mem_filter.1 entry).1

theorem map_entry_castPlacements :
    (castPlacements config total items).map Placement.entry =
      (items.map Prod.snd).filter fun entry => decide entry.IsCast := by
  rw [castPlacements, map_entry_placements, castItems, List.filter_map]
  rfl

/-- The placed entries of one category of the cast are all entries of that category. -/
theorem map_entry_filter_castPlacements {category : Category}
    (cast : ∀ entry : Entry, entry.category = category → entry.IsCast) :
    ((castPlacements config total items).filter fun placed =>
        decide (placed.entry.category = category)).map Placement.entry =
      (items.map Prod.snd).filter fun entry => decide (entry.category = category) := by
  have chosen := List.filter_map (f := Placement.entry)
    (p := fun entry : Entry => decide (entry.category = category))
    (l := castPlacements config total items)
  rw [map_entry_castPlacements, List.filter_filter] at chosen
  refine chosen.symm.trans (List.filter_congr fun entry _ => ?_)
  by_cases own : entry.category = category
  · simp [own, cast entry own]
  · simp [own]

theorem map_entry_characterPlacements :
    ((castPlacements config total items).filter fun placed =>
        decide (placed.entry.category = .character)).map Placement.entry =
      (items.map Prod.snd).filter fun entry => decide (entry.category = .character) :=
  map_entry_filter_castPlacements fun _ => Or.inl

theorem map_entry_eventPlacements :
    ((castPlacements config total items).filter fun placed =>
        decide (placed.entry.category = .event)).map Placement.entry =
      (items.map Prod.snd).filter fun entry => decide (entry.category = .event) :=
  map_entry_filter_castPlacements fun _ => Or.inr

namespace Draft

theorem nodeType_of_mem_locations {placed : Placement}
    (member : placed ∈ locationPlacements config total items) :
    placed.entry.category.nodeType = some .location := by
  have category : placed.entry.category = .location := isLocation_of_mem member
  rw [category]
  rfl

theorem nodeType_of_mem_cast {placed : Placement}
    (member : placed ∈ castPlacements config total items) :
    placed.entry.category.nodeType = some .character ∨
      placed.entry.category.nodeType = some .event := by
  rcases isCast_of_mem member with category | category <;> rw [category]
  · exact Or.inl rfl
  · exact Or.inr rfl

end Draft

/-- The node of a placement is made of its entry. -/
theorem Placement.makes_node (settings : GraphSettings) {placed : Placement} {type : NodeType}
    (known : placed.entry.category.nodeType = some type) :
    placed.entry.Makes (placed.node settings) where
  type := by rw [type_node, Entry.nodeType, known, Option.getD_some]
  name := rfl
  keywords := rfl
  content := rfl

namespace Draft

theorem makes_node_of_mem_locations {placed : Placement}
    (member : placed ∈ locationPlacements config total items) :
    placed.entry.Makes (placed.node config.graph) :=
  Placement.makes_node config.graph (nodeType_of_mem_locations member)

theorem makes_node_of_mem_cast {placed : Placement}
    (member : placed ∈ castPlacements config total items) :
    placed.entry.Makes (placed.node config.graph) := by
  rcases nodeType_of_mem_cast member with known | known <;>
    exact Placement.makes_node config.graph known

end Draft

/-- The nodes of the sublocations of an entry are named as they are listed. -/
theorem Placement.map_name_sublocations (settings : GraphSettings) {placed : Placement}
    (isLocation : placed.entry.IsLocation) :
    (placed.sublocations settings).map Node.name = placed.entry.sublocationNames := by
  rw [sublocations, if_pos isLocation, List.map_map, ← map_name_sublocationsOf]
  rfl

theorem Placement.type_of_mem_sublocations {settings : GraphSettings} {placed : Placement}
    {room : Node} (member : room ∈ placed.sublocations settings) : room.type = .sublocation := by
  unfold sublocations at member
  split at member
  · obtain ⟨listed, -, rfl⟩ := List.mem_map.1 member
    rfl
  · cases member

theorem Placement.parent_of_mem_sublocations {settings : GraphSettings} {placed : Placement}
    {room : Node} (member : room ∈ placed.sublocations settings) :
    room.parent = some placed.id := by
  unfold sublocations at member
  split at member
  · obtain ⟨listed, -, rfl⟩ := List.mem_map.1 member
    rfl
  · cases member

theorem Placement.ref?_of_mem_sublocations {settings : GraphSettings} {placed : Placement}
    {room : Node} (member : room ∈ placed.sublocations settings) :
    ∃ ref, room.ref? = some ref ∧ ref.name = room.name := by
  unfold sublocations at member
  split at member
  · obtain ⟨listed, -, rfl⟩ := List.mem_map.1 member
    exact ⟨_, rfl, rfl⟩
  · cases member

/-! ## Nodes by kind -/

namespace Draft

/-- The sublocations apart, the nodes of one pass are those of its placements. -/
theorem filter_importedNodes (keep : NodeType → Bool) (noRooms : keep .sublocation = false) :
    (importedNodes config total items).filter (fun node => keep node.type) =
      ((locationPlacements config total items ++ castPlacements config total items).filter
        fun placed => keep placed.entry.nodeType).map (Placement.node config.graph) := by
  have family (placed : Placement) :
      (placed.nodes config.graph).filter (fun node => keep node.type) =
        if keep placed.entry.nodeType then [placed.node config.graph] else [] := by
    have rooms : (placed.sublocations config.graph).filter (fun node => keep node.type) = [] := by
      refine List.filter_eq_nil_iff.2 fun room member => ?_
      rw [Placement.type_of_mem_sublocations member, noRooms]
      exact Bool.false_ne_true
    rw [Placement.nodes, List.filter_cons, rooms, Placement.type_node]
  have families (placed : List Placement) :
      (placed.flatMap (Placement.nodes config.graph)).filter (fun node => keep node.type) =
        (placed.filter fun one => keep one.entry.nodeType).map (Placement.node config.graph) := by
    induction placed with
    | nil => rfl
    | cons one rest ih =>
      rw [List.flatMap_cons, List.filter_append, family, ih, List.filter_cons]
      split <;> rfl
  have cast : ((castPlacements config total items).map (Placement.node config.graph)).filter
      (fun node => keep node.type) =
        ((castPlacements config total items).filter fun placed =>
          keep placed.entry.nodeType).map (Placement.node config.graph) := by
    rw [List.filter_map]
    congr 2
    funext placed
    simp only [Function.comp_apply, Placement.type_node]
  rw [importedNodes, List.filter_append, families, cast, List.filter_append, List.map_append]

theorem filter_location_importedNodes :
    (importedNodes config total items).filter (fun node => decide (node.type = .location)) =
      (locationPlacements config total items).map (Placement.node config.graph) := by
  rw [filter_importedNodes (fun type => decide (type = .location)) rfl, List.filter_append,
    List.filter_eq_self.2, List.filter_eq_nil_iff.2, List.append_nil]
  · intro placed member same
    have known := nodeType_of_mem_cast member
    rw [Entry.nodeType] at same
    rcases known with known | known <;> rw [known] at same <;> cases same
  · intro placed member
    rw [Entry.nodeType, nodeType_of_mem_locations member]
    rfl

theorem filter_cast_importedNodes (keep : NodeType → Bool) (noRooms : keep .sublocation = false)
    (noPlaces : keep .location = false) :
    (importedNodes config total items).filter (fun node => keep node.type) =
      ((castPlacements config total items).filter fun placed => keep placed.entry.nodeType).map
        (Placement.node config.graph) := by
  rw [filter_importedNodes keep noRooms, List.filter_append, List.filter_eq_nil_iff.2,
    List.nil_append]
  intro placed member
  rw [Entry.nodeType, nodeType_of_mem_locations member, Option.getD_some, noPlaces]
  exact Bool.false_ne_true

/-! ## Entries beside their nodes -/

section Outcome

variable {last : Draft} (nodes : last.nodes = importedNodes config total items)

include nodes

/-- The locations of an imported world, in the order of their entries. -/
theorem nodesOf_location :
    last.outcome.world.nodesOf .location =
      (locationPlacements config total items).map (Placement.node config.graph) := by
  rw [← filter_location_importedNodes, ← nodes]
  rfl

/-- The nodes of one kind of the cast of an imported world, in the order of their entries. -/
theorem nodesOf_cast {category : Category} {type : NodeType} (noRooms : type ≠ .sublocation)
    (noPlaces : type ≠ .location)
    (own : ∀ entry : Entry, entry.IsCast → (entry.category = category ↔ entry.nodeType = type)) :
    last.outcome.world.nodesOf type =
      ((castPlacements config total items).filter fun placed =>
        decide (placed.entry.category = category)).map (Placement.node config.graph) := by
  have chosen : (castPlacements config total items).filter (fun placed =>
      decide (placed.entry.category = category)) =
        (castPlacements config total items).filter fun placed =>
          decide (placed.entry.nodeType = type) := by
    refine List.filter_congr fun placed member => decide_eq_decide.2 ?_
    exact own placed.entry (isCast_of_mem member)
  rw [chosen, ← filter_cast_importedNodes (fun other => decide (other = type))
    (decide_eq_false noRooms.symm) (decide_eq_false noPlaces.symm), ← nodes]
  rfl

/-- The characters of an imported world, in the order of their entries. -/
theorem nodesOf_character :
    last.outcome.world.nodesOf .character =
      ((castPlacements config total items).filter fun placed =>
        decide (placed.entry.category = .character)).map (Placement.node config.graph) := by
  apply nodesOf_cast nodes (by decide) (by decide)
  intro entry cast
  rw [Entry.nodeType]
  rcases cast with category | category <;> rw [category] <;> decide

/-- The events of an imported world, in the order of their entries. -/
theorem nodesOf_event :
    last.outcome.world.nodesOf .event =
      ((castPlacements config total items).filter fun placed =>
        decide (placed.entry.category = .event)).map (Placement.node config.graph) := by
  apply nodesOf_cast nodes (by decide) (by decide)
  intro entry cast
  rw [Entry.nodeType]
  rcases cast with category | category <;> rw [category] <;> decide

/-- The characters and events of an imported world, in the order of their entries. -/
theorem filter_cast_nodes :
    last.outcome.world.nodes.filter (fun node =>
        decide (node.type = .character ∨ node.type = .event)) =
      (castPlacements config total items).map (Placement.node config.graph) := by
  have all : (castPlacements config total items).filter (fun placed =>
      decide (placed.entry.nodeType = .character ∨ placed.entry.nodeType = .event)) =
        castPlacements config total items := by
    refine List.filter_eq_self.2 fun placed member => decide_eq_true ?_
    rw [Entry.nodeType]
    exact (nodeType_of_mem_cast member).imp (fun known => by rw [known]; rfl)
      fun known => by rw [known]; rfl
  rw [← all, ← filter_cast_importedNodes
    (fun type => decide (type = .character ∨ type = .event)) rfl rfl, ← nodes]
  rfl

/-- Every event of an imported world has a name. -/
theorem name_ne_of_event {event : Node} (member : event ∈ last.outcome.world.nodesOf .event) :
    event.name ≠ "" := by
  obtain ⟨inside, typed⟩ := Snapshot.mem_nodesOf.1 member
  have cast : event ∈ last.outcome.world.nodes.filter fun node =>
      decide (node.type = .character ∨ node.type = .event) :=
    List.mem_filter.2 ⟨inside, decide_eq_true (Or.inr typed)⟩
  rw [filter_cast_nodes nodes] at cast
  obtain ⟨placed, isPlaced, rfl⟩ := List.mem_map.1 cast
  have named : (placed.node config.graph).name = placed.entry.nodeName := rfl
  rw [Placement.type_node, Entry.nodeType] at typed
  rw [named, Entry.nodeName]
  rcases isCast_of_mem isPlaced with category | category
  · rw [category] at typed
    cases typed
  · rw [category]
    change (if placed.entry.name = "" then unnamedEvent else placed.entry.name) ≠ ""
    split
    · decide
    · assumption

/-! ## Declared words -/

omit nodes in
/-- Words lead to nodes of a kind just if entries of a category declare them, where the nodes are
those of the entries. -/
theorem declarer?_ne_none_iff_of_placed {type : NodeType} {category : Category}
    {placed : List Placement}
    (made : last.outcome.world.nodesOf type = placed.map (Placement.node config.graph))
    (given : placed.map Placement.entry =
      (items.map Prod.snd).filter fun entry => decide (entry.category = category))
    {word : String} :
    declarer? last.nodes type word ≠ none ↔
      ∃ entry ∈ items.map Prod.snd, entry.category = category ∧
        word ∈ entry.keywords.map Text.lowercase := by
  constructor
  · intro declared
    obtain ⟨id, found⟩ := Option.ne_none_iff_exists'.1 declared
    obtain ⟨node, member, -, typed, listed⟩ := declarer?_eq_some found
    have inside : node ∈ last.outcome.world.nodesOf type :=
      Snapshot.mem_nodesOf.2 ⟨member, typed⟩
    rw [made] at inside
    obtain ⟨one, isPlaced, rfl⟩ := List.mem_map.1 inside
    have entry := List.mem_map_of_mem (f := Placement.entry) isPlaced
    rw [given, List.mem_filter, decide_eq_true_eq] at entry
    exact ⟨one.entry, entry.1, entry.2, listed⟩
  · rintro ⟨entry, member, isOf, listed⟩
    have isPlaced : entry ∈ placed.map Placement.entry := by
      rw [given]
      exact List.mem_filter.2 ⟨member, decide_eq_true isOf⟩
    obtain ⟨one, inside, rfl⟩ := List.mem_map.1 isPlaced
    have isNode : one.node config.graph ∈ last.outcome.world.nodesOf type := by
      rw [made]
      exact List.mem_map_of_mem inside
    obtain ⟨there, typed⟩ := Snapshot.mem_nodesOf.1 isNode
    exact typed ▸ declarer?_ne_none there listed

theorem declarer?_location_ne_none_iff {word : String} :
    declarer? last.nodes .location word ≠ none ↔
      ∃ entry ∈ items.map Prod.snd, entry.category = .location ∧
        word ∈ entry.keywords.map Text.lowercase :=
  declarer?_ne_none_iff_of_placed (nodesOf_location nodes) map_entry_locationPlacements

theorem declarer?_character_ne_none_iff {word : String} :
    declarer? last.nodes .character word ≠ none ↔
      ∃ entry ∈ items.map Prod.snd, entry.category = .character ∧
        word ∈ entry.keywords.map Text.lowercase :=
  declarer?_ne_none_iff_of_placed (nodesOf_character nodes) map_entry_characterPlacements

/-- The sublocations of the world are those that the entries about locations list. -/
theorem exists_placed_of_room {room : Node} (member : room ∈ last.nodes)
    (typed : room.type = .sublocation) :
    ∃ placed ∈ locationPlacements config total items, room ∈ placed.sublocations config.graph := by
  rw [nodes] at member
  rcases List.mem_append.1 member with places | cast
  · obtain ⟨placed, isPlaced, inside⟩ := List.mem_flatMap.1 places
    rcases List.mem_cons.1 inside with rfl | inside
    · rw [Placement.type_node, Entry.nodeType, nodeType_of_mem_locations isPlaced] at typed
      cases typed
    · exact ⟨placed, isPlaced, inside⟩
  · obtain ⟨placed, isPlaced, rfl⟩ := List.mem_map.1 cast
    rw [Placement.type_node, Entry.nodeType] at typed
    rcases nodeType_of_mem_cast isPlaced with known | known <;> rw [known] at typed <;> cases typed

/-- A word is the name of a sublocation of the world just if an entry about a location lists it. -/
theorem sublocationNamed?_ne_none_iff {word : String} :
    sublocationNamed? last.nodes word ≠ none ↔
      ∃ entry ∈ items.map Prod.snd, entry.category = .location ∧
        word ∈ entry.sublocationNames.map Text.lowercase := by
  constructor
  · intro named
    obtain ⟨ref, found⟩ := Option.ne_none_iff_exists'.1 named
    obtain ⟨room, member, own, same⟩ := sublocationNamed?_eq_some found
    obtain ⟨placedAt, -, rightName⟩ := Node.ref?_eq_some own
    obtain ⟨placed, isPlaced, inside⟩ :=
      exists_placed_of_room nodes member (Node.type_of_parent placedAt)
    have isLocation := isLocation_of_mem isPlaced
    refine ⟨placed.entry, entry_mem_of_mem_locations isPlaced, isLocation, ?_⟩
    rw [← Placement.map_name_sublocations config.graph isLocation, ← same, rightName]
    exact List.mem_map_of_mem (List.mem_map_of_mem inside)
  · rintro ⟨entry, member, isLocation, listed⟩ absent
    have isPlaced : entry ∈
        (locationPlacements config total items).map Placement.entry := by
      rw [map_entry_locationPlacements]
      exact List.mem_filter.2 ⟨member, decide_eq_true isLocation⟩
    obtain ⟨placed, inside, rfl⟩ := List.mem_map.1 isPlaced
    rw [← Placement.map_name_sublocations config.graph isLocation] at listed
    obtain ⟨name, isName, same⟩ := List.mem_map.1 listed
    obtain ⟨room, isRoom, rfl⟩ := List.mem_map.1 isName
    have there : room ∈ last.nodes := by
      rw [nodes]
      exact List.mem_append_left _
        (List.mem_flatMap.2 ⟨placed, inside, List.mem_cons_of_mem _ isRoom⟩)
    obtain ⟨ref, own, named⟩ := Placement.ref?_of_mem_sublocations isRoom
    have known := sublocationNamed?_ne_none there own
    rw [named, same] at known
    exact known absent

end Outcome

end Draft

end Placed

end StoryWorld
