import StoryWorld.Proofs.Lore.Resolution

/-!
# What becomes of an edge

An import of the entries of an unambiguous world links copies of nodes that are joined in the world.
A spawn edge that says anything comes back with the probability and the overrides that stand in the
spawn table of its source (`SpawnCopy`, `Reimport.mem_spawnLinks_iff`). Two locations or characters
that are joined mention each other by their first keywords, each if the other one has any
(`Reimport.mem_triggerLinks_iff`, `Reimport.mem_knowsLinks_iff`), and the last edge between two
characters says what either thinks of the other.

Nothing is found on the way (`Reimport.remarks_eq_nil`).
-/

set_option autoImplicit false

namespace StoryWorld

namespace Snapshot

/-- What becomes of a spawn edge. -/
structure SpawnCopy (world : Snapshot) (settings : GraphSettings) (edge : Edge) (link : Link) :
    Prop where
  source : link.source = world.renamed edge.source
  target : link.target = world.renamed edge.target
  kind : ∃ overrides,
    link.kind = .spawn (((world.keyword? edge.target).bind (world.spawnTable edge.source).get?).getD
        settings.defaultSpawnProbability) overrides ∧
      ∀ name value, overrides.get? name = some value ↔
        (world.spawnTable edge.source).get? name = some value ∧
          ∃ room, world.RoomKey room name ∧ room.parent = some edge.target

/-- What becomes of the last edge between two characters, when the first one tells of it: the
thoughts of the second one are found under the keyword of the first. -/
def acquaintanceLink (world : Snapshot) (first second : Node) (edge : Edge) : Link where
  source := world.renamed first.id
  target := world.renamed second.id
  kind := .knows (edge.seenFrom first.id).relationship (edge.seenFrom first.id).thoughts
    ((first.firstKeyword.map fun _ => (edge.seenFrom second.id).thoughts).getD "")

namespace Reimport

variable {world : Snapshot} {config : Config} {last : Draft} (again : world.Reimport config last)

include again

/-! ## The entries with the identities of their nodes -/

theorem map_member_locations :
    (locationPlacements config world.entries.length world.items).map Placement.member =
      (world.nodesOf .location).map fun node =>
        (world.renamed node.id, world.locationEntry node) := by
  refine map_eq_of_forall₂ (again.clear.aligned_locations again.valid config) ?_
  intro node member placed aligned
  rw [Placement.member, aligned.own again.valid rfl (mem_nodesOf.1 member).2.symm, aligned.1]

theorem castMembers_eq :
    Draft.castMembers (castPlacements config world.entries.length world.items) =
      (world.nodesOf .character).map fun node =>
        (world.renamed node.id, world.characterEntry node) := by
  have chosen : world.nodesOf .character =
      world.castNodes.filter fun node => decide (node.type = .character) := by
    have characters : (world.nodesOf .character).filter
        (fun node => decide (node.type = .character)) = world.nodesOf .character :=
      List.filter_eq_self.2 fun node member => decide_eq_true (mem_nodesOf.1 member).2
    have events : (world.nodesOf .event).filter
        (fun node => decide (node.type = .character)) = [] := by
      refine List.filter_eq_nil_iff.2 fun node member typed => ?_
      rw [(mem_nodesOf.1 member).2] at typed
      exact NodeType.noConfusion (of_decide_eq_true typed)
    rw [castNodes, List.filter_append, characters, events, List.append_nil]
  have aligned := forall₂_and_mem (again.clear.aligned_cast again.valid config)
  rw [chosen, Draft.castMembers]
  refine map_eq_of_forall₂ (List.rel_filter ?_ aligned) ?_
  · rintro node placed ⟨isCast, aligned⟩
    change decide (node.type = .character) = true ↔
      decide (placed.entry.category = .character) = true
    rw [aligned.1, category_castEntry]
    rcases (mem_castNodes.1 isCast).2 with type | type <;> simp [type]
  · rintro node member placed ⟨isCast, aligned⟩
    have typed := of_decide_eq_true (List.mem_filter.1 member).2
    rw [Placement.member, aligned.own again.valid rfl (nodeType_castEntry isCast), aligned.1,
      castEntry, if_pos typed]

/-- The characters and events of a world, with the placements of their entries. -/
theorem exists_placed {node : Node} (member : node ∈ world.castNodes) :
    ∃ placed ∈ castPlacements config world.entries.length world.items,
      placed.entry = world.castEntry node ∧ placed.id = world.renamed node.id := by
  have aligned := forall₂_and_mem (again.clear.aligned_cast again.valid config)
  obtain ⟨placed, inside, isCast, here⟩ := exists_right_of_forall₂ aligned member
  exact ⟨placed, inside, here.1, here.own again.valid rfl (nodeType_castEntry isCast)⟩

theorem exists_cast {placed : Placement}
    (member : placed ∈ castPlacements config world.entries.length world.items) :
    ∃ node ∈ world.castNodes,
      placed.entry = world.castEntry node ∧ placed.id = world.renamed node.id := by
  have aligned := forall₂_and_mem (again.clear.aligned_cast again.valid config)
  obtain ⟨node, inside, isCast, here⟩ := exists_left_of_forall₂ aligned member
  exact ⟨node, inside, here.1, here.own again.valid rfl (nodeType_castEntry isCast)⟩

/-! ## Spawn edges -/

/-- The link that the target of a spawn edge gets from the table of its source is what becomes of
the edge. -/
theorem spawnCopy {edge : Edge} (member : edge ∈ world.edgesOf .spawn) :
    world.SpawnCopy config.graph edge
      ⟨world.renamed edge.source, world.renamed edge.target,
        .spawn
          (Draft.chanceAt config.graph last (world.spawnTable edge.source).entries
            (world.renamed edge.target))
          (.ofList (last.overridesAt (world.spawnTable edge.source).entries
            (world.renamed edge.target)))⟩ where
  source := rfl
  target := rfl
  kind := by
    obtain ⟨-, -, place, isPlace, -, toThere, -⟩ := again.typed.spawn_ends member
    rw [← toThere, again.chanceAt_eq _ isPlace, again.valid.keyword?_eq (mem_nodesOf.1 isPlace).1]
    exact ⟨_, rfl, fun name value => again.get?_overridesAt_iff isPlace⟩

/-- The links of the spawn tables are those from the sources of spawn edges to what the tables lead
to. -/
theorem mem_spawnLinks_iff {link : Link} :
    link ∈ (castPlacements config world.entries.length world.items).flatMap
        (Placement.spawnLinks config.graph last) ↔
      ∃ node ∈ world.castNodes, node.isGlobalEvent = false ∧
        ∃ home ∈ last.homes (world.spawnTable node.id).entries,
          link = ⟨world.renamed node.id, home,
            .spawn (Draft.chanceAt config.graph last (world.spawnTable node.id).entries home)
              (.ofList (last.overridesAt (world.spawnTable node.id).entries home))⟩ := by
  have links : ∀ (placed : Placement) (node : Node), node ∈ world.castNodes →
      placed.entry = world.castEntry node → placed.id = world.renamed node.id →
      (link ∈ placed.spawnLinks config.graph last ↔ node.isGlobalEvent = false ∧
        ∃ home ∈ last.homes (world.spawnTable node.id).entries,
          link = ⟨world.renamed node.id, home,
            .spawn (Draft.chanceAt config.graph last (world.spawnTable node.id).entries home)
              (.ofList (last.overridesAt (world.spawnTable node.id).entries home))⟩) := by
    intro placed node isCast entry own
    rw [Placement.spawnLinks, entry,
      again.clear.isAnywhere_castEntry again.valid again.typed isCast]
    cases bound : node.isGlobalEvent with
    | true => simp
    | false =>
      rw [spawnTable_castEntry bound, Draft.entries_spawnTargets, own]
      simp [eq_comm]
  rw [List.mem_flatMap]
  constructor
  · rintro ⟨placed, listed, inside⟩
    obtain ⟨node, isCast, entry, own⟩ := again.exists_cast listed
    exact ⟨node, isCast, (links placed node isCast entry own).1 inside⟩
  · rintro ⟨node, isCast, inside⟩
    obtain ⟨placed, listed, entry, own⟩ := again.exists_placed isCast
    exact ⟨placed, listed, (links placed node isCast entry own).2 inside⟩

/-- Every link of a spawn table is what becomes of a spawn edge. -/
theorem stem_of_spawnLink {link : Link}
    (member : link ∈ (castPlacements config world.entries.length world.items).flatMap
      (Placement.spawnLinks config.graph last)) :
    ∃ edge ∈ world.edgesOf .spawn, world.SpawnCopy config.graph edge link := by
  obtain ⟨node, isCast, -, home, listed, rfl⟩ := again.mem_spawnLinks_iff.1 member
  obtain ⟨edge, inside, fromHere, -, rfl⟩ := again.mem_homes_iff.1 listed
  rw [← fromHere]
  exact ⟨edge, inside, again.spawnCopy inside⟩

/-- Every spawn edge that says anything comes back, unless its source is a global event. -/
theorem exists_spawnLink {node : Node} (isCast : node ∈ world.castNodes)
    (bound : node.isGlobalEvent = false) {edge : Edge} (member : edge ∈ world.edgesOf .spawn)
    (fromHere : edge.source = node.id) (something : world.edgeSpawns edge ≠ []) :
    ∃ link ∈ (castPlacements config world.entries.length world.items).flatMap
        (Placement.spawnLinks config.graph last),
      world.SpawnCopy config.graph edge link := by
  have listed := again.mem_homes_iff.2 ⟨edge, member, fromHere, something, rfl⟩
  refine ⟨_, again.mem_spawnLinks_iff.2 ⟨node, isCast, bound, _, listed, rfl⟩, ?_⟩
  rw [← fromHere]
  exact again.spawnCopy member

/-! ## Adjacency -/

/-- A trigger links the copies of two locations that are adjacent, if the second one has a
keyword. -/
theorem mem_triggerLinks_iff {link : Link} :
    link ∈ Draft.linked (last.triggerReferences config world.entries.length world.items) ↔
      ∃ first ∈ world.nodesOf .location, ∃ second ∈ world.nodesOf .location,
        world.Joined .adjacent first.id second.id ∧ second.firstKeyword ≠ none ∧
          link = ⟨world.renamed first.id, world.renamed second.id, .adjacent⟩ := by
  rw [Draft.mem_linked, Draft.triggerReferences, Draft.mem_adjacencyReferences,
    again.map_member_locations]
  constructor
  · rintro ⟨member, listed, trigger, mentioned, target, found, rfl⟩
    obtain ⟨first, isFirst, rfl⟩ := List.mem_map.1 listed
    obtain ⟨second, isSecond, joined, known⟩ :=
      (again.typed.mem_triggers_locationEntry again.valid).1 mentioned
    have leads := again.namedLocation?_of_placeKey ⟨isSecond, known⟩
    rw [Draft.namedLocation?, found] at leads
    cases leads
    exact ⟨first, isFirst, second, isSecond, joined, known ▸ Option.some_ne_none _, rfl⟩
  · rintro ⟨first, isFirst, second, isSecond, joined, keyed, rfl⟩
    obtain ⟨key, known⟩ := Option.ne_none_iff_exists'.1 keyed
    exact ⟨_, List.mem_map_of_mem isFirst, key,
      (again.typed.mem_triggers_locationEntry again.valid).2 ⟨second, isSecond, joined, known⟩, _,
      again.namedLocation?_of_placeKey ⟨isSecond, known⟩, rfl⟩

/-! ## Acquaintance -/

/-- The first keyword of a character leads to its copy. -/
theorem characters_get?_of_firstKeyword {node : Node} (member : node ∈ world.nodesOf .character)
    {key : String} (known : node.firstKeyword = some key) :
    last.characters.get? (Text.lowercase key) = some (world.renamed node.id) :=
  again.characters_get?_iff.2 ⟨node, member, Node.lowercase_mem_of_firstKeyword known, rfl⟩

/-- What a character thinks of another one is what the last edge between them says, if the other
one has a keyword at all. -/
theorem thoughtsAbout_eq {first second : Node} (isFirst : first ∈ world.nodesOf .character)
    {edge : Edge} (between : world.lastAcquaintance? second.id first.id = some edge) :
    last.thoughtsAbout (world.characterEntry second) (world.renamed first.id) =
      first.firstKeyword.map fun _ => (edge.seenFrom second.id).thoughts := by
  have table : (world.characterEntry second).knows.getD .empty =
      Table.ofList (world.acquaintances second.id) :=
    getD_nonempty? _
  have leads : ∀ known ∈ (Table.ofList (world.acquaintances second.id)).entries,
      last.characters.get? (Text.lowercase known.1) = some (world.renamed first.id) →
        first.firstKeyword = some known.1 := by
    intro known listed found
    obtain ⟨other, isOther, keyed, -⟩ :=
      (again.clear.mem_acquaintances_iff again.valid again.typed).1 listed
    rw [again.characters_get?_of_firstKeyword isOther keyed] at found
    rw [← again.valid.renamed_inj (mem_nodesOf.1 isOther).1 (mem_nodesOf.1 isFirst).1
      (Option.some.inj found), keyed]
  rw [Draft.thoughtsAbout, table]
  cases chosen : (Table.ofList (world.acquaintances second.id)).entries.find? fun known =>
      decide (last.characters.get? (Text.lowercase known.1) = some (world.renamed first.id)) with
  | none =>
    cases keyed : first.firstKeyword with
    | none => rfl
    | some key =>
      have listed : (key, edge.seenFrom second.id) ∈
          (Table.ofList (world.acquaintances second.id)).entries :=
        (again.clear.mem_acquaintances_iff again.valid again.typed).2
          ⟨first, isFirst, keyed, edge, between, rfl⟩
      have absent := List.find?_eq_none.1 chosen _ listed
      exact absurd (decide_eq_true (again.characters_get?_of_firstKeyword isFirst keyed)) absent
  | some known =>
    have listed := List.mem_of_find?_eq_some chosen
    have keyed := leads known listed (by simpa using List.find?_some chosen)
    obtain ⟨other, isOther, otherKeyed, last, found, said⟩ :=
      (again.clear.mem_acquaintances_iff again.valid again.typed).1 listed
    rw [again.clear.eq_of_firstKeyword .knows isOther isFirst otherKeyed keyed, between] at found
    cases found
    rw [keyed, Option.map_some, Option.map_some, said]


/-- The character of an entry is found again among the characters. -/
theorem thoughtsBack_eq {first second : Node} (isFirst : first ∈ world.nodesOf .character)
    (isSecond : second ∈ world.nodesOf .character) {edge : Edge}
    (between : world.lastAcquaintance? first.id second.id = some edge) :
    last.thoughtsBack
        ((world.nodesOf .character).map fun node =>
          (world.renamed node.id, world.characterEntry node))
        (world.renamed first.id) (world.renamed second.id) =
      (first.firstKeyword.map fun _ => (edge.seenFrom second.id).thoughts).getD "" := by
  have found : (world.nodesOf .character).find?
      (fun node => decide (world.renamed node.id = world.renamed second.id)) = some second := by
    cases chosen : (world.nodesOf .character).find?
        fun node => decide (world.renamed node.id = world.renamed second.id) with
    | none => exact absurd (decide_eq_true rfl) (List.find?_eq_none.1 chosen second isSecond)
    | some node =>
      have isNode := List.mem_of_find?_eq_some chosen
      have same : world.renamed node.id = world.renamed second.id := by
        simpa using List.find?_some chosen
      rw [again.valid.renamed_inj (mem_nodesOf.1 isNode).1 (mem_nodesOf.1 isSecond).1 same]
  rw [lastAcquaintance?_comm] at between
  rw [Draft.thoughtsBack, List.find?_map]
  change (((Option.map _ ((world.nodesOf .character).find? fun node =>
    decide (world.renamed node.id = world.renamed second.id))).map Prod.snd).bind _).getD "" = _
  rw [found, Option.map_some, Option.map_some, Option.bind_some,
    again.thoughtsAbout_eq isFirst between]

/-- What a character knows links its copy to those of the characters it is joined with, if they have
a keyword. -/
theorem mem_knowsLinks_iff {link : Link} :
    link ∈ Draft.linked (last.knowsReferences config world.entries.length world.items) ↔
      ∃ first ∈ world.nodesOf .character, ∃ second ∈ world.nodesOf .character,
        second.firstKeyword ≠ none ∧
          ∃ edge, world.lastAcquaintance? first.id second.id = some edge ∧
            link = world.acquaintanceLink first second edge := by
  rw [Draft.mem_linked, Draft.knowsReferences, Draft.mem_acquaintanceReferences,
    again.castMembers_eq]
  have table : ∀ node : Node, (world.characterEntry node).knows.getD .empty =
      Table.ofList (world.acquaintances node.id) := fun node => getD_nonempty? _
  constructor
  · rintro ⟨member, listed, known, said, other, found, rfl⟩
    obtain ⟨first, isFirst, rfl⟩ := List.mem_map.1 listed
    rw [table] at said
    obtain ⟨second, isSecond, keyed, edge, between, value⟩ :=
      (again.clear.mem_acquaintances_iff again.valid again.typed).1 said
    rw [again.characters_get?_of_firstKeyword isSecond keyed] at found
    cases found
    refine ⟨first, isFirst, second, isSecond, keyed ▸ Option.some_ne_none _, edge, between, ?_⟩
    rw [acquaintanceLink, again.thoughtsBack_eq isFirst isSecond between, value]
  · rintro ⟨first, isFirst, second, isSecond, something, edge, between, rfl⟩
    obtain ⟨key, keyed⟩ := Option.ne_none_iff_exists'.1 something
    refine ⟨_, List.mem_map_of_mem isFirst, (key, edge.seenFrom first.id), ?_, _,
      again.characters_get?_of_firstKeyword isSecond keyed, ?_⟩
    · rw [table]
      exact (again.clear.mem_acquaintances_iff again.valid again.typed).2
        ⟨second, isSecond, keyed, edge, between, rfl⟩
    · rw [acquaintanceLink, again.thoughtsBack_eq isFirst isSecond between]

/-! ## Nothing is found -/

omit again in
/-- Keywords that lead to their own node collide with nothing. -/
theorem keywordCollisions_eq_nil {scope : NodeType} {names : Table String ElementId}
    {id : ElementId} {keywords : List String}
    (own : ∀ keyword ∈ keywords, names.get? (Text.lowercase keyword) = some id) :
    Draft.keywordCollisions scope names id keywords = [] := by
  refine List.filterMap_eq_nil_iff.2 fun keyword member => ?_
  rw [own keyword member]
  exact if_pos rfl

/-- No node collides with another one. -/
theorem collisionsOf_eq_nil {copy : Node} (member : copy ∈ last.nodes) :
    last.collisionsOf copy = [] := by
  obtain ⟨node, inside, carried⟩ := again.exists_node member
  have typed : node.type = copy.kind.type := carried.type_eq.symm
  unfold Draft.collisionsOf
  split
  · rename_i kind
    rw [kind] at typed
    refine keywordCollisions_eq_nil fun keyword known => again.locations_get?_iff.2 ?_
    rw [carried.keywords_eq (by rw [typed]; exact NodeType.noConfusion)] at known
    exact ⟨node, mem_nodesOf.2 ⟨inside, typed⟩, List.mem_map_of_mem known, carried.id_eq⟩
  · rename_i kind
    rw [kind] at typed
    refine keywordCollisions_eq_nil fun keyword known => again.characters_get?_iff.2 ?_
    rw [carried.keywords_eq (by rw [typed]; exact NodeType.noConfusion)] at known
    exact ⟨node, mem_nodesOf.2 ⟨inside, typed⟩, List.mem_map_of_mem known, carried.id_eq⟩
  · rfl
  · rename_i kind
    rw [kind] at typed
    obtain ⟨parent, below⟩ := Node.parent_of_type typed
    rw [carried.name_eq (by rw [typed]; exact NodeType.noConfusion),
      again.sublocations_get?_of_mem inside below]
    exact if_pos carried.id_eq.symm

/-- No key of a spawn table is lost. -/
theorem lostSpawns_eq_nil {placed : Placement}
    (member : placed ∈ castPlacements config world.entries.length world.items) :
    placed.lostSpawns config.graph last = [] := by
  obtain ⟨node, isCast, entry, -⟩ := again.exists_cast member
  rw [Placement.lostSpawns, entry,
    again.clear.isAnywhere_castEntry again.valid again.typed isCast]
  cases bound : node.isGlobalEvent with
  | true => rfl
  | false =>
    rw [spawnTable_castEntry bound, Draft.unresolved_spawnTargets, List.filter_eq_nil_iff.2]
    · rfl
    · intro spawn listed absent
      exact again.home?_ne_none listed (of_decide_eq_true absent)

omit again in
/-- Nothing is lost where every reference links two nodes. -/
theorem lost_eq_nil {references : List Reference}
    (told : ∀ finding, .inl finding ∉ references) : Draft.lost references = [] := by
  refine List.filterMap_eq_nil_iff.2 fun reference member => ?_
  cases reference with
  | inl finding => exact absurd member (told finding)
  | inr link => rfl

theorem lost_triggers_eq_nil :
    Draft.lost (last.triggerReferences config world.entries.length world.items) = [] := by
  refine lost_eq_nil fun finding inside => ?_
  rw [Draft.triggerReferences, again.map_member_locations] at inside
  obtain ⟨member, listed, mentioned⟩ := List.mem_flatMap.1 inside
  obtain ⟨first, -, rfl⟩ := List.mem_map.1 listed
  obtain ⟨trigger, said, reference⟩ := List.mem_map.1 mentioned
  obtain ⟨second, isSecond, -, known⟩ :=
    (again.typed.mem_triggers_locationEntry again.valid).1 said
  have leads := again.namedLocation?_of_placeKey ⟨isSecond, known⟩
  rw [Draft.namedLocation?] at leads
  rw [Draft.adjacencyReference, leads] at reference
  cases reference

theorem lost_knows_eq_nil :
    Draft.lost (last.knowsReferences config world.entries.length world.items) = [] := by
  refine lost_eq_nil fun finding inside => ?_
  rw [Draft.knowsReferences, again.castMembers_eq] at inside
  obtain ⟨member, listed, mentioned⟩ := List.mem_flatMap.1 inside
  obtain ⟨first, -, rfl⟩ := List.mem_map.1 listed
  obtain ⟨known, said, reference⟩ := List.mem_map.1 mentioned
  have table : (world.characterEntry first).knows.getD .empty =
      Table.ofList (world.acquaintances first.id) :=
    getD_nonempty? _
  rw [table] at said
  obtain ⟨second, isSecond, keyed, -⟩ :=
    (again.clear.mem_acquaintances_iff again.valid again.typed).1 said
  rw [Draft.acquaintanceReference, again.characters_get?_of_firstKeyword isSecond keyed]
    at reference
  cases reference

/-- **Nothing is found** when the entries of an unambiguous world are imported. -/
theorem remarks_eq_nil : last.remarks config world.entries.length world.items = [] := by
  have unknown : world.items.filterMap Draft.unknownCategory? = [] := by
    refine List.filterMap_eq_nil_iff.2 fun item member => ?_
    have inside : item.2 ∈ world.entries := by
      rw [← world.map_snd_items]
      exact List.mem_map_of_mem member
    rw [entries_eq] at inside
    unfold Draft.unknownCategory?
    rcases List.mem_append.1 inside with place | cast
    · obtain ⟨node, -, same⟩ := List.mem_map.1 place
      rw [← same]
      rfl
    · obtain ⟨node, -, same⟩ := List.mem_map.1 cast
      rcases world.isCast_castEntry node with category | category <;> rw [← same, category]
  have nodes := again.whole.nodes
  have locations : ((locationPlacements config world.entries.length world.items).flatMap
      (Placement.nodes config.graph)).flatMap last.collisionsOf = [] := by
    refine List.flatMap_eq_nil_iff.2 fun node member => again.collisionsOf_eq_nil ?_
    rw [nodes]
    exact List.mem_append_left _ member
  have cast : ((castPlacements config world.entries.length world.items).flatMap fun one =>
      last.collisionsOf (one.node config.graph) ++ one.lostSpawns config.graph last) = [] := by
    refine List.flatMap_eq_nil_iff.2 fun placed member => ?_
    rw [again.collisionsOf_eq_nil (again.whole.node_mem member), again.lostSpawns_eq_nil member]
    rfl
  rw [Draft.remarks, unknown, locations, cast, again.lost_triggers_eq_nil,
    again.lost_knows_eq_nil]
  rfl

end Reimport

end Snapshot

end StoryWorld
