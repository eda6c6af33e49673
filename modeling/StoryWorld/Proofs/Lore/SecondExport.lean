import StoryWorld.Proofs.Lore.CleanedImages
import StoryWorld.Proofs.Lore.ImportedEdges

/-!
# Exporting a world again

The entries of an unambiguous world are imported, and the world that comes out is exported again.
Its entries are about the copies of the same nodes in the same order, and they say the same of
others (`Entry.SameRelations`): the same triggers as a set, and the same spawn table, sublocations
and acquaintances as finite maps.

What is lost on the way is not seen in entries. Edges that say nothing do not come back, several
edges between two nodes come back as one, and the probability of a place without a keyword becomes
the default one.

The main statement is `Reimport.forall₂_sameRelations`.
-/

set_option autoImplicit false

namespace StoryWorld

/-- Two entries of one category say the same of others. -/
structure Entry.SameRelations (entry other : Entry) : Prop where
  category : entry.category = other.category
  triggers : ∀ keyword, keyword ∈ entry.triggers ↔ keyword ∈ other.triggers
  canSpawnAt : Option.Rel Table.Same entry.canSpawnAt other.canSpawnAt
  subLocations : Option.Rel Table.Same entry.subLocations other.subLocations
  knows : Option.Rel Table.Same entry.knows other.knows

namespace Snapshot

/-- Tables that are left out where they are empty are the same, if the tables are. -/
theorem rel_nonempty? {α : Type} {table other : Table String α} (same : table.Same other) :
    Option.Rel Table.Same (nonempty? table) (nonempty? other) := by
  have empty : table.isEmpty = other.isEmpty := by
    have sizes : table.entries.length = other.entries.length := same.size_eq
    rw [Bool.eq_iff_iff, Table.isEmpty, Table.isEmpty, List.isEmpty_iff_length_eq_zero,
      List.isEmpty_iff_length_eq_zero, sizes]
  unfold nonempty?
  rw [empty]
  split
  · exact .none
  · exact .some same

namespace Reimport

variable {world : Snapshot} {config : Config} {last : Draft} (again : world.Reimport config last)

include again

/-! ## Mentions -/

/-- Copies mention the same keywords as their nodes. -/
theorem mentions_copy_iff {kind : NodeType} {type : EdgeType} (bond : Mutual kind type)
    {node : Node} (member : node ∈ world.nodesOf kind) {key : String} :
    last.outcome.world.Mentions kind type (world.renamed node.id) key ↔
      world.Mentions kind type node.id key := by
  constructor
  · rintro ⟨copy, isCopy, joined, known⟩
    obtain ⟨other, isOther, carried⟩ := again.exists_nodeOf isCopy
    rw [carried.id_eq, again.joined_copy_iff bond member isOther] at joined
    exact ⟨other, isOther, joined.1, (carried.firstKeyword_of_mutual bond isOther).symm.trans known⟩
  · rintro ⟨other, isOther, joined, known⟩
    obtain ⟨copy, isCopy, carried⟩ := again.exists_copyOf isOther
    refine ⟨copy, isCopy, ?_, (carried.firstKeyword_of_mutual bond isOther).trans known⟩
    rw [carried.id_eq]
    exact again.joined_copy bond member isOther joined (known ▸ Option.some_ne_none _)

/-! ## Acquaintances -/

/-- An acquaintance of two copies says what the last edge between their nodes says, seen from a node
whose other end has a keyword. -/
theorem seenFrom_copy {first second : Node} (isFirst : first ∈ world.nodesOf .character)
    (isSecond : second ∈ world.nodesOf .character) (keyed : second.firstKeyword ≠ none)
    {edge copy : Edge} (between : world.lastAcquaintance? first.id second.id = some edge)
    (isCopy : copy ∈ last.outcome.world.edgesOf .knows)
    (joins : copy.joins (world.renamed first.id) (world.renamed second.id) = true) :
    copy.seenFrom (world.renamed first.id) = edge.seenFrom first.id := by
  obtain ⟨inside, typed⟩ := mem_edgesOf.1 isCopy
  have once := (Draft.mem_links_iff .knows).1 ⟨again.whole.link_mem inside, typed⟩
  obtain ⟨one, isOne, other, isOther, -, said, found, same⟩ :=
    again.mem_knowsLinks_iff.1 ((linksOnce_sublist _ _).subset once)
  have fromHere : copy.source = world.renamed one.id := congrArg Link.source same
  have toThere : copy.target = world.renamed other.id := congrArg Link.target same
  have kind : copy.kind = (world.acquaintanceLink one other said).kind := congrArg Link.kind same
  have ends := of_decide_eq_true joins
  rw [fromHere, toThere] at ends
  rcases ends with ⟨here, there⟩ | ⟨there, here⟩
  · have firstSame := again.eq_of_renamed isOne isFirst here
    have secondSame := again.eq_of_renamed isOther isSecond there
    subst firstSame secondSame
    rw [between] at found
    cases found
    unfold Edge.seenFrom
    rw [kind]
    simp only [acquaintanceLink, fromHere, if_true]
    rfl
  · have firstSame := again.eq_of_renamed isOther isFirst here
    have secondSame := again.eq_of_renamed isOne isSecond there
    subst firstSame secondSame
    rw [lastAcquaintance?_comm, between] at found
    cases found
    obtain ⟨key, known⟩ := Option.ne_none_iff_exists'.1 keyed
    have joined := isSome_lastAcquaintance?_iff.1 (by rw [between]; rfl)
    obtain ⟨-, -, -, apart⟩ := (again.typed.joinsApart .knows).other_end joined
    have elsewhere : ¬ copy.source = world.renamed other.id := by
      rw [fromHere]
      intro same
      rw [again.eq_of_renamed isOne isOther same] at apart
      exact apart rfl
    rw [Edge.seenFrom, kind]
    simp only [acquaintanceLink, elsewhere, if_false, known, Option.map_some, Option.getD_some]
    rw [Edge.relationship_seenFrom edge one.id other.id]

/-- A character and its copy know the same. -/
theorem acquaintances_copy {node : Node} (member : node ∈ world.nodesOf .character) :
    (Table.ofList (last.outcome.world.acquaintances (world.renamed node.id))).Same
      (.ofList (world.acquaintances node.id)) := by
  intro key
  by_cases mentioned : world.Mentions .character .knows node.id key
  · obtain ⟨other, isOther, joined, known⟩ := mentioned
    obtain ⟨copy, isCopy, carried⟩ := again.exists_copyOf isOther
    have unique : ∀ one ∈ last.outcome.world.nodesOf .character, one.firstKeyword = some key →
        one = copy := by
      intro one isOne same
      obtain ⟨node, isNode, alsoCarried⟩ := again.exists_nodeOf isOne
      rw [alsoCarried.firstKeyword_of_mutual .knows isNode] at same
      have node := again.clear.eq_of_firstKeyword .knows isNode isOther same known
      refine eq_of_id_eq again.valid_copy.nodes_nodup (mem_nodesOf.1 isOne).1
        (mem_nodesOf.1 isCopy).1 ?_
      rw [alsoCarried.id_eq, carried.id_eq, node]
    have found := get?_acquaintances again.valid (again.typed.joinsApart .knows) isOther known
      (fun one isOne same => again.clear.eq_of_firstKeyword .knows isOne isOther same known)
      node.id
    have foundAgain := get?_acquaintances again.valid_copy (again.typed_copy.joinsApart .knows)
      isCopy ((carried.firstKeyword_of_mutual .knows isOther).trans known) unique
      (world.renamed node.id)
    have keyed : other.firstKeyword ≠ none := known ▸ Option.some_ne_none _
    have joinedAgain := again.joined_copy .knows member isOther joined keyed
    rw [← isSome_lastAcquaintance?_iff] at joined joinedAgain
    obtain ⟨edge, between⟩ := Option.isSome_iff_exists.1 joined
    obtain ⟨edgeAgain, betweenAgain⟩ := Option.isSome_iff_exists.1 joinedAgain
    obtain ⟨isEdge, joins⟩ := joins_of_lastAcquaintance? betweenAgain
    rw [found, foundAgain, between, carried.id_eq, betweenAgain, Option.map_some,
      Option.map_some, again.seenFrom_copy member isOther keyed between isEdge joins]
  · have absent : ∀ (known : Snapshot) (id : ElementId), known.Valid → known.Typed →
        ¬ known.Mentions .character .knows id key →
          (Table.ofList (known.acquaintances id)).get? key = none := by
      intro known id valid typed unmentioned
      refine Table.get?_eq_none_iff.2 fun bound => unmentioned ?_
      have listed := Table.mem_keys_ofList.1 bound
      exact ((typed.joinsApart .knows).mem_keys_acquaintances valid).1 listed
    rw [absent _ _ again.valid again.typed mentioned,
      absent _ _ again.valid_copy again.typed_copy
        (fun also => mentioned ((again.mentions_copy_iff .knows member).1 also))]

/-! ## Spawn tables -/

/-- The copy of a place is known by the keyword of the place. -/
theorem keyword?_target {edge copy : Edge} (member : edge ∈ world.edgesOf .spawn)
    (copies : world.SpawnCopy config.graph edge copy.link) :
    last.outcome.world.keyword? copy.target = world.keyword? edge.target := by
  obtain ⟨-, -, place, isPlace, -, toThere, -⟩ := again.typed.spawn_ends member
  obtain ⟨inside, typed⟩ := mem_nodesOf.1 isPlace
  have target : copy.target = world.renamed edge.target := copies.target
  rw [target, ← toThere, again.valid.keyword?_eq inside, again.keyword?_copy inside]
  rw [typed]
  exact NodeType.noConfusion

omit again in
/-- The table has the keyword of the target of each spawn edge. -/
theorem bound_of_keyword? {edge : Edge} (member : edge ∈ world.edgesOf .spawn) {key : String}
    (known : world.keyword? edge.target = some key) :
    ∃ chance, (world.spawnTable edge.source).get? key = some chance := by
  obtain ⟨probability, overrides, -, said⟩ := exists_said_of_keyword? member known
  exact Table.mem_keys_iff.1 (Table.mem_keys_ofList.2
    (List.mem_map_of_mem (mem_spawns.2 ⟨edge, member, rfl, said⟩)))

/-- The edges from a copy say what stands in the spawn table of its node. -/
theorem mem_spawns_copy_iff {node : Node} (isCast : node ∈ world.castNodes)
    (bound : node.isGlobalEvent = false) {spawn : String × Float} :
    spawn ∈ last.outcome.world.spawns (world.renamed node.id) ↔
      (world.spawnTable node.id).get? spawn.1 = some spawn.2 := by
  rw [mem_spawns]
  constructor
  · rintro ⟨copy, isCopy, fromCopy, said⟩
    obtain ⟨edge, member, copies⟩ := again.stem_of_spawnEdge isCopy
    have fromHere : edge.source = node.id := by
      obtain ⟨source, isSource, -, -, from_, -, -⟩ := again.typed.spawn_ends member
      have moved : copy.source = world.renamed edge.source := copies.source
      rw [fromCopy, ← from_] at moved
      rw [← from_, again.valid.renamed_inj (mem_castNodes.1 isCast).1 isSource moved]
    obtain ⟨overrides, kind, found⟩ := copies.kind
    have kind : copy.kind = _ := kind
    rw [fromHere] at kind found
    rcases mem_edgeSpawns.1 said with ⟨others, same, known⟩ | ⟨listed, -⟩
    · rw [again.keyword?_target member copies] at known
      obtain ⟨chance, there⟩ := bound_of_keyword? member known
      rw [fromHere] at there
      rw [kind, known, Option.bind_some, there, Option.getD_some] at same
      rw [there, (EdgeKind.spawn.inj same).1]
    · rw [kind] at listed
      exact ((found _ _).1 (Table.get?_eq_some_iff.2 listed)).1
  · intro there
    obtain ⟨edge, member, fromHere, said⟩ := mem_spawns.1 (Table.mem_of_get?_ofList there)
    obtain ⟨copy, isCopy, copies⟩ :=
      again.exists_spawnEdge isCast bound member fromHere (List.ne_nil_of_mem said)
    refine ⟨copy, isCopy, ?_, mem_edgeSpawns.2 ?_⟩
    · rw [← fromHere]
      exact copies.source
    · obtain ⟨overrides, kind, found⟩ := copies.kind
      have kind : copy.kind = _ := kind
      rw [fromHere] at kind found
      obtain ⟨place, isPlace, toThere, ⟨isKey, -⟩ | ⟨room, isKey, below, -, positive⟩⟩ :=
        again.clear.spawn_cases again.valid again.typed member said
      · have known : world.keyword? edge.target = some spawn.1 := by
          rw [← toThere, again.valid.keyword?_eq (mem_nodesOf.1 isPlace).1, isKey.known]
        rw [known, Option.bind_some, there, Option.getD_some] at kind
        exact Or.inl ⟨overrides, kind, (again.keyword?_target member copies).trans known⟩
      · rw [kind]
        refine Or.inr ⟨Table.get?_eq_some_iff.1 ((found _ _).2 ⟨there, room, isKey, ?_⟩), positive⟩
        rw [below, toThere]

/-- A node and its copy have the same spawn table. -/
theorem spawnTable_copy {node : Node} (isCast : node ∈ world.castNodes)
    (bound : node.isGlobalEvent = false) :
    (world.spawnTable node.id).Same (last.outcome.world.spawnTable (world.renamed node.id)) := by
  have functional : ∀ key first second,
      (key, first) ∈ last.outcome.world.spawns (world.renamed node.id) →
        (key, second) ∈ last.outcome.world.spawns (world.renamed node.id) → first = second := by
    intro key first second isFirst isSecond
    rw [again.mem_spawns_copy_iff isCast bound] at isFirst isSecond
    exact Option.some.inj (isFirst.symm.trans isSecond)
  refine Table.same_of_get?_iff fun key value => ?_
  have found : (last.outcome.world.spawnTable (world.renamed node.id)).get? key = some value ↔
      (key, value) ∈ last.outcome.world.spawns (world.renamed node.id) :=
    Table.get?_ofList_iff functional
  rw [found, again.mem_spawns_copy_iff isCast bound]

/-! ## Sublocations -/

omit again in
/-- A sublocation and its copy are listed alike. -/
theorem listed_copy {room copy : Node} {id : ElementId} (below : room.parent = some id)
    (carried : room.CarriedTo config.graph world.renamed copy) :
    (copy.name, (⟨copy.images.cleaned⟩ : SublocationEntry)) =
      (room.name, ⟨room.images.cleaned⟩) := by
  have other : room.type ≠ .event := by
    rw [Node.type_of_parent below]
    exact NodeType.noConfusion
  rw [carried.name_eq other, carried.images_eq, Images.cleaned_cleaned]

/-- The sublocations of a copy are listed as those of its location. -/
theorem mem_map_sublocationsOf_copy {place : Node} (isPlace : place ∈ world.nodes)
    {listed : String × SublocationEntry} :
    listed ∈ (last.outcome.world.sublocationsOf (world.renamed place.id)).map
        (fun room => (room.name, ⟨room.images.cleaned⟩)) ↔
      listed ∈ (world.sublocationsOf place.id).map
        fun room => (room.name, ⟨room.images.cleaned⟩) := by
  rw [List.mem_map, List.mem_map]
  constructor
  · rintro ⟨copy, isListed, rfl⟩
    obtain ⟨isCopy, belowCopy⟩ := mem_sublocationsOf.1 isListed
    obtain ⟨room, inside, carried⟩ := again.exists_node isCopy
    rw [carried.parent_eq] at belowCopy
    obtain ⟨parent, below, moved⟩ := Option.map_eq_some_iff.1 belowCopy
    obtain ⟨location, isLocation, rfl, -⟩ := again.valid.parents room inside parent below
    have same := again.valid.renamed_inj isLocation isPlace moved
    subst same
    exact ⟨room, mem_sublocationsOf.2 ⟨inside, below⟩, (listed_copy below carried).symm⟩
  · rintro ⟨room, isListed, rfl⟩
    obtain ⟨inside, below⟩ := mem_sublocationsOf.1 isListed
    obtain ⟨copy, isCopy, carried⟩ := again.exists_copy inside
    have belowCopy : copy.parent = some (world.renamed place.id) := by
      rw [carried.parent_eq, below, Option.map_some]
    exact ⟨copy, mem_sublocationsOf.2 ⟨isCopy, belowCopy⟩, listed_copy below carried⟩

/-- A location and its copy list the same sublocations. -/
theorem sublocationTable_copy {place : Node} (isPlace : place ∈ world.nodes) :
    (world.sublocationTable place.id).Same
      (last.outcome.world.sublocationTable (world.renamed place.id)) := by
  refine Table.same_of_get?_iff fun key value => ?_
  rw [sublocationTable, sublocationTable, Table.get?_ofList_iff, Table.get?_ofList_iff,
    again.mem_map_sublocationsOf_copy isPlace]
  · intro key first second isFirst isSecond
    rw [again.mem_map_sublocationsOf_copy isPlace,
      ← again.clear.entries_sublocationTable again.valid, ← Table.get?_eq_some_iff]
      at isFirst isSecond
    exact Option.some.inj (isFirst.symm.trans isSecond)
  · intro key first second isFirst isSecond
    rw [← again.clear.entries_sublocationTable again.valid, ← Table.get?_eq_some_iff]
      at isFirst isSecond
    exact Option.some.inj (isFirst.symm.trans isSecond)

/-! ## Entries -/

/-- The nodes of a kind are copied in order, sublocations apart. -/
theorem copied_nodesOf {type : NodeType} (other : type ≠ .sublocation) :
    world.Copied config (world.nodesOf type) (last.outcome.world.nodesOf type) := by
  rw [← filter_importOrder world other]
  refine List.rel_filter ?_ again.copied
  intro node copy carried
  change decide (node.type = type) = true ↔ decide (copy.type = type) = true
  rw [carried.type_eq]

theorem locationEntry_copy {node copy : Node} (member : node ∈ world.nodesOf .location)
    (carried : node.CarriedTo config.graph world.renamed copy) :
    (world.locationEntry node).SameRelations (last.outcome.world.locationEntry copy) where
  category := rfl
  triggers := fun keyword => by
    rw [again.typed.mem_triggers_locationEntry again.valid,
      again.typed_copy.mem_triggers_locationEntry again.valid_copy, carried.id_eq,
      again.mentions_copy_iff .adjacent member]
  canSpawnAt := .none
  subLocations := by
    have same := again.sublocationTable_copy (mem_nodesOf.1 member).1
    rw [← carried.id_eq] at same
    exact rel_nonempty? same
  knows := .none

theorem characterEntry_copy {node copy : Node} (member : node ∈ world.nodesOf .character)
    (carried : node.CarriedTo config.graph world.renamed copy) :
    (world.characterEntry node).SameRelations (last.outcome.world.characterEntry copy) where
  category := rfl
  triggers := fun keyword => by
    rw [again.typed.mem_triggers_characterEntry again.valid,
      again.typed_copy.mem_triggers_characterEntry again.valid_copy, carried.id_eq,
      again.mentions_copy_iff .knows member]
  canSpawnAt := by
    obtain ⟨inside, typed⟩ := mem_nodesOf.1 member
    have bound : node.isGlobalEvent = false := by
      obtain ⟨disabledFor, kind⟩ := Node.kind_of_character typed
      rw [Node.isGlobalEvent, kind]
    have same := again.spawnTable_copy (mem_castNodes.2 ⟨inside, Or.inl typed⟩) bound
    rw [← carried.id_eq] at same
    exact .some same
  subLocations := .none
  knows := by
    have same := again.acquaintances_copy member
    rw [← carried.id_eq] at same
    exact rel_nonempty? fun key => (same key).symm

theorem eventEntry_copy {node copy : Node} (member : node ∈ world.nodesOf .event)
    (carried : node.CarriedTo config.graph world.renamed copy) :
    (world.eventEntry node).SameRelations (last.outcome.world.eventEntry copy) where
  category := rfl
  triggers := fun keyword => Iff.rfl
  canSpawnAt := by
    obtain ⟨inside, typed⟩ := mem_nodesOf.1 member
    obtain ⟨timeFilter, isGlobal, chance, kind⟩ := Node.kind_of_event typed
    have copyKind : copy.kind = .event timeFilter isGlobal
        (if isGlobal then chance else config.graph.defaultGlobalSpawnChance) := by
      rw [carried, Node.carried_event _ _ _ kind]
    refine .some ?_
    unfold eventSpawnTable
    rw [kind, copyKind]
    cases isGlobal with
    | true => exact fun _ => rfl
    | false =>
      have same := again.spawnTable_copy (mem_castNodes.2 ⟨inside, Or.inr typed⟩)
        (by rw [Node.isGlobalEvent, kind])
      rw [← carried.id_eq] at same
      exact same
  subLocations := .none
  knows := .none

/-- The entries of a world and of its import are related one by one, if those of a node and of its
copy are, kind by kind. -/
theorem forall₂_entries {related : Entry → Entry → Prop}
    (locations : ∀ node ∈ world.nodesOf .location, ∀ copy,
      node.CarriedTo config.graph world.renamed copy →
        related (world.locationEntry node) (last.outcome.world.locationEntry copy))
    (characters : ∀ node ∈ world.nodesOf .character, ∀ copy,
      node.CarriedTo config.graph world.renamed copy →
        related (world.characterEntry node) (last.outcome.world.characterEntry copy))
    (events : ∀ node ∈ world.nodesOf .event, ∀ copy,
      node.CarriedTo config.graph world.renamed copy →
        related (world.eventEntry node) (last.outcome.world.eventEntry copy)) :
    List.Forall₂ related world.entries last.outcome.world.entries := by
  have each : ∀ {type : NodeType} {entryOf : Snapshot → Node → Entry}, type ≠ .sublocation →
      (∀ node ∈ world.nodesOf type, ∀ copy, node.CarriedTo config.graph world.renamed copy →
        related (entryOf world node) (entryOf last.outcome.world copy)) →
      List.Forall₂ related ((world.nodesOf type).map (entryOf world))
        ((last.outcome.world.nodesOf type).map (entryOf last.outcome.world)) := by
    intro type entryOf other same
    rw [List.forall₂_map_left_iff, List.forall₂_map_right_iff]
    refine (forall₂_and_mem (again.copied_nodesOf other)).imp ?_
    exact fun node copy both => same node both.1 copy both.2
  refine List.rel_append (List.rel_append ?_ ?_) ?_
  · exact each NodeType.noConfusion locations
  · exact each NodeType.noConfusion characters
  · exact each NodeType.noConfusion events

/-- **A second export says the same.** The entries of the imported world have the same relations as
the entries that it was imported from, one by one. -/
theorem forall₂_sameRelations :
    List.Forall₂ Entry.SameRelations world.entries last.outcome.world.entries :=
  again.forall₂_entries (fun _ member _ => again.locationEntry_copy member)
    (fun _ member _ => again.characterEntry_copy member)
    fun _ member _ => again.eventEntry_copy member

end Reimport

end Snapshot

end StoryWorld
