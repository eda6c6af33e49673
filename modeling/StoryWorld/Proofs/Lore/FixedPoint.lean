import StoryWorld.Proofs.Lore.ImportedWords
import StoryWorld.Proofs.Lore.OutcomeOrder
import StoryWorld.Proofs.Lore.SecondExport
import StoryWorld.Proofs.Lore.SettledWorlds

/-!
# Round trips come to rest

The entries of an unambiguous world are imported. The world that comes out is settled
(`Reimport.settled`): its nodes are copies, which are plain, and stand in import order; its edges
stand kind by kind; its spawn edges are those of the spawn tables, so that each of them says
something; and an edge without direction was made by the first of its ends that mentions the other.

An import of any entries whose words do not collide is such a world to begin with. So the first
round trip may change a lorebook, and the second one may still put triggers and acquaintances in
another order, but no further one changes anything (`importEntries_settles`).
-/

set_option autoImplicit false

namespace StoryWorld

/-- What an import makes of a node is plain. -/
theorem Node.CarriedTo.plain {settings : GraphSettings} {rename : ElementId → ElementId}
    {node copy : Node} (carried : node.CarriedTo settings rename copy) : copy.Plain settings := by
  have named : unnamedEvent ≠ "" := by decide
  cases kind : node.kind with
  | location =>
    rw [carried.trans (Node.carried_location _ _ _ kind)]
    constructor <;> simp [Images.cleaned_cleaned, Node.type, NodeKind.type]
  | character disabledFor =>
    rw [carried.trans (Node.carried_character _ _ _ kind)]
    constructor <;> simp [Images.cleaned_cleaned, Node.type, NodeKind.type]
  | event timeFilter isGlobal chance =>
    rw [carried.trans (Node.carried_event _ _ _ kind)]
    constructor <;> simp [Images.cleaned_cleaned, Node.type, NodeKind.type]
    · split <;> assumption
    · rintro rfl same
      cases same
  | sublocation parent =>
    rw [carried.trans (Node.carried_sublocation _ _ _ kind)]
    constructor <;> simp [Images.cleaned_cleaned, Node.blank, Node.type, NodeKind.type]

/-- Placements are about the category of the entries that they come of. -/
theorem category_of_map_entry {placed : List Placement} {nodes : List Node} {category : Category}
    {entryOf : Node → Entry} (made : placed.map Placement.entry = nodes.map entryOf)
    (own : ∀ node, (entryOf node).category = category) :
    ∀ one ∈ placed, one.entry.category = category := by
  intro one member
  have entry := List.mem_map_of_mem (f := Placement.entry) member
  rw [made] at entry
  obtain ⟨node, -, same⟩ := List.mem_map.1 entry
  rw [← same]
  exact own node

namespace Snapshot

namespace Reimport

variable {world : Snapshot} {config : Config} {last : Draft} (again : world.Reimport config last)

include again

/-! ## The order of the nodes -/

/-- The characters and events of the imported world are those of the entries, in order. -/
theorem castNodes_copy :
    last.outcome.world.castNodes =
      (castPlacements config world.entries.length world.items).map
        (Placement.node config.graph) := by
  have given : (castPlacements config world.entries.length world.items).map Placement.entry =
      world.castNodes.map world.castEntry := by
    rw [castPlacements, map_entry_placements, world.map_snd_castItems]
  rw [map_castEntry] at given
  obtain ⟨characters, events, split, ofCharacters, ofEvents⟩ := List.map_eq_append_iff.1 given
  have isCharacter : ∀ placed ∈ characters, placed.entry.category = .character :=
    category_of_map_entry ofCharacters fun _ => rfl
  have isEvent : ∀ placed ∈ events, placed.entry.category = .event :=
    category_of_map_entry ofEvents fun _ => rfl
  have first : (characters ++ events).filter
      (fun placed => decide (placed.entry.category = .character)) = characters := by
    rw [List.filter_append, List.filter_eq_self.2, List.filter_eq_nil_iff.2, List.append_nil]
    · intro placed member
      simp [isEvent placed member]
    · exact fun placed member => decide_eq_true (isCharacter placed member)
  have second : (characters ++ events).filter
      (fun placed => decide (placed.entry.category = .event)) = events := by
    rw [List.filter_append, List.filter_eq_nil_iff.2, List.filter_eq_self.2, List.nil_append]
    · exact fun placed member => decide_eq_true (isEvent placed member)
    · intro placed member
      simp [isCharacter placed member]
  rw [castNodes, Draft.nodesOf_character again.whole.nodes,
    Draft.nodesOf_event again.whole.nodes, split, first, second, List.map_append]

/-- The imported world is in import order. -/
theorem importOrder_copy : last.outcome.world.importOrder = last.outcome.world.nodes := by
  rw [importOrder, again.whole.flatMap_family, again.castNodes_copy]
  exact again.whole.nodes.symm

/-! ## Spawn edges -/

/-- What a spawn table has under the name of a sublocation is greater than zero. -/
theorem pos_of_roomKey {id : ElementId} {room : Node} {key : String} {value : Float}
    (there : (world.spawnTable id).get? key = some value) (isRoom : world.RoomKey room key) :
    0 < value := by
  obtain ⟨edge, member, -, said⟩ := mem_spawns.1 (Table.mem_of_get?_ofList there)
  obtain ⟨place, -, -, ⟨isPlace, -⟩ | ⟨_, -, -, -, positive⟩⟩ :=
    again.clear.spawn_cases again.valid again.typed member said
  · exact absurd isRoom isPlace.not_roomKey
  · exact positive

/-- A spawn edge of the imported world is what becomes of one that says something. -/
theorem exists_stem_of_spawnEdge {copy : Edge} (isCopy : copy ∈ last.outcome.world.edgesOf .spawn) :
    ∃ edge ∈ world.edgesOf .spawn, world.edgeSpawns edge ≠ [] ∧
      world.SpawnCopy config.graph edge copy.link := by
  obtain ⟨node, isCast, -, home, listed, same⟩ :=
    again.mem_spawnLinks_iff.1 (again.mem_spawnEdges_iff.1 ⟨copy, isCopy, rfl⟩)
  obtain ⟨edge, inside, fromHere, something, rfl⟩ := again.mem_homes_iff.1 listed
  rw [← fromHere] at same
  exact ⟨edge, inside, something, same ▸ again.spawnCopy inside⟩

/-- The spawn edges of the imported world say something, and nothing that entries cannot say. -/
theorem spoken_copy {copy : Edge} (isCopy : copy ∈ last.outcome.world.edgesOf .spawn) :
    last.outcome.world.Spoken config.graph copy := by
  obtain ⟨edge, member, something, copies⟩ := again.exists_stem_of_spawnEdge isCopy
  obtain ⟨overrides, kind, found⟩ := copies.kind
  have kind : copy.kind = _ := kind
  have keyword := again.keyword?_target member copies
  constructor
  case speaks =>
    obtain ⟨spawn, said⟩ := List.exists_mem_of_ne_nil _ something
    obtain ⟨place, isPlace, toThere, ⟨isKey, -⟩ | ⟨room, isKey, below, -⟩⟩ :=
      again.clear.spawn_cases again.valid again.typed member said
    · rw [← toThere, again.valid.keyword?_eq (mem_nodesOf.1 isPlace).1, isKey.known] at keyword
      obtain ⟨_, _, -, saidAgain⟩ := exists_said_of_keyword? isCopy keyword
      exact List.ne_nil_of_mem saidAgain
    · have bound : spawn.1 ∈ (world.spawnTable edge.source).keys := Table.mem_keys_ofList.2
        (List.mem_map_of_mem (mem_spawns.2 ⟨edge, member, rfl, said⟩))
      obtain ⟨value, there⟩ := Table.mem_keys_iff.1 bound
      rw [toThere] at below
      have listed : (spawn.1, value) ∈ copy.kind.overrides.entries := by
        rw [kind]
        exact Table.get?_eq_some_iff.1 ((found _ _).2 ⟨there, room, isKey, below⟩)
      have positive := again.pos_of_roomKey there isKey
      exact List.ne_nil_of_mem (mem_edgeSpawns.2 (Or.inr ⟨listed, positive⟩))
  case positive =>
    intro override listed
    rw [kind] at listed
    obtain ⟨there, room, isKey, -⟩ := (found _ _).1 (Table.get?_eq_some_iff.2 listed)
    exact again.pos_of_roomKey there isKey
  case standard =>
    intro unknown
    rw [keyword] at unknown
    rw [kind, unknown]
    rfl

/-- The spawn edges of the imported world come in the order of the characters and events. -/
theorem grouped_spawns :
    Grouped last.outcome.world.castNodes (last.outcome.world.edgesOf .spawn) := by
  have among : ((last.outcome.world.edgesOf .spawn).map Edge.link).Sublist
      ((castPlacements config world.entries.length world.items).flatMap
        (Placement.spawnLinks config.graph last)) := by
    rw [again.whole.map_link_spawns]
  rw [Grouped, again.castNodes_copy, List.flatMap_map]
  exact flatMap_filter_of_sublist Link.source again.whole.nodup_cast
    (fun placed _ link member => Draft.source_of_mem_spawnLinks member) among

/-! ## Edges without direction -/

theorem arranged_copy {kind : NodeType} {type : EdgeType} (bond : Mutual kind type) :
    last.outcome.world.Arranged kind type where
  grouped := again.whole.flatMap_filter_mutual bond
  keyed := by
    intro edge member
    obtain ⟨-, -, second, isSecond, -, keyed, -, toThere⟩ := again.stem_of_edge bond member
    obtain ⟨inside, typed⟩ := mem_nodesOf.1 isSecond
    rw [toThere, again.keyword?_copy inside (typed ▸ bond.ne_sublocation)]
    exact keyed
  earlier := by
    intro before node after split edge member toHere known
    obtain ⟨first, isFirst, second, isSecond, joined, -, fromHere, toThere⟩ :=
      again.stem_of_edge bond member
    obtain ⟨inside, typed⟩ := mem_nodesOf.1 isFirst
    rw [fromHere, again.keyword?_copy inside (typed ▸ bond.ne_sublocation)] at known
    obtain ⟨link, mentioned, fromSecond, toFirst⟩ :=
      again.exists_mention bond isSecond isFirst joined.symm known
    exact again.whole.exists_before_of_mention bond split member toHere mentioned
      (fromSecond.trans (toThere.symm.trans toHere)) (toFirst.trans fromHere.symm)

/-- What nobody can say is not said: the thoughts of a character about one without a keyword. -/
theorem thoughts_eq_of_keyword?_source {edge : Edge}
    (member : edge ∈ last.outcome.world.edgesOf .knows)
    (unknown : last.outcome.world.keyword? edge.source = none) :
    (edge.seenFrom edge.target).thoughts = "" := by
  obtain ⟨inside, typed⟩ := mem_edgesOf.1 member
  have once := (Draft.mem_links_iff .knows).1 ⟨again.whole.link_mem inside, typed⟩
  obtain ⟨first, isFirst, second, -, -, said, -, same⟩ :=
    again.mem_knowsLinks_iff.1 ((linksOnce_sublist _ _).subset once)
  obtain ⟨-, -, -, -, -, -, differ⟩ := again.typed_copy.joinsApart .knows _ member
  have fromHere : edge.source = world.renamed first.id := congrArg Link.source same
  have kind : edge.kind = (world.acquaintanceLink first second said).kind := congrArg Link.kind same
  obtain ⟨isNode, character⟩ := mem_nodesOf.1 isFirst
  rw [fromHere, again.keyword?_copy isNode (by rw [character]; exact NodeType.noConfusion)]
    at unknown
  rw [Edge.seenFrom, kind]
  simp only [acquaintanceLink, if_neg differ, unknown, Option.map_none, Option.getD_none]

/-! ## The imported world -/

/-- **The imported world is settled.** -/
theorem settled : last.outcome.world.Settled config.graph where
  plain := fun copy member => by
    obtain ⟨node, -, carried⟩ := again.exists_node member
    exact carried.plain
  ordered := again.importOrder_copy
  numbered := again.whole.inOrder
  sorted := again.whole.edges_eq
  simple := again.whole.simple
  spawns := again.grouped_spawns
  spoken := fun _ member => again.spoken_copy member
  bound := fun node member anywhere edge isSpawn fromHere => by
    obtain ⟨inside, typed⟩ := mem_edgesOf.1 isSpawn
    obtain ⟨source, isSource, target, -, own, -, allowed⟩ :=
      again.whole.admits (again.whole.link_mem inside)
    have same : source = node := eq_of_id_eq again.whole.indexed.nodup isSource member
      (own.trans fromHere)
    obtain ⟨-, -, local_⟩ := validateConnection_eq_ok_iff.1 allowed
    exact local_ ⟨typed, same ▸ anywhere⟩
  arranged := fun bond => again.arranged_copy bond
  unheard := fun _ member unknown => again.thoughts_eq_of_keyword?_source member unknown

/-- The words of the imported world are unambiguous, too. -/
theorem unambiguous_copy : last.outcome.world.Unambiguous := by
  have free : last.outcome.report.collisions = [] := by
    rw [Report.collisions, Draft.findings_outcome, again.findings_eq_nil]
    rfl
  refine again.whole.unambiguous free fun entry member isLocation => ?_
  rw [map_snd_items, entries_eq] at member
  rcases List.mem_append.1 member with place | cast
  · obtain ⟨node, isPlace, rfl⟩ := List.mem_map.1 place
    refine ⟨again.clear.places node isPlace, fun named => ?_⟩
    obtain ⟨room, isRoom, same⟩ := mem_sublocationNames_locationEntry.1 named
    obtain ⟨inside, below⟩ := mem_sublocationsOf.1 isRoom
    exact again.clear.rooms room (mem_nodesOf.2 ⟨inside, Node.type_of_parent below⟩) same
  · obtain ⟨node, -, rfl⟩ := List.mem_map.1 cast
    exact absurd isLocation (world.isCast_castEntry node).not_isLocation

/-- There are enough ordinals for the imported world, too. -/
theorem finish_copy (fewNodes : world.nodes.length < ElementId.maxOrdinal)
    (fewEdges : world.edges.length < ElementId.maxOrdinal) {next : Draft}
    (onceMore : last.outcome.world.Reimport config next) : next.finish = .ok next.outcome :=
  onceMore.finish_eq (again.length_nodes.trans_lt fewNodes)
    (again.length_edges_le.trans_lt fewEdges)

end Reimport

end Snapshot

/-! ## Round trips -/

/-- **Round trips come to rest.** Entries are imported that make fewer nodes and edges than there
are ordinals, and no location or sublocation among them goes by the word for everywhere. If no words
collide, the entries of the imported world can be imported, and so can the entries of that import;
and the third world has the same entries as the second. -/
theorem importEntries_settles (config : Config) (entries : List Entry)
    (fewNodes : (importDraft config entries).nodes.length < ElementId.maxOrdinal)
    (fewEdges : (importDraft config entries).edges.length < ElementId.maxOrdinal)
    (nowhere : ∀ entry ∈ entries, entry.IsLocation →
      entry.firstKeyword ≠ some anyLocation ∧ anyLocation ∉ entry.sublocationNames) :
    ∃ first, importEntries config entries = .ok first ∧
      (first.report.collisions = [] →
        ∃ second, importEntries config first.world.entries = .ok second ∧
          ∃ third, importEntries config second.world.entries = .ok third ∧
            third.world.entries = second.world.entries) := by
  have first : importEntries config entries = .ok (importDraft config entries).outcome :=
    Draft.finish_of_le (Nat.le_of_lt fewNodes) (Nat.le_of_lt fewEdges)
  refine ⟨_, first, fun free => ?_⟩
  have whole := assembled_importDraft config entries
  have clear := whole.unambiguous free ((map_snd_zip_range entries).symm ▸ nowhere)
  have again := clear.reimport whole.valid_snapshot whole.typed_outcome config
  have second : importEntries config (importDraft config entries).outcome.world.entries =
      .ok (importDraft config (importDraft config entries).outcome.world.entries).outcome :=
    again.finish_eq fewNodes fewEdges
  have onceMore := again.unambiguous_copy.reimport again.valid_copy again.typed_copy config
  exact ⟨_, second, _, again.finish_copy fewNodes fewEdges onceMore,
    again.settled.entries_eq onceMore⟩

/-- A mill that mentions the inn before it and the tower behind it; a moor without a keyword that
mentions the mill; Ada, who goes to the taproom of the inn and to the mill; and Bob, who knows
her. -/
def streetEntries : List Entry :=
  [{ Entry.blank .location "Inn" with keywords := ["inn"] }.withSublocation "Taproom",
    { Entry.blank .location "Mill" with keywords := ["mill"], triggers := ["INN", "tower"] },
    { Entry.blank .location "Tower" with keywords := ["tower"] },
    { Entry.blank .location "Moor" with triggers := ["mill"] },
    ({ Entry.blank .character "Ada" with keywords := ["Ada"] }.withSpawn "TAPROOM" 0.5).withSpawn
      "mill" 0.25,
    { Entry.blank .character "Bob" with keywords := ["Bob"] }.withAcquaintance "ada"
      ⟨"friends", "kind"⟩]

/-- The second round trip puts the triggers of the mill in another order, and the third one leaves
everything as it is. -/
theorem streetEntries_settle :
    (importDraft {} streetEntries).nodes.length < ElementId.maxOrdinal ∧
      (importDraft {} streetEntries).edges.length < ElementId.maxOrdinal ∧
      (∀ entry ∈ streetEntries, entry.IsLocation →
        entry.firstKeyword ≠ some anyLocation ∧ anyLocation ∉ entry.sublocationNames) ∧
      ∃ first, importEntries {} streetEntries = .ok first ∧ first.report.collisions = [] ∧
        ∃ second, importEntries {} first.world.entries = .ok second ∧
          second.world.entries ≠ first.world.entries ∧
          ∃ third, importEntries {} second.world.entries = .ok third ∧
            third.world.entries = second.world.entries := by
  have fewNodes : (importDraft {} streetEntries).nodes.length < ElementId.maxOrdinal := by
    decide +kernel
  have fewEdges : (importDraft {} streetEntries).edges.length < ElementId.maxOrdinal := by
    decide +kernel
  have nowhere : ∀ entry ∈ streetEntries, entry.IsLocation →
      entry.firstKeyword ≠ some anyLocation ∧ anyLocation ∉ entry.sublocationNames := by
    decide +kernel
  obtain ⟨first, imported, settles⟩ :=
    importEntries_settles {} streetEntries fewNodes fewEdges nowhere
  have collisions : (importEntries {} streetEntries).map (fun one => one.report.collisions) =
      .ok [] := by
    decide +kernel
  have differs : ((importEntries {} streetEntries).bind fun one =>
      (importEntries {} one.world.entries).map fun two =>
        decide (two.world.entries = one.world.entries)) = .ok false := by
    decide +kernel
  rw [imported] at collisions differs
  have free : first.report.collisions = [] := Except.ok.inj collisions
  obtain ⟨second, importedAgain, third⟩ := settles free
  simp only [Except.bind, importedAgain, Except.map] at differs
  exact ⟨fewNodes, fewEdges, nowhere, first, imported, free, second, importedAgain,
    of_decide_eq_false (Except.ok.inj differs), third⟩

end StoryWorld
