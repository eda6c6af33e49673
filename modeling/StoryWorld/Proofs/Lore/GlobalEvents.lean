import StoryWorld.Proofs.Lore.Counterparts

/-!
# Which events happen anywhere

A lorebook says of an event that it may happen anywhere by one key of its spawn table. The other
keys are the keywords of locations and the names of sublocations, which authors choose freely, and
nothing keeps them from choosing the word that stands for everywhere. So an event that may happen
anywhere comes back as one, with the same chance, and any other event comes back as it was unless
one of its spawn edges speaks of a place by just that word (`importEntries_globals`).
-/

set_option autoImplicit false

namespace StoryWorld

/-- The chance of an event, which counts where it may happen anywhere. -/
def Node.globalSpawnChance? (node : Node) : Option Float :=
  match node.kind with
  | .event _ _ chance => some chance
  | _ => none

namespace Snapshot

/-- A spawn edge of the node says the word for everywhere: it leads to a node that has it as its
first keyword, or it has an override greater than zero under that name. -/
def SaysAnywhere (world : Snapshot) (id : ElementId) : Prop :=
  ∃ edge ∈ world.edgesOf .spawn, edge.source = id ∧
    ((∃ place ∈ world.nodes, place.id = edge.target ∧ place.firstKeyword = some anyLocation) ∨
      ∃ chance, edge.kind.overrides.get? anyLocation = some chance ∧ 0 < chance)

/-- An event of a world and the one that is made of its entry: the copy may happen anywhere just if
the event does or says so by one of its edges, and then with the chance of the event if it has
one. -/
structure GlobalAlike (world : Snapshot) (event copy : Node) : Prop where
  anywhere : copy.isGlobalEvent = true ↔
    event.isGlobalEvent = true ∨ world.SaysAnywhere event.id
  chance : event.isGlobalEvent = true → copy.globalSpawnChance? = event.globalSpawnChance?

variable {world : Snapshot}

/-- The spawn table of a node has the key for everywhere just if an edge of the node says so. -/
theorem Valid.anywhere_mem_keys_iff (valid : world.Valid) {id : ElementId} :
    anyLocation ∈ (world.spawnTable id).keys ↔ world.SaysAnywhere id := by
  rw [spawnTable, Table.mem_keys_ofList, List.mem_map]
  constructor
  · rintro ⟨spawn, said, word⟩
    obtain ⟨edge, member, fromHere, said⟩ := mem_spawns.1 said
    refine ⟨edge, member, fromHere, ?_⟩
    rcases mem_edgeSpawns.1 said with ⟨overrides, -, known⟩ | ⟨listed, positive⟩
    · obtain ⟨place, found, keyed⟩ := Option.bind_eq_some_iff.1 known
      have there := lastNode?_eq_some found
      exact Or.inl ⟨place, there.1, there.2, word ▸ keyed⟩
    · refine Or.inr ⟨spawn.2, Table.get?_eq_some_iff.2 ?_, positive⟩
      rw [← word]
      exact listed
  · rintro ⟨edge, member, fromHere, ⟨place, inside, there, keyed⟩ | ⟨chance, found, positive⟩⟩
    · have known : world.keyword? edge.target = some anyLocation := by
        rw [← there, valid.keyword?_eq inside, keyed]
      obtain ⟨probability, overrides, -, said⟩ := exists_said_of_keyword? member known
      exact ⟨_, mem_spawns.2 ⟨edge, member, fromHere, said⟩, rfl⟩
    · have said : (anyLocation, chance) ∈ world.edgeSpawns edge :=
        mem_edgeSpawns.2 (Or.inr ⟨Table.get?_eq_some_iff.1 found, positive⟩)
      exact ⟨_, mem_spawns.2 ⟨edge, member, fromHere, said⟩, rfl⟩

/-- What the entry of an event becomes. -/
theorem Valid.globalAlike_node (valid : world.Valid) (settings : GraphSettings) {event : Node}
    (typed : event.type = .event) {placed : Placement}
    (entry : placed.entry = world.eventEntry event) :
    world.GlobalAlike event (placed.node settings) := by
  obtain ⟨timeFilter, isGlobal, chance, kind⟩ := Node.kind_of_event typed
  have becomes : (placed.node settings).kind =
      .event ((world.eventEntry event).timeFilter.getD [])
        ((world.eventSpawnTable event).get? anyLocation).isSome
        (((world.eventSpawnTable event).get? anyLocation).getD
          settings.defaultGlobalSpawnChance) := by
    rw [Placement.node, entry]
    rfl
  cases isGlobal with
  | true =>
    have table : (world.eventSpawnTable event).get? anyLocation = some chance := by
      rw [eventSpawnTable, kind]
      rfl
    constructor
    · simp [Node.isGlobalEvent, becomes, kind, table]
    · intro _
      simp [Node.globalSpawnChance?, becomes, kind, table]
  | false =>
    have table : world.eventSpawnTable event = world.spawnTable event.id := by
      rw [eventSpawnTable, kind]
    have own : event.isGlobalEvent = false := by
      rw [Node.isGlobalEvent, kind]
    constructor
    · rw [Node.isGlobalEvent, becomes, table, ← Table.contains_eq_isSome, Table.contains,
        decide_eq_true_iff, valid.anywhere_mem_keys_iff, own]
      simp
    · intro global
      rw [own] at global
      cases global

end Snapshot

/-- **Which events happen anywhere after an import.** The events of any valid world come back in
their order. Each may happen anywhere just if it did so before or one of its spawn edges says the
word for everywhere, and an event that did so keeps its chance. Importing fails only where there are
not enough ordinals. -/
theorem importEntries_globals {world : Snapshot} (accepted : world.validate = .ok ())
    (config : Config) :
    (∃ outcome, importEntries config world.entries = .ok outcome ∧
      List.Forall₂ world.GlobalAlike (world.nodesOf .event) (outcome.world.nodesOf .event)) ∨
      (importEntries config world.entries = .error (.refused (.idsExhausted .node)) ∧
        ElementId.maxOrdinal < (importDraft config world.entries).nodes.length) ∨
      (importEntries config world.entries = .error (.refused (.idsExhausted .edge)) ∧
        ElementId.maxOrdinal < (importDraft config world.entries).edges.length) := by
  have valid : world.Valid := Snapshot.validate_eq_ok_iff.1 accepted
  have whole := Draft.assembled config world.entries.length world.items []
  have events : List.Forall₂ world.GlobalAlike (world.nodesOf .event)
      ((importDraft config world.entries).outcome.world.nodesOf .event) := by
    have made := Draft.nodesOf_event whole.nodes
    rw [importDraft, ← Snapshot.items, made, List.forall₂_map_right_iff]
    refine (forall₂_and_mem (world.forall₂_eventPlacements config)).imp ?_
    rintro event placed ⟨member, entry⟩
    exact valid.globalAlike_node config.graph (Snapshot.mem_nodesOf.1 member).2 entry
  exact (importEntries_cases config world.entries).imp_left fun imported => ⟨_, imported, events⟩

/-- A place with the word for everywhere as its keyword, an eclipse that may happen anywhere, and a
fair that is held at the place only. -/
def anytown : Snapshot where
  nodes :=
    [{ Node.blank ⟨"town"⟩ "Anytown" .location with keywords := ["any"] },
      Node.blank ⟨"eclipse"⟩ "Eclipse" (.event [] true 0.125),
      Node.blank ⟨"fair"⟩ "Fair" (.event [] false 0.5)]
  edges := [⟨⟨"e1"⟩, ⟨"fair"⟩, ⟨"town"⟩, .spawn 0.25 .empty⟩]

theorem anytown_globalAlike :
    anytown.validate = .ok () ∧
      ∃ outcome, importEntries {} anytown.entries = .ok outcome ∧
        List.Forall₂ anytown.GlobalAlike (anytown.nodesOf .event)
          (outcome.world.nodesOf .event) := by
  have accepted : anytown.validate = .ok () := by decide +kernel
  have imported : importEntries {} anytown.entries =
      .ok (importDraft {} anytown.entries).outcome := by decide +kernel
  refine ⟨accepted, ?_⟩
  rcases importEntries_globals accepted {} with alike | ⟨failed, -⟩ | ⟨failed, -⟩
  · exact alike
  · rw [imported] at failed
    cases failed
  · rw [imported] at failed
    cases failed

/-- The fair of the town can be held anywhere after an import. -/
theorem anytown_fair_everywhere :
    anytown.validate = .ok () ∧ anytown.Typed ∧
      (anytown.nodesOf .event).map Node.isGlobalEvent = [true, false] ∧
      ∃ outcome, importEntries {} anytown.entries = .ok outcome ∧
        (outcome.world.nodesOf .event).map Node.isGlobalEvent = [true, true] := by
  refine ⟨by decide +kernel, ?_, by decide +kernel, (importDraft {} anytown.entries).outcome,
    by decide +kernel, by decide +kernel⟩
  unfold Snapshot.Typed
  decide +kernel

end StoryWorld
