import Mathlib.Data.List.Basic
import StoryWorld.Proofs.Lore.Linkage

/-!
# A world without one of its places

When a location leaves a world, its sublocations and the edges at it leave with it
(`Snapshot.withoutPlace`); at sublocations there are no edges if all edges join what they may join.
What is left of the entries is said entry by entry, by `Snapshot.leftEntry`: a location is no longer
triggered by the first keyword of the place, a character or an event does not spawn any more under
the words of the place, and nothing else changes (`Snapshot.entries_withoutPlace`).

Entries know places by words only. So this takes words that keep places apart
(`Snapshot.WordsApart`): if another location had the same first keyword, or an override elsewhere
the same name, the word would stay. Everything that an entry says comes from single edges, and the
words that an edge brings are those of the place just if it leads there. This is why leaving out the
edges and leaving out the words is the same (`flatMap_filter_eq`), also after words have been bound
or repeats dropped.
-/

set_option autoImplicit false

namespace StoryWorld

/-! ## Selecting before and after -/

/-- What is made of the items that are kept is kept of what is made of all items, where each item is
kept just if what is made of it is. -/
theorem flatMap_filter_eq {α β : Type} {items : List α} {keep : α → Bool} {kept : β → Bool}
    {f g : α → List β} (same : ∀ item ∈ items, keep item = true → g item = f item)
    (agree : ∀ item ∈ items, ∀ made ∈ f item, kept made = keep item) :
    (items.filter keep).flatMap g = (items.flatMap f).filter kept := by
  induction items with
  | nil => rfl
  | cons item rest ih =>
    have later := ih (fun other member => same other (List.mem_cons_of_mem _ member))
      fun other member => agree other (List.mem_cons_of_mem _ member)
    have here := agree item (List.mem_cons_self ..)
    rw [List.flatMap_cons, List.filter_append, ← later]
    cases isKept : keep item with
    | true =>
      have all : (f item).filter kept = f item :=
        List.filter_eq_self.2 fun made member => (here made member).trans isKept
      rw [List.filter_cons_of_pos isKept, List.flatMap_cons,
        same item (List.mem_cons_self ..) isKept, all]
    | false =>
      have none : (f item).filter kept = [] := by
        refine List.filter_eq_nil_iff.2 fun made member => ?_
        rw [here made member, isKept]
        exact Bool.false_ne_true
      rw [List.filter_cons_of_neg (by rw [isKept]; exact Bool.false_ne_true), none, List.nil_append]

theorem filterMap_filter_eq {α β : Type} {items : List α} {keep : α → Bool} {kept : β → Bool}
    {f g : α → Option β} (same : ∀ item ∈ items, keep item = true → g item = f item)
    (agree : ∀ item ∈ items, ∀ made, f item = some made → kept made = keep item) :
    (items.filter keep).filterMap g = (items.filterMap f).filter kept := by
  rw [List.filterMap_eq_flatMap_toList, List.filterMap_eq_flatMap_toList]
  refine flatMap_filter_eq (fun item member isKept => ?_) fun item member made inside => ?_
  · rw [same item member isKept]
  · exact agree item member made (Option.mem_toList.1 inside)

/-! ## Entries that lose words -/

/-- The entry, no longer triggered by some words. -/
def Entry.withoutTriggers (words : List String) (entry : Entry) : Entry :=
  { entry with triggers := entry.triggers.filter fun word => decide (word ∉ words) }

/-- The entry, no longer with a probability under some words. -/
def Entry.withoutSpawns (words : List String) (entry : Entry) : Entry :=
  { entry with
    canSpawnAt := entry.canSpawnAt.map fun table =>
      table.filter fun key _ => decide (key ∉ words) }

namespace Snapshot

/-- No two locations are spoken of by one word. -/
structure WordsApart (world : Snapshot) : Prop where
  /-- Different locations have different first keywords. -/
  keywords : ∀ first ∈ world.nodesOf .location, ∀ second ∈ world.nodesOf .location,
    first.firstKeyword.isSome → first.firstKeyword = second.firstKeyword → first = second
  /-- No override greater than zero is named like the first keyword of a location. -/
  overrides : ∀ edge ∈ world.edgesOf .spawn, ∀ override ∈ edge.kind.overrides.entries,
    0 < override.2 → ∀ place ∈ world.nodesOf .location, place.firstKeyword ≠ some override.1
  /-- Overrides greater than zero that have the same name are about the same location. -/
  targets : ∀ edge ∈ world.edgesOf .spawn, ∀ other ∈ world.edgesOf .spawn,
    ∀ override ∈ edge.kind.overrides.entries, 0 < override.2 →
      ∀ also ∈ other.kind.overrides.entries, 0 < also.2 → override.1 = also.1 →
        edge.target = other.target

/-- The world without a place: its sublocations and the edges at it are gone as well. -/
def withoutPlace (world : Snapshot) (id : ElementId) : Snapshot where
  nodes := world.nodes.filter fun node => decide (node.id ≠ id ∧ node.parent ≠ some id)
  edges := world.edges.filter fun edge => decide (edge.source ≠ id ∧ edge.target ≠ id)

/-- The words under which spawn edges speak of a place: its first keyword, and the name of each
override greater than zero on an edge to it. -/
def placeWords (world : Snapshot) (place : Node) : List String :=
  place.firstKeyword.toList ++
    ((world.edgesOf .spawn).filter fun edge => decide (edge.target = place.id)).flatMap fun edge =>
      (edge.kind.overrides.entries.filter fun override => decide (0 < override.2)).map Prod.fst

/-- What is left of the entry of a node when a place has gone: locations lose the trigger, whoever
spawns by spawn edges the words in its table. -/
def leftEntry (world : Snapshot) (place node : Node) : Entry :=
  match node.kind with
  | .location => (world.entryOf node).withoutTriggers place.firstKeyword.toList
  | .character _ | .event _ false _ => (world.entryOf node).withoutSpawns (world.placeWords place)
  | .event _ true _ | .sublocation _ => world.entryOf node

variable {world : Snapshot} {place node : Node} {id : ElementId}

theorem mem_placeWords {word : String} :
    word ∈ world.placeWords place ↔ place.firstKeyword = some word ∨
      ∃ edge ∈ world.edgesOf .spawn, edge.target = place.id ∧
        ∃ override ∈ edge.kind.overrides.entries, 0 < override.2 ∧ override.1 = word := by
  simp only [placeWords, List.mem_append, Option.mem_toList, List.mem_flatMap, List.mem_filter,
    List.mem_map, decide_eq_true_eq, and_assoc]

theorem mem_nodes_withoutPlace :
    node ∈ (world.withoutPlace id).nodes ↔
      node ∈ world.nodes ∧ node.id ≠ id ∧ node.parent ≠ some id := by
  rw [withoutPlace, List.mem_filter, decide_eq_true_eq]

theorem edgesOf_withoutPlace (type : EdgeType) :
    (world.withoutPlace id).edgesOf type =
      (world.edgesOf type).filter fun edge => decide (edge.source ≠ id ∧ edge.target ≠ id) := by
  rw [edgesOf, withoutPlace, List.filter_comm]
  rfl

/-! ## What stays -/

/-- All that is no sublocation stays, unless it is the place. -/
theorem nodesOf_withoutPlace {type : NodeType} (other : type ≠ .sublocation) :
    (world.withoutPlace id).nodesOf type =
      (world.nodesOf type).filter fun node => decide (node.id ≠ id) := by
  rw [nodesOf, withoutPlace, List.filter_comm, ← nodesOf]
  refine List.filter_congr fun node member => decide_eq_decide.2 (and_iff_left fun placed => ?_)
  exact other ((mem_nodesOf.1 member).2.symm.trans (Node.type_of_parent placed))

theorem subjects_withoutPlace :
    (world.withoutPlace id).subjects =
      world.subjects.filter fun node => decide (node.id ≠ id) := by
  rw [subjects, castNodes, nodesOf_withoutPlace NodeType.noConfusion,
    nodesOf_withoutPlace NodeType.noConfusion, nodesOf_withoutPlace NodeType.noConfusion,
    ← List.filter_append, ← List.filter_append, ← castNodes, ← subjects]

/-- A node that stays keeps its first keyword. -/
theorem Valid.keyword?_withoutPlace (valid : world.Valid)
    (stays : node ∈ (world.withoutPlace id).nodes) :
    (world.withoutPlace id).keyword? node.id = world.keyword? node.id := by
  have distinct : ((world.withoutPlace id).nodes.map Node.id).Nodup :=
    (List.filter_sublist.map Node.id).nodup valid.nodes_nodup
  rw [valid.keyword?_eq (mem_nodes_withoutPlace.1 stays).1, keyword?,
    lastNode?_of_mem distinct stays, Option.bind_some]

/-- Other nodes have the neighbours that stay. -/
theorem neighbours_withoutPlace {gone : ElementId} (other : id ≠ gone) :
    (world.withoutPlace gone).neighbours id =
      (world.neighbours id).filter fun tip => decide (tip ≠ gone) := by
  simp only [neighbours, edgesOf_withoutPlace, List.filter_append, List.filter_map,
    List.filter_filter]
  congr 2
  · refine List.filter_congr fun edge _ => ?_
    by_cases fromHere : edge.source = id <;> simp [fromHere, other]
  · refine List.filter_congr fun edge _ => ?_
    by_cases toHere : edge.target = id <;> simp [toHere, other]

/-! ## Ends of edges -/

namespace Conforms

variable (conforms : world.Conforms)

include conforms

/-- No edge leads from or to a sublocation. -/
theorem exists_end {edge : Edge} (member : edge ∈ world.edges) {tip : ElementId}
    (ends : edge.source = tip ∨ edge.target = tip) :
    ∃ node ∈ world.nodes, node.id = tip ∧ node.parent = none := by
  obtain ⟨source, isSource, target, isTarget, fromHere, toThere, joined⟩ := conforms edge member
  have free (node : Node) (other : node.type ≠ .sublocation) : node.parent = none :=
    Option.eq_none_iff_forall_ne_some.2 fun _ placed => other (Node.type_of_parent placed)
  obtain ⟨sourceKind, targetKind⟩ := ne_sublocation_of_connectionType joined
  rcases ends with rfl | rfl
  · exact ⟨source, isSource, fromHere, free source sourceKind⟩
  · exact ⟨target, isTarget, toThere, free target targetKind⟩

/-- Either end of an edge without direction is of the kind that it joins. -/
theorem mutual_end {kind : NodeType} {type : EdgeType} (bond : Mutual kind type) {edge : Edge}
    (member : edge ∈ world.edgesOf type) {tip : ElementId}
    (ends : edge.source = tip ∨ edge.target = tip) : ∃ node ∈ world.nodesOf kind, node.id = tip := by
  obtain ⟨source, isSource, target, isTarget, fromHere, toThere⟩ :=
    conforms.mutual_ends bond member
  rcases ends with rfl | rfl
  · exact ⟨source, isSource, fromHere⟩
  · exact ⟨target, isTarget, toThere⟩

/-- What is at an edge stays, unless it is the place. -/
theorem keyword?_end (valid : world.Valid) {edge : Edge} (member : edge ∈ world.edges)
    {tip : ElementId} (ends : edge.source = tip ∨ edge.target = tip) (other : tip ≠ id) :
    (world.withoutPlace id).keyword? tip = world.keyword? tip := by
  obtain ⟨node, inside, rfl, free⟩ := conforms.exists_end member ends
  refine valid.keyword?_withoutPlace (mem_nodes_withoutPlace.2 ⟨inside, other, ?_⟩)
  rw [free]
  exact (Option.some_ne_none id).symm

end Conforms

section Gone

variable (valid : world.Valid) (isPlace : place ∈ world.nodesOf .location)

include valid isPlace

/-- What has the identity of a location is a location. -/
theorem Valid.type_of_id (member : node ∈ world.nodes) (own : node.id = place.id) :
    node.type = .location := by
  obtain ⟨inside, typed⟩ := mem_nodesOf.1 isPlace
  rw [eq_of_id_eq valid.nodes_nodup member inside own, typed]

/-- The sublocations of other locations stay. -/
theorem sublocationTable_withoutPlace (other : id ≠ place.id) :
    (world.withoutPlace place.id).sublocationTable id = world.sublocationTable id := by
  have rooms : (world.withoutPlace place.id).sublocationsOf id = world.sublocationsOf id := by
    rw [sublocationsOf, withoutPlace, List.filter_comm, ← sublocationsOf]
    refine List.filter_eq_self.2 fun room member => ?_
    obtain ⟨inside, placed⟩ := mem_sublocationsOf.1 member
    refine decide_eq_true ⟨fun own => ?_, fun here => ?_⟩
    · have typed := valid.type_of_id isPlace inside own
      rw [Node.type_of_parent placed] at typed
      cases typed
    · rw [placed] at here
      exact other (Option.some.inj here)
  rw [sublocationTable, rooms, sublocationTable]

variable (conforms : world.Conforms)

include conforms

/-- What characters know of each other does not change. -/
theorem acquaintances_withoutPlace :
    (world.withoutPlace place.id).acquaintances id = world.acquaintances id := by
  have elsewhere : ∀ edge ∈ world.edgesOf .knows, ∀ tip,
      edge.source = tip ∨ edge.target = tip → tip ≠ place.id := by
    intro edge member tip ends own
    obtain ⟨character, isCharacter, rfl⟩ := conforms.mutual_end .knows member ends
    have typed := valid.type_of_id isPlace (mem_nodesOf.1 isCharacter).1 own
    rw [(mem_nodesOf.1 isCharacter).2] at typed
    cases typed
  have edges : (world.withoutPlace place.id).edgesOf .knows = world.edgesOf .knows := by
    rw [edgesOf_withoutPlace]
    exact List.filter_eq_self.2 fun edge member => decide_eq_true
      ⟨elsewhere edge member _ (Or.inl rfl), elsewhere edge member _ (Or.inr rfl)⟩
  rw [acquaintances, edges, acquaintances]
  refine List.flatMap_congr fun edge member => ?_
  have keyword : ∀ tip, edge.source = tip ∨ edge.target = tip →
      (world.withoutPlace place.id).keyword? tip = world.keyword? tip := fun tip ends =>
    conforms.keyword?_end valid (mem_edgesOf.1 member).1 ends (elsewhere edge member tip ends)
  unfold edgeAcquaintances
  rw [keyword _ (Or.inl rfl), keyword _ (Or.inr rfl)]

variable (apart : world.WordsApart)

include apart

/-- Locations are no longer triggered by the place. -/
theorem triggers_withoutPlace (other : id ≠ place.id) :
    distinct (((world.withoutPlace place.id).neighbours id).filterMap
        (world.withoutPlace place.id).keyword?) =
      (distinct ((world.neighbours id).filterMap world.keyword?)).filter fun word =>
        decide (word ∉ place.firstKeyword.toList) := by
  have tips : ∀ tip ∈ world.neighbours id, ∃ edge ∈ world.edgesOf .adjacent,
      edge.source = tip ∨ edge.target = tip := by
    intro tip member
    obtain ⟨edge, isEdge, joins⟩ := mem_neighbours.1 member
    rcases of_decide_eq_true joins with ⟨-, toTip⟩ | ⟨fromTip, -⟩
    · exact ⟨edge, isEdge, Or.inr toTip⟩
    · exact ⟨edge, isEdge, Or.inl fromTip⟩
  rw [neighbours_withoutPlace other, ← distinct_filter]
  congr 1
  refine filterMap_filter_eq (fun tip member stays => ?_) fun tip member word known => ?_
  · obtain ⟨edge, isEdge, ends⟩ := tips tip member
    exact conforms.keyword?_end valid (mem_edgesOf.1 isEdge).1 ends (of_decide_eq_true stays)
  · obtain ⟨edge, isEdge, ends⟩ := tips tip member
    obtain ⟨neighbour, isNeighbour, rfl⟩ := conforms.mutual_end .adjacent isEdge ends
    rw [valid.keyword?_eq (mem_nodesOf.1 isNeighbour).1] at known
    refine decide_eq_decide.2 (not_congr ?_)
    rw [Option.mem_toList]
    constructor
    · intro same
      rw [apart.keywords neighbour isNeighbour place isPlace (by rw [known]; rfl)
        (known.trans same.symm)]
    · intro own
      rw [← known, eq_of_id_eq valid.nodes_nodup (mem_nodesOf.1 isNeighbour).1
        (mem_nodesOf.1 isPlace).1 own]

/-- **Whose words they are.** A spawn edge speaks under a word of the place just if it leads
there. -/
theorem mem_placeWords_iff_target {edge : Edge} (member : edge ∈ world.edgesOf .spawn)
    {spawn : String × Float} (said : spawn ∈ world.edgeSpawns edge) :
    spawn.1 ∈ world.placeWords place ↔ edge.target = place.id := by
  obtain ⟨-, -, target, isTarget, -, toThere, -⟩ := conforms.spawn_ends member
  have known : world.keyword? edge.target = target.firstKeyword := by
    rw [← toThere, valid.keyword?_eq (mem_nodesOf.1 isTarget).1]
  rw [mem_placeWords]
  rcases mem_edgeSpawns.1 said with ⟨overrides, -, keyed⟩ | ⟨override, positive⟩
  · rw [known] at keyed
    constructor
    · rintro (same | ⟨other, isOther, -, override, inside, positive, named⟩)
      · rw [← toThere, apart.keywords target isTarget place isPlace (by rw [keyed]; rfl)
          (keyed.trans same.symm)]
      · rw [← named] at keyed
        exact absurd keyed (apart.overrides other isOther override inside positive target isTarget)
    · intro here
      rw [← keyed, eq_of_id_eq valid.nodes_nodup (mem_nodesOf.1 isTarget).1
        (mem_nodesOf.1 isPlace).1 (toThere.trans here)]
      exact Or.inl rfl
  · constructor
    · rintro (same | ⟨other, isOther, there, also, inside, alsoPositive, named⟩)
      · exact absurd same (apart.overrides edge member spawn override positive place isPlace)
      · rw [← there]
        exact apart.targets edge member other isOther spawn override positive also inside
          alsoPositive named.symm
    · exact fun here => Or.inr ⟨edge, member, here, spawn, override, positive, rfl⟩

/-- Spawn tables lose what stands under the words of the place. -/
theorem spawnTable_withoutPlace :
    (world.withoutPlace place.id).spawnTable id =
      (world.spawnTable id).filter fun key _ => decide (key ∉ world.placeWords place) := by
  have said : (world.withoutPlace place.id).spawns id =
      (world.spawns id).filter fun spawn => decide (spawn.1 ∉ world.placeWords place) := by
    rw [spawns, edgesOf_withoutPlace, List.filter_comm, spawns]
    refine flatMap_filter_eq (fun edge member stays => ?_) fun edge member spawn said => ?_
    · have inside := (List.mem_filter.1 member).1
      unfold edgeSpawns
      rw [conforms.keyword?_end valid (mem_edgesOf.1 inside).1 (Or.inr rfl)
        (of_decide_eq_true stays).2]
    · have inside := (List.mem_filter.1 member).1
      rw [decide_eq_decide, mem_placeWords_iff_target valid isPlace conforms apart inside said,
        ne_eq, and_iff_right]
      intro own
      obtain ⟨source, isSource, -, -, fromHere, -, kind⟩ := conforms.spawn_ends inside
      rw [valid.type_of_id isPlace isSource (fromHere.trans own)] at kind
      rcases kind with typed | typed <;> cases typed
  rw [spawnTable, said]
  exact Table.ofList_filter (fun key => decide (key ∉ world.placeWords place)) (world.spawns id)

/-! ## What is left of the entries -/

theorem entryOf_withoutPlace (member : node ∈ world.subjects) (other : node.id ≠ place.id) :
    (world.withoutPlace place.id).entryOf node = world.leftEntry place node := by
  have spawns : (world.withoutPlace place.id).spawnTable node.id = _ :=
    spawnTable_withoutPlace valid isPlace conforms apart
  cases kind : node.kind with
  | location =>
    have triggers := triggers_withoutPlace valid isPlace conforms apart other
    have rooms := sublocationTable_withoutPlace valid isPlace other
    have typed : node.type = .location := by rw [Node.type, kind]; rfl
    rw [leftEntry, kind, entryOf, if_pos typed, entryOf, if_pos typed, locationEntry, triggers,
      rooms, Entry.withoutTriggers, locationEntry]
  | character disabledFor =>
    have known : (world.withoutPlace place.id).acquaintances node.id = _ :=
      acquaintances_withoutPlace valid isPlace conforms
    have typed : node.type = .character := by rw [Node.type, kind]; rfl
    simp only [leftEntry, kind, entryOf, castEntry, typed, characterEntry, known, spawns,
      Entry.withoutSpawns, reduceCtorEq, if_false, if_true, Option.map_some]
  | event timeFilter isGlobal chance =>
    have typed : node.type = .event := by rw [Node.type, kind]; rfl
    cases isGlobal <;>
      simp only [leftEntry, kind, entryOf, castEntry, typed, eventEntry, eventSpawnTable, spawns,
        Entry.withoutSpawns, reduceCtorEq, if_false, Option.map_some]
  | sublocation parent =>
    refine absurd ?_ (mem_subjects.1 member).2
    rw [Node.type, kind]
    rfl

/-- **What is left of the entries when a place has gone.** -/
theorem entries_withoutPlace :
    (world.withoutPlace place.id).entries =
      (world.subjects.filter fun node => decide (node.id ≠ place.id)).map
        (world.leftEntry place) := by
  rw [entries_eq_map_subjects, subjects_withoutPlace]
  refine List.map_congr_left fun node member => ?_
  obtain ⟨inside, other⟩ := List.mem_filter.1 member
  exact entryOf_withoutPlace valid isPlace conforms apart inside (of_decide_eq_true other)

end Gone

end Snapshot

end StoryWorld
