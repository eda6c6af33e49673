import StoryWorld.Graph.Snapshot
import StoryWorld.Lore.Entry
import StoryWorld.Text.Blank

/-!
# Entries of a world

The lorebook of a world has an entry for each location, then for each character, then for each
event, in the order of the nodes. What an entry says about others is read off the edges:

- the triggers of a location are the first keywords of the locations adjacent to it;
- a character knows, and is triggered by, the characters it shares an acquaintance with;
- the spawn table of a character or event lists its spawn edges; the table of a global event has
  one key that stands for everywhere.

Each of these is first listed as mentions, in order, and the mentions are then bound one after
another: a repeated keyword keeps its first place and its last value.
-/

set_option autoImplicit false

namespace StoryWorld

/-- The key of the spawn table of events that happen anywhere. -/
def anyLocation : String := "any"

/-- The addresses in a value that are not blank, trimmed. -/
def ImageUrls.cleaned (urls : ImageUrls) : List String :=
  (urls.toList.map Text.trimmed).filter fun url => decide (url ≠ "")

/-- Images with trimmed addresses, always as lists, without keys that have no address left. -/
def Images.cleaned (images : Images) : Images :=
  images.filterMap fun _ urls => if urls.cleaned = [] then none else some (.many urls.cleaned)

namespace Snapshot

/-- The first keyword of a node. -/
def keyword? (world : Snapshot) (id : ElementId) : Option String :=
  (world.lastNode? id).bind Node.firstKeyword

/-- The fields that entries of all categories have. -/
def baseEntry (node : Node) (category : Category) : Entry :=
  { Entry.blank category node.name with
    keywords := node.keywords
    content := node.content
    images := node.images.cleaned
    filters := node.filters }

/-! ## Locations -/

/-- The other ends of the adjacency edges of a node: first those of edges from it, then those of
edges to it. -/
def neighbours (world : Snapshot) (id : ElementId) : List ElementId :=
  ((world.edgesOf .adjacent).filter fun edge => decide (edge.source = id)).map Edge.target ++
    ((world.edgesOf .adjacent).filter fun edge => decide (edge.target = id)).map Edge.source

/-- The sublocations of a location. -/
def sublocationsOf (world : Snapshot) (id : ElementId) : List Node :=
  world.nodes.filter fun node => decide (node.parent = some id)

/-- The sublocations of a location by name, with their images. -/
def sublocationTable (world : Snapshot) (id : ElementId) : Table String SublocationEntry :=
  Table.ofList ((world.sublocationsOf id).map fun node => (node.name, ⟨node.images.cleaned⟩))

/-- A table, or nothing if it has no entries. -/
def nonempty? {α : Type} (table : Table String α) : Option (Table String α) :=
  if table.isEmpty then none else some table

/-- The entry of a node as a location. -/
def locationEntry (world : Snapshot) (node : Node) : Entry :=
  { baseEntry node .location with
    contentShort := node.contentShort.getD ""
    triggers := distinct ((world.neighbours node.id).filterMap world.keyword?)
    subLocations := nonempty? (world.sublocationTable node.id) }

/-! ## Characters -/

/-- What an edge says that a node knows, by the keyword of the other end. An edge from a node to
itself is looked at from either end. -/
def edgeAcquaintances (world : Snapshot) (id : ElementId) (edge : Edge) :
    List (String × Acquaintance) :=
  match edge.kind with
  | .knows relationship sourceThinks targetThinks =>
    (if edge.source = id then
      (world.keyword? edge.target).toList.map fun key => (key, ⟨relationship, sourceThinks⟩)
    else []) ++
    if edge.target = id then
      (world.keyword? edge.source).toList.map fun key => (key, ⟨relationship, targetThinks⟩)
    else []
  | _ => []

/-- What a node knows about others, edge by edge. -/
def acquaintances (world : Snapshot) (id : ElementId) : List (String × Acquaintance) :=
  (world.edgesOf .knows).flatMap (world.edgeAcquaintances id)

/-- What a spawn edge says about places: the keyword of its target with its probability, then the
overrides that are not zero or less. -/
def edgeSpawns (world : Snapshot) (edge : Edge) : List (String × Float) :=
  match edge.kind with
  | .spawn probability overrides =>
    ((world.keyword? edge.target).toList.map fun key => (key, probability)) ++
      overrides.entries.filter fun entry => decide (0 < entry.2)
  | _ => []

/-- What the spawn edges from a node say about places, edge by edge. -/
def spawns (world : Snapshot) (id : ElementId) : List (String × Float) :=
  ((world.edgesOf .spawn).filter fun edge => decide (edge.source = id)).flatMap world.edgeSpawns

/-- The spawn table of a node. -/
def spawnTable (world : Snapshot) (id : ElementId) : Table String Float :=
  Table.ofList (world.spawns id)

/-- The entry of a node as a character. -/
def characterEntry (world : Snapshot) (node : Node) : Entry :=
  let known := world.acquaintances node.id
  { baseEntry node .character with
    contentShort := node.contentShort.getD ""
    triggers := distinct (known.map Prod.fst)
    canSpawnAt := some (world.spawnTable node.id)
    disabledFor :=
      match node.kind with
      | .character disabledFor => some disabledFor
      | _ => some []
    knows := nonempty? (Table.ofList known) }

/-! ## Events -/

/-- The spawn table of a node as an event. -/
def eventSpawnTable (world : Snapshot) (node : Node) : Table String Float :=
  match node.kind with
  | .event _ true chance => Table.ofList [(anyLocation, chance)]
  | _ => world.spawnTable node.id

/-- The entry of a node as an event. -/
def eventEntry (world : Snapshot) (node : Node) : Entry :=
  { baseEntry node .event with
    canSpawnAt := some (world.eventSpawnTable node)
    timeFilter :=
      match node.kind with
      | .event timeFilter _ _ => some timeFilter
      | _ => some []
    disabledFor := some [] }

/-- The lorebook of a world. -/
def entries (world : Snapshot) : List Entry :=
  (world.nodesOf .location).map world.locationEntry ++
    (world.nodesOf .character).map world.characterEntry ++
    (world.nodesOf .event).map world.eventEntry

end Snapshot

end StoryWorld
