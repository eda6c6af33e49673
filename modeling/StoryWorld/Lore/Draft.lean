import StoryWorld.Graph.Connection
import StoryWorld.Lore.Export
import StoryWorld.Lore.Layout
import StoryWorld.Lore.Report
import StoryWorld.Text.Lowercase

/-!
# Drafts

A draft is a world under construction: the nodes and edges made so far, what has been found on the
way, and who has declared which keyword or name. Entries are added one by one, and the references
of an entry are followed through the declarations.

Keywords and names are compared in lowercase. Whoever declares one first keeps it. What resolves to
nothing is left out and reported. Identities are given out in order, so the next one follows from
how many elements there are, and which pairs have been linked can be seen from the edges. An import
that keeps a numbering and notes on the pairs besides its draft is carried out on a `Workbench`.
-/

set_option autoImplicit false

namespace StoryWorld

/-- The name of events that are imported without one. -/
def unnamedEvent : String := "Unnamed Event"

/-- What the name of a sublocation stands for. -/
structure SublocationRef where
  id : ElementId
  parent : ElementId
  /-- The name as it is declared. -/
  name : String
  deriving DecidableEq

/-- A world under construction, with what has been declared and found so far. -/
structure Draft where
  nodes : List Node
  edges : List Edge
  findings : List Finding
  /-- Locations by keyword in lowercase. -/
  locations : Table String ElementId
  /-- Sublocations by name in lowercase. -/
  sublocations : Table String SublocationRef
  /-- Characters by keyword in lowercase. -/
  characters : Table String ElementId
  deriving DecidableEq

namespace Draft

/-- The draft without elements, with findings made before. -/
def start (findings : List Finding) : Draft := ⟨[], [], findings, .empty, .empty, .empty⟩

/-- The draft with more findings. -/
def report (draft : Draft) (findings : List Finding) : Draft :=
  { draft with findings := draft.findings ++ findings }

/-- The identity of the next node. -/
def nextNodeId (draft : Draft) (type : NodeType) : ElementId :=
  .numbered (.node type) (draft.nodes.length + 1)

/-- The identity of the next edge. -/
def nextEdgeId (draft : Draft) : ElementId := .numbered .edge (draft.edges.length + 1)

/-- The draft with one more node. -/
def addNode (draft : Draft) (node : Node) : Draft := { draft with nodes := draft.nodes ++ [node] }

/-- The node with an identity. -/
def node? (draft : Draft) (id : ElementId) : Option Node :=
  draft.nodes.find? fun node => decide (node.id = id)

/-- The draft with one more edge between two nodes, if the rules of connection allow it. -/
def link (draft : Draft) (source target : ElementId) (kind : EdgeKind) : Draft :=
  match draft.node? source, draft.node? target with
  | some sourceNode, some targetNode =>
    match validateConnection sourceNode targetNode kind.type with
    | .ok () =>
      { draft with edges := draft.edges ++ [⟨draft.nextEdgeId, source, target, kind⟩] }
    | .error reason => draft.report [.rejectedConnection source target reason]
  | _, _ => draft

/-- Whether an edge of a kind joins two nodes, in either direction. -/
def areJoined (draft : Draft) (type : EdgeType) (a b : ElementId) : Bool :=
  draft.edges.any fun edge => decide (edge.type = type) && edge.joins a b

/-! ## Declarations -/

/-- The fields that a node takes from its entry, whatever its category. -/
def nodeOf (id : ElementId) (entry : Entry) (name : String) (kind : NodeKind)
    (position : Position) : Node where
  id := id
  name := name
  keywords := entry.keywords
  content := entry.content
  contentShort :=
    match kind with
    | .location | .character _ => some entry.contentShort
    | .event .. | .sublocation _ => none
  images := entry.images
  filters := entry.filters
  position := position
  kind := kind

/-- Declares keywords of a node: those that are free become its own, and those of other nodes are
found as collisions. -/
def claim (scope : NodeType) (id : ElementId) (names : Table String ElementId) :
    (keywords : List String) → Table String ElementId × List Finding
  | [] => (names, [])
  | keyword :: rest =>
    match names.get? (Text.lowercase keyword) with
    | none => claim scope id (names.insertNew (Text.lowercase keyword) id) rest
    | some kept =>
      let (names, findings) := claim scope id names rest
      (names, if kept = id then findings else .keywordCollision scope keyword kept id :: findings)

/-- Adds a sublocation of a location and declares its name. -/
def addSublocation (draft : Draft) (parent : ElementId) (position : Position) (name : String)
    (images : Images) : Draft :=
  let id := draft.nextNodeId .sublocation
  let node : Node :=
    { Node.blank id name (.sublocation parent) with position := position, images := images }
  let draft := draft.addNode node
  match draft.sublocations.get? (Text.lowercase name) with
  | none =>
    { draft with
      sublocations := draft.sublocations.insertNew (Text.lowercase name) ⟨id, parent, name⟩ }
  | some kept => draft.report [.sublocationCollision name kept.id id]

/-- The sublocations of an entry by name, each with its place in the row. -/
def sublocationsOf (entry : Entry) : List (Nat × String × SublocationEntry) :=
  let entries := (entry.subLocations.getD .empty).entries
  (List.range entries.length).zip entries

/-- Adds the location of an entry with its sublocations. -/
def addLocation (settings : GraphSettings) (draft : Draft) (entry : Entry) (position : Position) :
    Draft :=
  let id := draft.nextNodeId .location
  let draft := draft.addNode (nodeOf id entry entry.name .location position)
  let (locations, findings) := claim .location id draft.locations entry.keywords
  let draft := ({ draft with locations := locations }).report findings
  let sublocations := sublocationsOf entry
  sublocations.foldl
    (fun draft sublocation =>
      draft.addSublocation id
        (settings.sublocationPosition position sublocation.1 sublocations.length)
        sublocation.2.1 sublocation.2.2.images)
    draft

/-! ## Spawn edges -/

/-- What the keys of a spawn table lead to: a probability for each location and overrides for its
sublocations, and the keys that lead nowhere. -/
structure SpawnTargets where
  targets : Table ElementId (Float × Table String Float)
  unresolved : List String
  deriving DecidableEq

/-- Follows one more key of a spawn table. Keywords of locations come before names of sublocations;
a location that is only known from its sublocations so far has the default probability. -/
def SpawnTargets.follow (settings : GraphSettings) (draft : Draft) (found : SpawnTargets)
    (spawn : String × Float) : SpawnTargets :=
  match draft.locations.get? (Text.lowercase spawn.1) with
  | some location =>
    let overrides := ((found.targets.get? location).map Prod.snd).getD .empty
    { found with targets := found.targets.insert location (spawn.2, overrides) }
  | none =>
    match draft.sublocations.get? (Text.lowercase spawn.1) with
    | some sublocation =>
      let known :=
        (found.targets.get? sublocation.parent).getD (settings.defaultSpawnProbability, .empty)
      { found with
        targets := found.targets.insert sublocation.parent
          (known.1, known.2.insert sublocation.name spawn.2) }
    | none => { found with unresolved := found.unresolved ++ [spawn.1] }

/-- What the keys of a spawn table lead to. -/
def spawnTargets (settings : GraphSettings) (draft : Draft) (table : Table String Float) :
    SpawnTargets :=
  table.entries.foldl (SpawnTargets.follow settings draft) ⟨.empty, []⟩

/-- Adds the spawn edges of a node, one for each location that its table leads to. -/
def addSpawns (settings : GraphSettings) (draft : Draft) (source : ElementId) (entry : Entry) :
    Draft :=
  let found := spawnTargets settings draft entry.spawnTable
  let draft := draft.report (found.unresolved.map (.unresolvedReference entry.name .canSpawnAt))
  found.targets.entries.foldl
    (fun draft target => draft.link source target.1 (.spawn target.2.1 target.2.2)) draft

/-- Adds the character of an entry. -/
def addCharacter (settings : GraphSettings) (draft : Draft) (entry : Entry) (position : Position) :
    Draft :=
  let id := draft.nextNodeId .character
  let kind := NodeKind.character (entry.disabledFor.getD [])
  let draft := draft.addNode (nodeOf id entry entry.name kind position)
  let (characters, findings) := claim .character id draft.characters entry.keywords
  let draft := ({ draft with characters := characters }).report findings
  draft.addSpawns settings id entry

/-- Adds the event of an entry. The key for everywhere makes it a global event, which has no spawn
edges. -/
def addEvent (settings : GraphSettings) (draft : Draft) (entry : Entry) (position : Position) :
    Draft :=
  let id := draft.nextNodeId .event
  let anywhere := entry.spawnTable.get? anyLocation
  let name := if entry.name = "" then unnamedEvent else entry.name
  let kind := NodeKind.event (entry.timeFilter.getD []) anywhere.isSome
    (anywhere.getD settings.defaultGlobalSpawnChance)
  let draft := draft.addNode (nodeOf id entry name kind position)
  if anywhere.isSome then draft else draft.addSpawns settings id entry

/-! ## Adjacency and acquaintance -/

/-- Follows one trigger of a location. -/
def addAdjacency (name : String) (id : ElementId) (draft : Draft) (trigger : String) : Draft :=
  match draft.locations.get? (Text.lowercase trigger) with
  | none => draft.report [.unresolvedReference name .triggers trigger]
  | some target =>
    if target = id ∨ draft.areJoined .adjacent id target = true then draft
    else draft.link id target .adjacent

/-- The thoughts of a character about another: those under the first key that leads to it. -/
def thoughtsAbout (draft : Draft) (entry : Entry) (about : ElementId) : Option String :=
  ((entry.knows.getD .empty).entries.find? fun known =>
    decide (draft.characters.get? (Text.lowercase known.1) = some about)).map fun known =>
      known.2.thoughts

/-- Follows one acquaintance of a character. The other side's thoughts come from its own entry. -/
def addAcquaintance (cast : List (ElementId × Entry)) (id : ElementId) (name : String)
    (draft : Draft) (known : String × Acquaintance) : Draft :=
  match draft.characters.get? (Text.lowercase known.1) with
  | none => draft.report [.unresolvedReference name .knows known.1]
  | some other =>
    if other = id ∨ draft.areJoined .knows id other = true then draft
    else
      let otherEntry := (cast.find? fun member => decide (member.1 = other)).map Prod.snd
      let targetThinks := (otherEntry.bind fun entry => draft.thoughtsAbout entry id).getD ""
      draft.link id other (.knows known.2.relationship known.2.thoughts targetThinks)

end Draft

end StoryWorld
