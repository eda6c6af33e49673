import StoryWorld.Lore.Import
import StoryWorld.Store.Numbering

/-!
# Importing step by step

`Draft.assemble` tells the next identity by the number of elements and sees from the edges whether
two nodes are linked, and `Draft.finish` looks up at the end whether there are ordinals for all
elements. Here the same passes are carried out on a workbench, one step after another. Each identity
is taken from a numbering, which moves on and may be spent in the middle of a pass, and the pairs
that have been linked are noted.
-/

set_option autoImplicit false

namespace StoryWorld

/-- Where an import is carried out: the draft, the numbering that its identities come from, and the
pairs that have been linked, each with the kind of edge. -/
structure Workbench where
  draft : Draft
  numbering : Numbering
  pairs : List (EdgeType × ElementId × ElementId)
  deriving DecidableEq

/-- The bench on which nothing has been made. -/
def Workbench.start (findings : List Finding) : Workbench := ⟨.start findings, .start, []⟩

/-- Two identities, the one with the lesser text first. -/
def unordered (a b : ElementId) : ElementId × ElementId :=
  if a.text ≤ b.text then (a, b) else (b, a)

/-- A part of an import. It may run out of identities on the way. -/
abbrev Work (α : Type) : Type := StateT Workbench (Except Refusal) α

namespace Work

/-! ## Single steps -/

/-- The draft as it is by now. -/
def draft : Work Draft := return (← get).draft

/-- Changes the draft. -/
def revise (change : Draft → Draft) : Work Unit :=
  modify fun bench => { bench with draft := change bench.draft }

/-- Adds findings. -/
def report (findings : List Finding) : Work Unit := revise fun draft => draft.report findings

/-- Takes a new identity from the numbering, which moves on. -/
def allocate (kind : IdKind) : Work ElementId := do
  let bench ← get
  let (id, numbering) ← bench.numbering.allocate kind
  set { bench with numbering := numbering }
  return id

/-- Changes the draft for a new identity, and tells the identity. -/
def add (kind : IdKind) (change : ElementId → Draft → Draft) : Work ElementId := do
  let id ← allocate kind
  revise (change id)
  return id

/-- Adds the node that is made for a new identity, and tells the identity. -/
def addNode (type : NodeType) (make : ElementId → Node) : Work ElementId :=
  add (.node type) fun id draft => draft.addNode (make id)

/-- Adds an edge under a new identity. -/
def addEdge (source target : ElementId) (kind : EdgeKind) : Work Unit := do
  let _ ← add .edge fun id draft =>
    { draft with edges := draft.edges ++ [⟨id, source, target, kind⟩] }

/-- Adds an edge between two nodes, if the rules of connection allow it. -/
def link (source target : ElementId) (kind : EdgeKind) : Work Unit := do
  let draft ← Work.draft
  match draft.node? source, draft.node? target with
  | some sourceNode, some targetNode =>
    match validateConnection sourceNode targetNode kind.type with
    | .ok () => addEdge source target kind
    | .error reason => report [.rejectedConnection source target reason]
  | _, _ => return ()

/-- Notes a pair under a kind of edge, and tells whether it is new. -/
def note (type : EdgeType) (a b : ElementId) : Work Bool := do
  let bench ← get
  if (type, unordered a b) ∈ bench.pairs then return false
  else
    set { bench with pairs := bench.pairs ++ [(type, unordered a b)] }
    return true

/-- Links two different nodes, unless their pair has been noted before. -/
def linkOnce (id other : ElementId) (kind : EdgeKind) : Work Unit := do
  if other ≠ id then
    if ← note kind.type id other then link id other kind

/-! ## Locations -/

/-- Adds a sublocation of a location and declares its name. -/
def addSublocation (parent : ElementId) (position : Position) (name : String) (images : Images) :
    Work Unit := do
  let id ← addNode .sublocation fun id =>
    { Node.blank id name (.sublocation parent) with position := position, images := images }
  revise fun draft =>
    match draft.sublocations.get? (Text.lowercase name) with
    | none =>
      { draft with
        sublocations := draft.sublocations.insertNew (Text.lowercase name) ⟨id, parent, name⟩ }
    | some kept => draft.report [.sublocationCollision name kept.id id]

/-- Adds the location of an entry with its sublocations, and tells its identity. -/
def addLocation (settings : GraphSettings) (entry : Entry) (position : Position) :
    Work ElementId := do
  let id ← addNode .location fun id => Draft.nodeOf id entry entry.name .location position
  revise fun draft =>
    let (locations, findings) := Draft.claim .location id draft.locations entry.keywords
    ({ draft with locations := locations }).report findings
  let sublocations := Draft.sublocationsOf entry
  sublocations.forM fun sublocation =>
    addSublocation id (settings.sublocationPosition position sublocation.1 sublocations.length)
      sublocation.2.1 sublocation.2.2.images
  return id

/-! ## Characters and events -/

/-- Adds the spawn edges of a node, one for each location that its table leads to. -/
def addSpawns (settings : GraphSettings) (source : ElementId) (entry : Entry) : Work Unit := do
  let draft ← Work.draft
  let found := Draft.spawnTargets settings draft entry.spawnTable
  report (found.unresolved.map (.unresolvedReference entry.name .canSpawnAt))
  found.targets.entries.forM fun target => link source target.1 (.spawn target.2.1 target.2.2)

/-- Adds the character of an entry, and tells its identity. -/
def addCharacter (settings : GraphSettings) (entry : Entry) (position : Position) :
    Work ElementId := do
  let kind := NodeKind.character (entry.disabledFor.getD [])
  let id ← addNode .character fun id => Draft.nodeOf id entry entry.name kind position
  revise fun draft =>
    let (characters, findings) := Draft.claim .character id draft.characters entry.keywords
    ({ draft with characters := characters }).report findings
  addSpawns settings id entry
  return id

/-- Adds the event of an entry. -/
def addEvent (settings : GraphSettings) (entry : Entry) (position : Position) : Work Unit := do
  let anywhere := entry.spawnTable.get? anyLocation
  let name := if entry.name = "" then unnamedEvent else entry.name
  let kind := NodeKind.event (entry.timeFilter.getD []) anywhere.isSome
    (anywhere.getD settings.defaultGlobalSpawnChance)
  let id ← addNode .event fun id => Draft.nodeOf id entry name kind position
  if anywhere.isSome then return () else addSpawns settings id entry

/-! ## Adjacency and acquaintance -/

/-- Follows one trigger of a location. -/
def addAdjacency (name : String) (id : ElementId) (trigger : String) : Work Unit := do
  let draft ← Work.draft
  match draft.locations.get? (Text.lowercase trigger) with
  | none => report [.unresolvedReference name .triggers trigger]
  | some target => linkOnce id target .adjacent

/-- Follows one acquaintance of a character. -/
def addAcquaintance (cast : List (ElementId × Entry)) (id : ElementId) (name : String)
    (known : String × Acquaintance) : Work Unit := do
  let draft ← Work.draft
  match draft.characters.get? (Text.lowercase known.1) with
  | none => report [.unresolvedReference name .knows known.1]
  | some other =>
    let otherEntry := (cast.find? fun member => decide (member.1 = other)).map Prod.snd
    let targetThinks := (otherEntry.bind fun entry => draft.thoughtsAbout entry id).getD ""
    linkOnce id other (.knows known.2.relationship known.2.thoughts targetThinks)

/-! ## Passes -/

/-- The pass over the locations, which tells the nodes that it has made of entries. -/
def locationPass (config : Config) (total : Nat) (items : List (Nat × Entry)) :
    Work (List (ElementId × Entry)) :=
  items.foldlM
    (fun made item => do
      if item.2.category = .location then
        let id ← addLocation config.graph item.2 (config.layout.gridPosition item.1 total)
        return made ++ [(id, item.2)]
      else return made)
    []

/-- The pass over the characters and events, which tells the characters that it has made. -/
def castPass (config : Config) (total : Nat) (items : List (Nat × Entry)) :
    Work (List (ElementId × Entry)) :=
  items.foldlM
    (fun made item => do
      let position := config.layout.gridPosition item.1 total
      match item.2.category with
      | .character =>
        let id ← addCharacter config.graph item.2 position
        return made ++ [(id, item.2)]
      | .event =>
        addEvent config.graph item.2 position
        return made
      | _ => return made)
    []

/-- The pass over the triggers of the locations. -/
def adjacencyPass (locations : List (ElementId × Entry)) : Work Unit :=
  locations.forM fun location =>
    location.2.triggers.forM (addAdjacency location.2.name location.1)

/-- The pass over the acquaintances of the characters. -/
def acquaintancePass (cast : List (ElementId × Entry)) : Work Unit :=
  cast.forM fun member =>
    (member.2.knows.getD .empty).entries.forM (addAcquaintance cast member.1 member.2.name)

/-- All passes over the entries of a lorebook, each given with its place among all items. -/
def assemble (config : Config) (total : Nat) (items : List (Nat × Entry)) : Work Unit := do
  report (items.filterMap Draft.unknownCategory?)
  let locations ← locationPass config total items
  let cast ← castPass config total items
  adjacencyPass locations
  acquaintancePass cast

end Work

/-- Imports the entries of a lorebook step by step, after what was found while reading them. -/
def importInSteps (config : Config) (total : Nat) (items : List (Nat × Entry))
    (findings : List Finding) : Except ImportError Outcome :=
  match (Work.assemble config total items).run (.start findings) with
  | .ok ((), bench) => .ok ⟨⟨bench.draft.nodes, bench.draft.edges⟩, ⟨bench.draft.findings⟩⟩
  | .error why => .error (.refused why)

end StoryWorld
