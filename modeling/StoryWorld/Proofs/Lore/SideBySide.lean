import StoryWorld.Proofs.Lore.Assembly
import StoryWorld.Proofs.Related

/-!
# Two imports side by side

The place of an entry in its lorebook decides where its node stands on the canvas, and it is named
if the entry is about nothing known. Nothing else in an import depends on it. So the imports of two
lorebooks with the same entries at different places, each with findings of its own made before, take
the same steps: at any time the two drafts are alike (`Draft.Alike`), and what is found on the way
is the same (`alike_assemble`). It is enough that the locations come in the same order, and that the
characters and events do (`alike_assemble_of_groups`).
-/

set_option autoImplicit false

namespace StoryWorld

/-- A node that is the same as another one wherever it stands on the canvas. -/
def Node.Alike (node copy : Node) : Prop := copy = { node with position := copy.position }

namespace Node.Alike

variable {node copy : Node} (alike : node.Alike copy)

include alike

theorem id : copy.id = node.id := by rw [alike]

theorem name : copy.name = node.name := by rw [alike]

theorem keywords : copy.keywords = node.keywords := by rw [alike]

theorem kind : copy.kind = node.kind := by rw [alike]

theorem type : copy.type = node.type := by rw [Node.type, alike.kind, Node.type]

theorem parent : copy.parent = node.parent := by rw [Node.parent, alike.kind, Node.parent]

end Node.Alike

/-- Where nodes stand makes no difference to whether they can be joined. -/
theorem validateConnection_of_alike {source target first second : Node}
    (sources : source.Alike first) (targets : target.Alike second) (type : EdgeType) :
    validateConnection first second type = validateConnection source target type := by
  rw [sources, targets]
  rfl

/-! ## Placements -/

/-- Placements of one entry that differ at most in where its node stands. -/
structure Placement.Alike (placed copy : Placement) : Prop where
  before : copy.before = placed.before
  entry : copy.entry = placed.entry

namespace Placement.Alike

variable {placed copy : Placement} (alike : placed.Alike copy) (settings : GraphSettings)

include alike

theorem id : copy.id = placed.id := by
  rw [Placement.id, alike.before, alike.entry]
  rfl

theorem member : copy.member = placed.member := by
  rw [Placement.member, alike.id, alike.entry]
  rfl

theorem node : (placed.node settings).Alike (copy.node settings) := by
  rw [Node.Alike, Placement.node, alike.id, alike.entry]
  rfl

theorem nodes : List.Forall₂ Node.Alike (placed.nodes settings) (copy.nodes settings) := by
  refine .cons (alike.node settings) ?_
  rw [Placement.sublocations, Placement.sublocations, alike.entry]
  split
  · refine forall₂_map_map fun listed _ => ?_
    rw [Node.Alike, Placement.sublocation, alike.id, alike.before]
    rfl
  · exact .nil

end Placement.Alike

section Items

variable (config : Config) (total totalOther : Nat)

theorem alike_placements {items others : List (Nat × Entry)}
    (each : List.Forall₂ (fun item copy => copy.2 = item.2) items others) (before : Nat) :
    List.Forall₂ Placement.Alike (placements config total before items)
      (placements config totalOther before others) := by
  induction each generalizing before with
  | nil => exact .nil
  | @cons item copy _ _ here _ ih =>
    have alike : Placement.Alike ⟨before, config.layout.gridPosition item.1 total, item.2⟩
        ⟨before, config.layout.gridPosition copy.1 totalOther, copy.2⟩ := ⟨rfl, here⟩
    rw [placements, placements, (alike.nodes config.graph).length_eq]
    exact .cons alike (ih _)

variable {items others : List (Nat × Entry)}
  (places : List.Forall₂ (fun item copy => copy.2 = item.2) (locationItems items)
    (locationItems others))

include places

theorem alike_locationPlacements :
    List.Forall₂ Placement.Alike (locationPlacements config total items)
      (locationPlacements config totalOther others) :=
  alike_placements config total totalOther places 0

/-- The nodes of the locations, one by one. -/
theorem alike_locationNodes :
    List.Forall₂ Node.Alike
      ((locationPlacements config total items).flatMap (Placement.nodes config.graph))
      ((locationPlacements config totalOther others).flatMap (Placement.nodes config.graph)) :=
  List.rel_flatMap (alike_locationPlacements config total totalOther places)
    fun _ _ alike => alike.nodes config.graph

theorem alike_castPlacements
    (cast : List.Forall₂ (fun item copy => copy.2 = item.2) (castItems items)
      (castItems others)) :
    List.Forall₂ Placement.Alike (castPlacements config total items)
      (castPlacements config totalOther others) := by
  rw [castPlacements, (alike_locationNodes config total totalOther places).length_eq]
  exact alike_placements config total totalOther cast _

end Items

/-- The characters of two casts, under the same identities. -/
theorem castMembers_of_alike {cast others : List Placement}
    (each : List.Forall₂ Placement.Alike cast others) :
    Draft.castMembers others = Draft.castMembers cast := by
  refine map_eq_of_forall₂ (List.rel_filter ?_ each) fun placed _ copy alike => alike.member
  intro placed copy alike
  simp only [alike.entry]

/-! ## Drafts -/

namespace Draft

/-- Drafts that began with findings of their own and have taken the same steps since. No entry has
been left out on the way. -/
structure Alike (early earlyOther : List Finding) (draft other : Draft) : Prop where
  nodes : List.Forall₂ Node.Alike draft.nodes other.nodes
  edges : other.edges = draft.edges
  locations : other.locations = draft.locations
  sublocations : other.sublocations = draft.sublocations
  characters : other.characters = draft.characters
  findings : ∃ later, draft.findings = early ++ later ∧ other.findings = earlyOther ++ later ∧
    ∀ finding ∈ later, finding.isSkipped = false

theorem Alike.start (early earlyOther : List Finding) :
    Alike early earlyOther (start early) (start earlyOther) :=
  ⟨.nil, rfl, rfl, rfl, rfl, [], (List.append_nil early).symm, (List.append_nil earlyOther).symm,
    fun _ member => (List.not_mem_nil member).elim⟩

/-- A keyword that leads to another node leaves no entry out. -/
theorem isSkipped_of_mem_claim {scope : NodeType} {id : ElementId} {names : Table String ElementId}
    {keywords : List String} {finding : Finding}
    (member : finding ∈ (claim scope id names keywords).2) : finding.isSkipped = false := by
  induction keywords generalizing names with
  | nil => cases member
  | cons keyword rest ih =>
    rw [claim] at member
    split at member
    · exact ih member
    · dsimp only at member
      split at member
      · exact ih member
      · rcases List.mem_cons.1 member with rfl | later
        · rfl
        · exact ih later

section Steps

variable {early earlyOther : List Finding} {draft other : Draft}
  (alike : Alike early earlyOther draft other)

include alike

theorem Alike.report {findings : List Finding}
    (kept : ∀ finding ∈ findings, finding.isSkipped = false) :
    Alike early earlyOther (draft.report findings) (other.report findings) := by
  obtain ⟨later, isLater, isLaterOther, none⟩ := alike.findings
  refine ⟨alike.nodes, alike.edges, alike.locations, alike.sublocations, alike.characters,
    later ++ findings, ?_, ?_, ?_⟩
  · rw [Draft.report, isLater, List.append_assoc]
  · rw [Draft.report, isLaterOther, List.append_assoc]
  · intro finding member
    rcases List.mem_append.1 member with old | new
    · exact none finding old
    · exact kept finding new

theorem Alike.reportOne {finding : Finding} (kept : finding.isSkipped = false) :
    Alike early earlyOther (draft.report [finding]) (other.report [finding]) :=
  alike.report (List.forall_mem_singleton.2 kept)

theorem Alike.addNode {node copy : Node} (same : node.Alike copy) :
    Alike early earlyOther (draft.addNode node) (other.addNode copy) :=
  ⟨List.rel_append alike.nodes (.cons same .nil), alike.edges, alike.locations, alike.sublocations,
    alike.characters, alike.findings⟩

theorem Alike.declare {node copy : Node} (same : node.Alike copy) :
    Alike early earlyOther (draft.declare node) (other.declare copy) := by
  have added := alike.addNode same
  unfold Draft.declare
  rw [same.kind, same.id, same.keywords, same.name, alike.locations, alike.characters,
    alike.sublocations]
  split
  · refine Alike.report ?_ fun finding member => isSkipped_of_mem_claim member
    exact ⟨added.nodes, added.edges, rfl, added.sublocations, added.characters, added.findings⟩
  · refine Alike.report ?_ fun finding member => isSkipped_of_mem_claim member
    exact ⟨added.nodes, added.edges, added.locations, added.sublocations, rfl, added.findings⟩
  · exact added
  · cases draft.sublocations.get? (Text.lowercase node.name) with
    | none =>
      exact ⟨added.nodes, added.edges, added.locations, rfl, added.characters, added.findings⟩
    | some kept => exact added.reportOne rfl

/-- Nodes under one identity are alike. -/
theorem Alike.node? (id : ElementId) :
    Option.Rel Node.Alike (draft.node? id) (other.node? id) := by
  refine rel_find? alike.nodes fun node copy same => ?_
  rw [same.id]

theorem Alike.link (source target : ElementId) (kind : EdgeKind) :
    Alike early earlyOther (draft.link source target kind) (other.link source target kind) := by
  have sources := alike.node? source
  have targets := alike.node? target
  unfold Draft.link
  generalize draft.node? source = first, other.node? source = first' at sources
  generalize draft.node? target = second, other.node? target = second' at targets
  cases sources with
  | none => exact alike
  | @some first first' sameFirst =>
    cases targets with
    | none => exact alike
    | @some second second' sameSecond =>
      dsimp only
      rw [validateConnection_of_alike sameFirst sameSecond]
      cases validateConnection first second kind.type with
      | ok =>
        refine ⟨alike.nodes, ?_, alike.locations, alike.sublocations, alike.characters,
          alike.findings⟩
        dsimp only [nextEdgeId]
        rw [alike.edges]
      | error => exact alike.reportOne rfl

/-- Steps over related items keep drafts alike if each of them does. -/
theorem Alike.foldl {α β : Type} {related : α → β → Prop} {items : List α} {others : List β}
    {step : Draft → α → Draft} {stepOther : Draft → β → Draft}
    (each : List.Forall₂ related items others)
    (keeps : ∀ draft other item copy, related item copy → Alike early earlyOther draft other →
      Alike early earlyOther (step draft item) (stepOther other copy)) :
    Alike early earlyOther (items.foldl step draft) (others.foldl stepOther other) := by
  induction each generalizing draft other with
  | nil => exact alike
  | cons here _ ih => exact ih (keeps _ _ _ _ here alike)

/-- Steps over the same items keep drafts alike if each of them does. -/
theorem Alike.foldl_same {α : Type} (items : List α) {step : Draft → α → Draft}
    (keeps : ∀ draft other item, Alike early earlyOther draft other →
      Alike early earlyOther (step draft item) (step other item)) :
    Alike early earlyOther (items.foldl step draft) (items.foldl step other) := by
  refine alike.foldl (List.forall₂_same.2 fun item _ => rfl) ?_
  rintro draft other item _ rfl alike
  exact keeps draft other item alike

/-! ## Spawn edges -/

/-- What a spawn table leads to is read off the declarations. -/
theorem Alike.spawnTargets (settings : GraphSettings) (table : Table String Float) :
    spawnTargets settings other table = spawnTargets settings draft table := by
  have same : SpawnTargets.follow settings other = SpawnTargets.follow settings draft := by
    funext found spawn
    unfold SpawnTargets.follow
    rw [alike.locations, alike.sublocations]
  unfold Draft.spawnTargets
  rw [same]

theorem Alike.addSpawns (settings : GraphSettings) (source : ElementId) (entry : Entry) :
    Alike early earlyOther (draft.addSpawns settings source entry)
      (other.addSpawns settings source entry) := by
  unfold Draft.addSpawns
  rw [alike.spawnTargets]
  refine Alike.foldl_same (alike.report fun finding member => ?_) _
    fun _ _ target alike => alike.link _ _ _
  obtain ⟨key, -, rfl⟩ := List.mem_map.1 member
  rfl

theorem Alike.enrol (settings : GraphSettings) {placed copy : Placement}
    (same : placed.Alike copy) :
    Alike early earlyOther (draft.enrol settings placed) (other.enrol settings copy) := by
  have declared := alike.declare (same.node settings)
  unfold Draft.enrol
  rw [same.entry, same.id]
  split
  · exact declared
  · exact declared.addSpawns settings _ _

/-! ## Adjacency and acquaintance -/

theorem Alike.areJoined (type : EdgeType) (a b : ElementId) :
    other.areJoined type a b = draft.areJoined type a b := by
  unfold Draft.areJoined
  rw [alike.edges]

theorem Alike.addAdjacency (name : String) (id : ElementId) (trigger : String) :
    Alike early earlyOther (addAdjacency name id draft trigger)
      (addAdjacency name id other trigger) := by
  unfold Draft.addAdjacency
  rw [alike.locations]
  split
  · exact alike.reportOne rfl
  · rw [alike.areJoined]
    split
    · exact alike
    · exact alike.link _ _ _

theorem Alike.thoughtsAbout (entry : Entry) (about : ElementId) :
    other.thoughtsAbout entry about = draft.thoughtsAbout entry about := by
  unfold Draft.thoughtsAbout
  rw [alike.characters]

theorem Alike.addAcquaintance (cast : List (ElementId × Entry)) (id : ElementId) (name : String)
    (known : String × Acquaintance) :
    Alike early earlyOther (addAcquaintance cast id name draft known)
      (addAcquaintance cast id name other known) := by
  unfold Draft.addAcquaintance
  rw [alike.characters]
  split
  · exact alike.reportOne rfl
  · rw [alike.areJoined]
    split
    · exact alike
    · simp only [alike.thoughtsAbout]
      exact alike.link _ _ _

end Steps

/-! ## Whole imports -/

/-- Imports end alike if they have the same locations in order, and the same characters and events
in order. -/
theorem alike_assemble_of_groups {items others : List (Nat × Entry)}
    (places : List.Forall₂ (fun item copy => copy.2 = item.2) (locationItems items)
      (locationItems others))
    (cast : List.Forall₂ (fun item copy => copy.2 = item.2) (castItems items)
      (castItems others))
    (config : Config) (total totalOther : Nat) (findings findingsOther : List Finding) :
    Alike (findings ++ items.filterMap unknownCategory?)
      (findingsOther ++ others.filterMap unknownCategory?)
      (assemble config total items findings)
      (assemble config totalOther others findingsOther) := by
  have locations := alike_locationPlacements config total totalOther places
  have cast := alike_castPlacements config total totalOther places cast
  have located : Alike (findings ++ items.filterMap unknownCategory?)
      (findingsOther ++ others.filterMap unknownCategory?)
      (located config total items findings) (located config totalOther others findingsOther) :=
    (Alike.start _ _).foldl (alike_locationNodes config total totalOther places)
      fun _ _ _ _ same alike => alike.declare same
  have enrolled : Alike (findings ++ items.filterMap unknownCategory?)
      (findingsOther ++ others.filterMap unknownCategory?)
      (enrolled config total items findings) (enrolled config totalOther others findingsOther) :=
    located.foldl cast fun _ _ _ _ same alike => alike.enrol config.graph same
  have members : (locationPlacements config totalOther others).map Placement.member =
      (locationPlacements config total items).map Placement.member :=
    map_eq_of_forall₂ locations fun _ _ _ alike => alike.member
  rw [assemble_eq, assemble_eq, members, castMembers_of_alike cast]
  unfold acquaintancePass adjacencyPass
  refine Alike.foldl_same (enrolled.foldl_same _ ?_) _ ?_
  · intro draft other location alike
    exact alike.foldl_same _ fun _ _ trigger alike => alike.addAdjacency _ _ trigger
  · intro draft other character alike
    exact alike.foldl_same _ fun _ _ known alike => alike.addAcquaintance _ _ _ known

/-- **Imports of the same entries at different places end alike.** -/
theorem alike_assemble {items others : List (Nat × Entry)}
    (each : List.Forall₂ (fun item copy => copy.2 = item.2) items others)
    (config : Config) (total totalOther : Nat) (findings findingsOther : List Finding) :
    Alike (findings ++ items.filterMap unknownCategory?)
      (findingsOther ++ others.filterMap unknownCategory?)
      (assemble config total items findings)
      (assemble config totalOther others findingsOther) := by
  refine alike_assemble_of_groups (List.rel_filter ?_ each) (List.rel_filter ?_ each) config total
    totalOther findings findingsOther
  · intro item copy same
    simp only [same]
  · intro item copy same
    simp only [same]

/-- Drafts that are alike are finished alike. -/
theorem Alike.finish {early earlyOther : List Finding} {draft other : Draft}
    (alike : Alike early earlyOther draft other) :
    (∃ why, draft.finish = .error why ∧ other.finish = .error why) ∨
      draft.finish = .ok draft.outcome ∧ other.finish = .ok other.outcome := by
  unfold Draft.finish
  rw [alike.nodes.length_eq, alike.edges]
  split
  · exact Or.inl ⟨_, rfl, rfl⟩
  · split
    · exact Or.inl ⟨_, rfl, rfl⟩
    · exact Or.inr ⟨rfl, by rw [outcome, alike.edges]⟩

end Draft

end StoryWorld
