import StoryWorld.Proofs.Lore.Enrolment
import StoryWorld.Proofs.Lore.Mentions

/-!
# The whole of an import

The passes of an import read tables that are still being filled. Seen from the end this makes no
difference: once a word is declared it leads to the same node ever after, all locations and
sublocations are declared before the first spawn table is followed, and all characters before the
first acquaintance. So the draft that comes out (`Draft.Assembled`) is described by the placements
of the entries and by its own tables: its nodes are those of the placements, its edges are those of
the spawn tables, then one for each pair of adjacent locations, then one for each pair of acquainted
characters, and each of its findings is a word that leads to another node, or a key that leads
nowhere (`assembled`).
-/

set_option autoImplicit false

namespace StoryWorld

/-- Where the locations of a lorebook come. -/
def locationPlacements (config : Config) (total : Nat) (items : List (Nat × Entry)) :
    List Placement :=
  placements config total 0 (locationItems items)

/-- Where the characters and events of a lorebook come: after the locations. -/
def castPlacements (config : Config) (total : Nat) (items : List (Nat × Entry)) :
    List Placement :=
  placements config total
    ((locationPlacements config total items).flatMap (Placement.nodes config.graph)).length
    (castItems items)

namespace Draft

section Assembled

variable (config : Config) (total : Nat) (items : List (Nat × Entry)) (last : Draft)

/-- The references of all triggers of a lorebook. -/
def triggerReferences : List Reference :=
  last.adjacencyReferences ((locationPlacements config total items).map Placement.member)

/-- The references of all acquaintances of a lorebook. -/
def knowsReferences : List Reference :=
  last.acquaintanceReferences (castMembers (castPlacements config total items))

/-- What an import links, in order: places of spawn tables, adjacent locations, characters that know
each other. -/
def links : List Link :=
  (castPlacements config total items).flatMap (Placement.spawnLinks config.graph last) ++
    linksOnce [] (linked (last.triggerReferences config total items)) ++
    linksOnce [] (linked (last.knowsReferences config total items))

/-- What an import finds, in order. -/
def remarks : List Finding :=
  items.filterMap unknownCategory? ++
    ((locationPlacements config total items).flatMap (Placement.nodes config.graph)).flatMap
      last.collisionsOf ++
    ((castPlacements config total items).flatMap fun one =>
      last.collisionsOf (one.node config.graph) ++ one.lostSpawns config.graph last) ++
    lost (last.triggerReferences config total items) ++
    lost (last.knowsReferences config total items)

/-- The nodes of an import: locations with their sublocations, then characters and events. -/
def importedNodes : List Node :=
  (locationPlacements config total items).flatMap (Placement.nodes config.graph) ++
    (castPlacements config total items).map (Placement.node config.graph)

/-- What comes out of all passes, said by the placements of the entries and the last tables. -/
structure Assembled (findings : List Finding) : Prop where
  indexed : last.Indexed
  nodes : last.nodes = importedNodes config total items
  edges : last.edges = numberedEdges 0 (last.links config total items)
  findings : last.findings = findings ++ last.remarks config total items

end Assembled

/-- Every link of a spawn table is one of a spawn edge. -/
theorem type_of_mem_spawnLinks {settings : GraphSettings} {last : Draft} {placed : Placement}
    {link : Link} (member : link ∈ placed.spawnLinks settings last) : link.kind.type = .spawn := by
  unfold Placement.spawnLinks at member
  split at member
  · cases member
  · obtain ⟨target, -, rfl⟩ := List.mem_map.1 member
    rfl

/-- Every link of a spawn table comes from the node of its entry. -/
theorem source_of_mem_spawnLinks {settings : GraphSettings} {last : Draft} {placed : Placement}
    {link : Link} (member : link ∈ placed.spawnLinks settings last) : link.source = placed.id := by
  unfold Placement.spawnLinks at member
  split at member
  · cases member
  · obtain ⟨target, -, rfl⟩ := List.mem_map.1 member
    rfl

/-- The placements of locations are those of entries about locations. -/
theorem isLocation_of_mem {config : Config} {total : Nat} {items : List (Nat × Entry)}
    {placed : Placement} (member : placed ∈ locationPlacements config total items) :
    placed.entry.IsLocation := by
  obtain ⟨item, chosen, same⟩ := List.mem_map.1 (entry_mem_of_mem_placements member)
  rw [← same]
  exact of_decide_eq_true (List.mem_filter.1 chosen).2

/-- The placements of the cast are those of entries about characters and events. -/
theorem isCast_of_mem {config : Config} {total : Nat} {items : List (Nat × Entry)}
    {placed : Placement} (member : placed ∈ castPlacements config total items) :
    placed.entry.IsCast := by
  obtain ⟨item, chosen, same⟩ := List.mem_map.1 (entry_mem_of_mem_placements member)
  rw [← same]
  exact of_decide_eq_true (List.mem_filter.1 chosen).2

section Members

variable {config : Config} {total : Nat} {items : List (Nat × Entry)} {draft : Draft}
  (nodes : draft.nodes = importedNodes config total items)

include nodes

theorem areNodes_locations :
    draft.AreNodes .location ((locationPlacements config total items).map Placement.member) := by
  intro member inside
  obtain ⟨placed, listed, rfl⟩ := List.mem_map.1 inside
  have category : placed.entry.category = .location := isLocation_of_mem listed
  refine ⟨placed.node config.graph, ?_, rfl, ?_⟩
  · rw [nodes]
    exact List.mem_append_left _ (List.mem_flatMap.2 ⟨placed, listed, List.mem_cons_self ..⟩)
  · rw [Placement.type_node, Entry.nodeType, category]
    rfl

theorem areNodes_cast :
    draft.AreNodes .character (castMembers (castPlacements config total items)) := by
  intro member inside
  obtain ⟨placed, listed, rfl⟩ := List.mem_map.1 inside
  obtain ⟨listed, chosen⟩ := List.mem_filter.1 listed
  have category : placed.entry.category = .character := of_decide_eq_true chosen
  refine ⟨placed.node config.graph, ?_, rfl, ?_⟩
  · rw [nodes]
    exact List.mem_append_right _ (List.mem_map_of_mem listed)
  · rw [Placement.type_node, Entry.nodeType, category]
    rfl

end Members

/-- Whatever edges and findings are added, the tables and nodes stay in order. -/
theorem Indexed.add {draft : Draft} (indexed : draft.Indexed) (links : List Link)
    (findings : List Finding) : ((draft.addLinks links).report findings).Indexed :=
  ⟨indexed.numbered, indexed.parents, indexed.locations, indexed.characters, indexed.sublocations⟩

/-! ## The drafts in between -/

/-- The draft after the pass over the locations. -/
def located (config : Config) (total : Nat) (items : List (Nat × Entry))
    (findings : List Finding) : Draft :=
  ((locationPlacements config total items).flatMap (Placement.nodes config.graph)).foldl declare
    (start (findings ++ items.filterMap unknownCategory?))

/-- The draft after the pass over the characters and events. -/
def enrolled (config : Config) (total : Nat) (items : List (Nat × Entry))
    (findings : List Finding) : Draft :=
  (castPlacements config total items).foldl (enrol config.graph)
    (located config total items findings)

section Between

variable (config : Config) (total : Nat) (items : List (Nat × Entry)) (findings : List Finding)

theorem declared_located :
    Declared (start (findings ++ items.filterMap unknownCategory?))
      ((locationPlacements config total items).flatMap (Placement.nodes config.graph))
      (located config total items findings) :=
  declared_placements config total
    (fun _ member => of_decide_eq_true (List.mem_filter.1 member).2) (.start _)

theorem nodes_located :
    (located config total items findings).nodes =
      (locationPlacements config total items).flatMap (Placement.nodes config.graph) :=
  (declared_located config total items findings).nodes.trans (List.nil_append _)

theorem enrolled_enrolled :
    Enrolled config.graph (located config total items findings)
      (castPlacements config total items) (enrolled config total items findings) := by
  have whole := @enrolled_placements config total (castItems items)
    (fun _ member => of_decide_eq_true (List.mem_filter.1 member).2) _
    (declared_located config total items findings).indexed
  rw [nodes_located] at whole
  exact whole

theorem nodes_enrolled :
    (enrolled config total items findings).nodes = importedNodes config total items := by
  rw [(enrolled_enrolled config total items findings).nodes, nodes_located]
  rfl

theorem edges_enrolled :
    (enrolled config total items findings).edges =
      numberedEdges 0 ((castPlacements config total items).flatMap
        (Placement.spawnLinks config.graph (enrolled config total items findings))) := by
  have joined := enrolled_enrolled config total items findings
  have same : Placement.spawnLinks config.graph (enrolled config total items findings) =
      Placement.spawnLinks config.graph (located config total items findings) :=
    funext (Placement.spawnLinks_congr config.graph joined.places.1 joined.places.2)
  rw [joined.edges, (declared_located config total items findings).edges, same]
  rfl

/-- So far all edges are spawn edges. -/
theorem type_of_mem_edges_enrolled {edge : Edge}
    (member : edge ∈ (enrolled config total items findings).edges) : edge.type = .spawn := by
  rw [edges_enrolled] at member
  obtain ⟨placed, -, inside⟩ := List.mem_flatMap.1 (link_mem_of_mem_numberedEdges member)
  exact type_of_mem_spawnLinks inside

theorem findings_enrolled {last : Draft} (keeps : last.Keeps (enrolled config total items findings))
    (places : last.SamePlaces (enrolled config total items findings)) :
    (enrolled config total items findings).findings =
      findings ++ (items.filterMap unknownCategory? ++
        ((locationPlacements config total items).flatMap (Placement.nodes config.graph)).flatMap
          last.collisionsOf ++
        (castPlacements config total items).flatMap fun one =>
          last.collisionsOf (one.node config.graph) ++ one.lostSpawns config.graph last) := by
  have joined := enrolled_enrolled config total items findings
  rw [joined.findings last keeps places,
    (declared_located config total items findings).findings last (keeps.trans joined.keeps)]
  simp only [start, List.append_assoc]

/-- The passes that declare the entries enrol them. -/
theorem castPass_locationPass :
    castPass config total
        (locationPass config total (start (findings ++ items.filterMap unknownCategory?))
          items).draft items =
      ⟨enrolled config total items findings,
        castMembers (castPlacements config total items)⟩ := by
  have count : (located config total items findings).nodes.length =
      ((locationPlacements config total items).flatMap (Placement.nodes config.graph)).length := by
    rw [nodes_located]
  rw [locationPass_eq, castPass_eq]
  change (⟨(placements config total (located config total items findings).nodes.length
    (castItems items)).foldl (enrol config.graph) (located config total items findings),
      castMembers (placements config total (located config total items findings).nodes.length
        (castItems items))⟩ : Pass) = _
  rw [count]
  rfl

/-- The passes restated over placements. -/
theorem assemble_eq :
    assemble config total items findings =
      acquaintancePass
        (adjacencyPass (enrolled config total items findings)
          ((locationPlacements config total items).map Placement.member))
        (castMembers (castPlacements config total items)) := by
  rw [assemble, castPass_locationPass, locationPass_eq]
  rfl

/-- **The passes put together.** What comes out of an import is described by its last tables. -/
theorem assembled :
    Assembled config total items (assemble config total items findings) findings := by
  let middle := enrolled config total items findings
  have joined : Enrolled config.graph (located config total items findings)
    (castPlacements config total items) middle := enrolled_enrolled config total items findings
  have nodes : middle.nodes = importedNodes config total items :=
    nodes_enrolled config total items findings
  let adjacent := (middle.addLinks
    (linksOnce [] (linked (middle.triggerReferences config total items)))).report
      (lost (middle.triggerReferences config total items))
  have indexed : adjacent.Indexed := joined.indexed.add _ _
  have adjacencyMade : adjacencyPass middle ((locationPlacements config total items).map
      Placement.member) = adjacent := by
    refine joined.indexed.adjacencyPass_eq (fun edge member typed => ?_) (areNodes_locations nodes)
    rw [type_of_mem_edges_enrolled config total items findings member] at typed
    cases typed
  have acquaintanceMade : acquaintancePass adjacent
      (castMembers (castPlacements config total items)) =
        (adjacent.addLinks
          (linksOnce [] (linked (adjacent.knowsReferences config total items)))).report
            (lost (adjacent.knowsReferences config total items)) := by
    refine indexed.acquaintancePass_eq (fun edge member typed => ?_) (areNodes_cast nodes)
    rcases List.mem_append.1 member with old | new
    · rw [type_of_mem_edges_enrolled config total items findings old] at typed
      cases typed
    · have inside := (linksOnce_sublist _ _).subset (link_mem_of_mem_numberedEdges new)
      have borders : edge.type = .adjacent :=
        type_of_mem_adjacencyReferences (mem_linked.1 inside)
      rw [borders] at typed
      cases typed
  rw [assemble_eq]
  change Assembled config total items
    (acquaintancePass (adjacencyPass middle _) _) findings
  rw [adjacencyMade, acquaintanceMade]
  refine ⟨indexed.add _ _, nodes, ?_, ?_⟩
  · have spawnEdges : middle.edges = numberedEdges 0 ((castPlacements config total items).flatMap
        (Placement.spawnLinks config.graph middle)) := edges_enrolled config total items findings
    change (middle.edges ++ numberedEdges middle.edges.length _) ++
      numberedEdges (middle.edges ++ numberedEdges middle.edges.length _).length _ = _
    rw [spawnEdges, length_numberedEdges, ← numberedEdges_append_zero, length_numberedEdges,
      ← numberedEdges_append_zero]
    rfl
  · have keeps : adjacent.Keeps middle := ⟨.refl _, .refl _, .refl _⟩
    have found := findings_enrolled config total items findings keeps ⟨rfl, rfl⟩
    change (middle.findings ++ _) ++ _ = _
    rw [found]
    simp only [remarks, List.append_assoc]
    rfl

end Between

section Consequences

variable {config : Config} {total : Nat} {items : List (Nat × Entry)} {last : Draft}
  {findings : List Finding} (whole : Assembled config total items last findings)

include whole

/-- The node of a placement of the cast is one of the nodes. -/
theorem Assembled.node_mem {placed : Placement}
    (member : placed ∈ castPlacements config total items) :
    placed.node config.graph ∈ last.nodes := by
  rw [whole.nodes]
  exact List.mem_append_right _ (List.mem_map_of_mem member)

/-- The nodes of the cast have different identities. -/
theorem Assembled.nodup_cast : ((castPlacements config total items).map Placement.id).Nodup := by
  have all := whole.indexed.nodup
  rw [whole.nodes, importedNodes, List.map_append, List.map_map] at all
  exact (List.nodup_append.1 all).2.1

/-- The rules of connection allow every link of an import. -/
theorem Assembled.admits {link : Link} (member : link ∈ last.links config total items) :
    last.Admits link := by
  rcases List.mem_append.1 member with member | knows
  · rcases List.mem_append.1 member with spawns | borders
    · obtain ⟨placed, listed, inside⟩ := List.mem_flatMap.1 spawns
      exact whole.indexed.admits_spawnLinks config.graph (isCast_of_mem listed)
        (whole.node_mem listed) link inside
    · exact whole.indexed.admits_adjacency (areNodes_locations whole.nodes)
        (mem_linked.1 ((linksOnce_sublist _ _).subset borders)) (fresh_of_mem_linksOnce borders).1
  · exact whole.indexed.admits_acquaintance (areNodes_cast whole.nodes)
      (mem_linked.1 ((linksOnce_sublist _ _).subset knows)) (fresh_of_mem_linksOnce knows).1

/-- Every link of an import is that of an edge. -/
theorem Assembled.exists_edge_of_link {link : Link}
    (member : link ∈ last.links config total items) : ∃ edge ∈ last.edges, edge.link = link := by
  rw [← map_link_numberedEdges 0 (last.links config total items), ← whole.edges] at member
  exact List.mem_map.1 member

end Consequences

/-! ## The outcome -/

/-- The world and the report of a finished draft. -/
def outcome (draft : Draft) : Outcome := ⟨⟨draft.nodes, draft.edges⟩, ⟨draft.findings⟩⟩

@[simp] theorem findings_outcome (draft : Draft) :
    draft.outcome.report.findings = draft.findings := rfl

theorem finish_of_le {draft : Draft} (fewNodes : draft.nodes.length ≤ ElementId.maxOrdinal)
    (fewEdges : draft.edges.length ≤ ElementId.maxOrdinal) : draft.finish = .ok draft.outcome := by
  rw [finish, if_neg (Nat.not_lt.2 fewNodes), if_neg (Nat.not_lt.2 fewEdges)]
  rfl

end Draft

/-- The draft of an import of entries. -/
def importDraft (config : Config) (entries : List Entry) : Draft :=
  .assemble config entries.length ((List.range entries.length).zip entries) []

theorem assembled_importDraft (config : Config) (entries : List Entry) :
    Draft.Assembled config entries.length ((List.range entries.length).zip entries)
      (importDraft config entries) [] :=
  Draft.assembled config _ _ []

/-- Numbering items keeps them. -/
theorem map_snd_zip_range {α : Type} (items : List α) :
    ((List.range items.length).zip items).map Prod.snd = items :=
  List.map_snd_zip (by simp)

/-- An import of entries fails only where there are not enough ordinals for the nodes or the edges
that come of them. -/
theorem importEntries_cases (config : Config) (entries : List Entry) :
    importEntries config entries = .ok (importDraft config entries).outcome ∨
      (importEntries config entries = .error (.refused (.idsExhausted .node)) ∧
        ElementId.maxOrdinal < (importDraft config entries).nodes.length) ∨
      (importEntries config entries = .error (.refused (.idsExhausted .edge)) ∧
        ElementId.maxOrdinal < (importDraft config entries).edges.length) := by
  rcases Nat.lt_or_ge ElementId.maxOrdinal (importDraft config entries).nodes.length with
    nodes | fewNodes
  · exact Or.inr (Or.inl ⟨if_pos nodes, nodes⟩)
  rcases Nat.lt_or_ge ElementId.maxOrdinal (importDraft config entries).edges.length with
    edges | fewEdges
  · refine Or.inr (Or.inr ⟨?_, edges⟩)
    exact (if_neg (Nat.not_lt.2 fewNodes)).trans (if_pos edges)
  · exact Or.inl (Draft.finish_of_le fewNodes fewEdges)

end StoryWorld
