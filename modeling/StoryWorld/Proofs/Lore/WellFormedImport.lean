import StoryWorld.Proofs.Attempts
import StoryWorld.Proofs.Lore.Findings
import StoryWorld.Proofs.Store.Consistency

/-!
# Every import is a well-formed world

Entries may collide, refer to themselves, to nothing, or be about nothing known. Whatever they are,
as long as there are ordinals for what they become, importing them gives a world in which
everything is in its place (`Outcome.WellFormed`): its snapshot is valid, its edges keep to the
rules of connection and none says the same as another, and its elements are numbered in order. An
edge that the rules forbid is never tried, so each finding is counted as one of three sorts. Such a
world can be loaded into any store, which then continues the numbers.

The main statement is `importEntries_wellFormed`. It is read off the description of the whole
import, `Draft.assembled`.
-/

set_option autoImplicit false

namespace StoryWorld

/-! ## Links that say different things -/

/-- Two links of one kind do not lead from the same node to the same node, and if the kind is
symmetric they do not join the same nodes at all. -/
def Link.Apart (first second : Link) : Prop :=
  first.kind.type = second.kind.type →
    ¬ (first.source = second.source ∧ first.target = second.target) ∧
      (first.kind.type ≠ .spawn → ¬ first.Joins second.source second.target)

theorem Link.apart_of_type_ne {first second : Link} (other : first.kind.type ≠ second.kind.type) :
    first.Apart second :=
  fun same => absurd same other

theorem Link.apart_of_not_joins {first second : Link}
    (unjoined : ¬ first.Joins second.source second.target) : first.Apart second :=
  fun _ => ⟨fun same => unjoined (Or.inl same), fun _ => unjoined⟩

namespace Draft

theorem pairwise_apart_linksOnce (kept links : List Link) :
    (linksOnce kept links).Pairwise Link.Apart :=
  (pairwise_linksOnce kept links).imp fun unjoined => Link.apart_of_not_joins unjoined

section Assembled

variable {config : Config} {total : Nat} {items : List (Nat × Entry)} {last : Draft}
  {findings : List Finding} (whole : Assembled config total items last findings)

include whole

/-- No two spawn edges lead from one node to one place. -/
theorem Assembled.pairwise_apart_spawnLinks :
    ((castPlacements config total items).flatMap
      (Placement.spawnLinks config.graph last)).Pairwise Link.Apart := by
  refine List.pairwise_flatMap.2 ⟨fun placed _ => ?_, ?_⟩
  · -- The targets of one table are its keys.
    unfold Placement.spawnLinks
    split
    · exact List.Pairwise.nil
    · refine List.pairwise_map.2 ?_
      have keys := (spawnTargets config.graph last placed.entry.spawnTable).targets.keys_nodup
      refine (List.pairwise_map.1 keys).imp fun differ _ => ⟨fun same => differ same.2, ?_⟩
      exact fun notSpawn => absurd rfl notSpawn
  · -- The sources of two tables are different nodes.
    refine (List.pairwise_map.1 whole.nodup_cast).imp fun differ first inFirst second inSecond => ?_
    have fromFirst := source_of_mem_spawnLinks inFirst
    have fromSecond := source_of_mem_spawnLinks inSecond
    intro _
    refine ⟨fun same => differ ?_, fun notSpawn => absurd (type_of_mem_spawnLinks inFirst) notSpawn⟩
    rw [← fromFirst, same.1, fromSecond]

/-- No two links of an import say the same. -/
theorem Assembled.pairwise_apart_links :
    (last.links config total items).Pairwise Link.Apart := by
  have border : ∀ link ∈ linksOnce [] (linked (last.triggerReferences config total items)),
      link.kind.type = .adjacent := fun link member =>
    type_of_mem_adjacencyReferences (mem_linked.1 ((linksOnce_sublist _ _).subset member))
  have know : ∀ link ∈ linksOnce [] (linked (last.knowsReferences config total items)),
      link.kind.type = .knows := fun link member =>
    type_of_mem_acquaintanceReferences (mem_linked.1 ((linksOnce_sublist _ _).subset member))
  have spawn : ∀ link ∈ (castPlacements config total items).flatMap
      (Placement.spawnLinks config.graph last), link.kind.type = .spawn := by
    intro link member
    obtain ⟨placed, -, inside⟩ := List.mem_flatMap.1 member
    exact type_of_mem_spawnLinks inside
  refine List.pairwise_append.2 ⟨List.pairwise_append.2 ⟨whole.pairwise_apart_spawnLinks,
    pairwise_apart_linksOnce _ _, ?_⟩, pairwise_apart_linksOnce _ _, ?_⟩
  · intro first inFirst second inSecond
    refine Link.apart_of_type_ne ?_
    rw [spawn first inFirst, border second inSecond]
    exact EdgeType.noConfusion
  · intro first inFirst second inSecond
    refine Link.apart_of_type_ne ?_
    rw [know second inSecond]
    rcases List.mem_append.1 inFirst with spawns | borders
    · rw [spawn first spawns]
      exact EdgeType.noConfusion
    · rw [border first borders]
      exact EdgeType.noConfusion

/-- Each edge has the number of its place. -/
theorem Assembled.id_of_edge {i : Nat} {edge : Edge} (found : last.edges[i]? = some edge) :
    edge.id = .numbered .edge (i + 1) := by
  rw [whole.edges] at found
  rw [id_of_getElem?_numberedEdges found, Nat.zero_add]

/-- Each edge is the one that its link says. -/
theorem Assembled.link_mem {edge : Edge} (member : edge ∈ last.edges) :
    edge.link ∈ last.links config total items := by
  rw [whole.edges] at member
  exact link_mem_of_mem_numberedEdges member

/-- No two edges say the same. -/
theorem Assembled.pairwise_apart_edges :
    last.edges.Pairwise fun first second => first.link.Apart second.link := by
  have links := whole.pairwise_apart_links
  rw [← map_link_numberedEdges 0 (last.links config total items), ← whole.edges] at links
  exact List.pairwise_map.1 links

/-- The draft has a valid snapshot. -/
theorem Assembled.valid_snapshot : (⟨last.nodes, last.edges⟩ : Snapshot).Valid where
  ids_nodup := by
    refine List.nodup_append.2 ⟨whole.indexed.nodup, ?_, ?_⟩
    · refine List.pairwise_iff_getElem.2 fun i j inside insideToo before same => ?_
      simp only [List.length_map] at inside insideToo
      simp only [List.getElem_map] at same
      rw [whole.id_of_edge (List.getElem?_eq_getElem inside),
        whole.id_of_edge (List.getElem?_eq_getElem insideToo)] at same
      have number := (ElementId.numbered_inj same).2
      omega
    · intro id isNode other isEdge same
      obtain ⟨node, nodeMember, rfl⟩ := List.mem_map.1 isNode
      obtain ⟨edge, edgeMember, rfl⟩ := List.mem_map.1 isEdge
      obtain ⟨i, nodeFound⟩ := List.mem_iff_getElem?.1 nodeMember
      obtain ⟨j, edgeFound⟩ := List.mem_iff_getElem?.1 edgeMember
      rw [whole.indexed.numbered i node nodeFound, whole.id_of_edge edgeFound] at same
      exact IdKind.noConfusion (ElementId.numbered_inj same).1
  parents := fun node member parent placed => by
    obtain ⟨location, inside, own, typed⟩ := whole.indexed.parents node member parent placed
    exact ⟨location, inside, own, typed⟩
  ends := fun edge member => by
    obtain ⟨source, inside, target, insideToo, fromHere, toThere, -⟩ :=
      whole.admits (whole.link_mem member)
    exact ⟨⟨source, inside, fromHere⟩, ⟨target, insideToo, toThere⟩⟩

end Assembled

/-! ## Findings -/

end Draft

/-- The finding is about an edge that the rules of connection do not allow. -/
def Finding.isRejected : Finding → Bool
  | .rejectedConnection .. => true
  | _ => false

namespace Draft

/-- Nothing that an import finds is about an edge that is not allowed. -/
theorem isRejected_of_mem_remarks {config : Config} {total : Nat} {items : List (Nat × Entry)}
    {last : Draft} {finding : Finding} (member : finding ∈ last.remarks config total items) :
    finding.isRejected = false := by
  have sort := sort_of_mem_remarks member
  cases finding with
  | rejectedConnection source target reason =>
    simp [Finding.isSkipped, Finding.isCollision, Finding.isUnresolved] at sort
  | _ => rfl

end Draft

/-- Findings that are not about rejected edges are counted as one of the three sorts. -/
theorem Report.tallies_add_up {report : Report}
    (none : ∀ finding ∈ report.findings, finding.isRejected = false) :
    report.unresolved.length + report.collisions.length + report.skipped.length =
      report.findings.length := by
  obtain ⟨findings⟩ := report
  simp only [unresolved, collisions, skipped] at none ⊢
  induction findings with
  | nil => rfl
  | cons finding rest ih =>
    have later := ih fun other member => none other (List.mem_cons_of_mem _ member)
    have here := none finding (List.mem_cons_self ..)
    cases finding with
    | rejectedConnection source target reason => cases here
    | unresolvedReference | keywordCollision | sublocationCollision | unknownCategory
    | malformedEntry =>
      simp only [List.filter_cons, Finding.isUnresolved, Finding.isCollision, Finding.isSkipped,
        Bool.false_eq_true, if_true, if_false, List.length_cons]
      omega

/-! ## Numbering on -/

/-- The world's elements are numbered in order. -/
structure Snapshot.InOrder (world : Snapshot) : Prop where
  nodes : ∀ (i : Nat) (node : Node), world.nodes[i]? = some node →
    node.id = .numbered (.node node.type) (i + 1)
  edges : ∀ (i : Nat) (edge : Edge), world.edges[i]? = some edge →
    edge.id = .numbered .edge (i + 1)

/-- After a world whose elements are numbered in order, numbering goes on from their counts. -/
theorem Snapshot.InOrder.pastAll_ids {world : Snapshot} (inOrder : world.InOrder)
    (fewNodes : world.nodes.length < ElementId.maxOrdinal)
    (fewEdges : world.edges.length < ElementId.maxOrdinal) :
    Numbering.pastAll world.ids =
      ⟨some (world.nodes.length + 1), some (world.edges.length + 1)⟩ := by
  have nodes : Numbering.Counted .node (world.nodes.map Node.id) :=
    .of_numbered (fun node => .node node.type) (fun _ => rfl) inOrder.nodes (Nat.le_of_lt fewNodes)
  have edges : Numbering.Counted .edge (world.edges.map Edge.id) :=
    .of_numbered (fun _ => .edge) (fun _ => rfl) inOrder.edges (Nat.le_of_lt fewEdges)
  rw [← List.length_map Node.id] at fewNodes ⊢
  rw [← List.length_map Edge.id] at fewEdges ⊢
  exact Numbering.pastAll_of_counted nodes edges fewNodes fewEdges

/-- A valid world is loaded, and numbering goes on past its identities. -/
theorem Store.load_of_validate (store : Store) {world : Snapshot}
    (valid : world.validate = .ok ()) :
    ∃ after, store.load world = .ok after ∧ after.numbering = .pastAll world.ids :=
  ⟨_, store.load_eq valid, rfl⟩

/-! ## The main statement -/

/-- What every import is. -/
structure Outcome.WellFormed (outcome : Outcome) : Prop where
  /-- The snapshot is accepted. -/
  valid : outcome.world.validate = .ok ()
  /-- Every edge is accepted between the nodes at its ends. -/
  connected : ∀ edge ∈ outcome.world.edges, ∃ source target,
    outcome.world.node? edge.source = some source ∧
      outcome.world.node? edge.target = some target ∧
        validateConnection source target edge.type = .ok ()
  /-- No node has two spawn edges to one location. -/
  spawns_once : outcome.world.edges.Pairwise fun first second =>
    first.type = .spawn → second.type = .spawn →
      ¬ (first.source = second.source ∧ first.target = second.target)
  /-- No two locations are joined twice. -/
  adjacent_once : outcome.world.edges.Pairwise fun first second =>
    first.type = .adjacent → second.type = .adjacent →
      first.joins second.source second.target = false
  /-- No two characters are joined twice. -/
  knows_once : outcome.world.edges.Pairwise fun first second =>
    first.type = .knows → second.type = .knows →
      first.joins second.source second.target = false
  /-- Nodes and edges are numbered in order. -/
  in_order : outcome.world.InOrder
  /-- No edge was tried that the rules forbid. -/
  none_rejected : ∀ finding ∈ outcome.report.findings, ∀ source target reason,
    finding ≠ .rejectedConnection source target reason
  /-- The three counts are those of all findings. -/
  tallies : outcome.report.unresolved.length + outcome.report.collisions.length +
    outcome.report.skipped.length = outcome.report.findings.length
  /-- The world can be loaded into any store, which then numbers on. -/
  loads : ∀ store : Store, ∃ after, store.load outcome.world = .ok after ∧
    after.numbering =
      ⟨some (outcome.world.nodes.length + 1), some (outcome.world.edges.length + 1)⟩

/-- Whatever a draft has been assembled from, its outcome is well formed. -/
theorem Draft.Assembled.wellFormed {config : Config} {total : Nat} {items : List (Nat × Entry)}
    {last : Draft} (whole : Assembled config total items last [])
    (fewNodes : last.nodes.length < ElementId.maxOrdinal)
    (fewEdges : last.edges.length < ElementId.maxOrdinal) : last.outcome.WellFormed := by
  have apart := whole.pairwise_apart_edges
  have inOrder : last.outcome.world.InOrder :=
    ⟨whole.indexed.numbered, fun i edge found => whole.id_of_edge found⟩
  have valid : last.outcome.world.validate = .ok () :=
    Snapshot.validate_eq_ok_iff.2 whole.valid_snapshot
  have told : ∀ finding ∈ last.findings, finding.isRejected = false := by
    intro finding member
    rw [whole.findings, List.nil_append] at member
    exact isRejected_of_mem_remarks member
  have joinedOnce : ∀ type, type ≠ .spawn → last.edges.Pairwise fun first second =>
      first.type = type → second.type = type →
        first.joins second.source second.target = false := by
    intro type notSpawn
    refine apart.imp fun {first second} differ firstType secondType => ?_
    have unjoined := (differ (firstType.trans secondType.symm)).2 fun spawns =>
      notSpawn (firstType.symm.trans spawns)
    exact decide_eq_false unjoined
  exact {
    valid := valid
    connected := fun edge member => by
      obtain ⟨source, inside, target, insideToo, fromHere, toThere, allowed⟩ :=
        whole.admits (whole.link_mem member)
      have sourceFound := find?_id_of_mem whole.indexed.nodup inside
      have targetFound := find?_id_of_mem whole.indexed.nodup insideToo
      rw [fromHere] at sourceFound
      rw [toThere] at targetFound
      exact ⟨source, target, sourceFound, targetFound, allowed⟩
    spawns_once := apart.imp fun differ firstType secondType =>
      (differ (firstType.trans secondType.symm)).1
    adjacent_once := joinedOnce .adjacent EdgeType.noConfusion
    knows_once := joinedOnce .knows EdgeType.noConfusion
    in_order := inOrder
    none_rejected := fun finding member source target reason same => by
      have isTold := told finding member
      rw [same] at isTold
      cases isTold
    tallies := Report.tallies_add_up told
    loads := fun store => by
      obtain ⟨after, loaded, numbering⟩ := Store.load_of_validate store valid
      exact ⟨after, loaded, numbering.trans (inOrder.pastAll_ids fewNodes fewEdges)⟩ }

/-- **Every import is a well-formed world.** Whatever entries are imported, if fewer nodes and edges
come of them than there are ordinals, the import succeeds and its outcome is well formed. -/
theorem importEntries_wellFormed (config : Config) (entries : List Entry)
    (fewNodes : (importDraft config entries).nodes.length < ElementId.maxOrdinal)
    (fewEdges : (importDraft config entries).edges.length < ElementId.maxOrdinal) :
    ∃ outcome, importEntries config entries = .ok outcome ∧ outcome.WellFormed := by
  refine ⟨(importDraft config entries).outcome, ?_, ?_⟩
  · exact Draft.finish_of_le (Nat.le_of_lt fewNodes) (Nat.le_of_lt fewEdges)
  · exact (Draft.assembled config _ _ []).wellFormed fewNodes fewEdges

/-- Two locations that claim the same words, a character who knows only herself, an event without a
name, and an entry about nothing known. -/
def contestedEntries : List Entry :=
  [{ Entry.blank .location "Inn" with
      keywords := ["Inn", "INN"], triggers := ["mill", "inn", "moon"] }.withSublocation "Bar",
    { Entry.blank .location "Mill" with
      keywords := ["inn", "mill"], triggers := ["inn"] }.withSublocation "bar",
    { Entry.blank .character "Ada" with keywords := ["ada"] }.withAcquaintance "ADA"
      ⟨"self", ""⟩,
    (Entry.blank .event "").withSpawn "bar" 1,
    .blank (.other "weather") "Rain"]

theorem contestedEntries_wellFormed :
    (importDraft {} contestedEntries).nodes.length < ElementId.maxOrdinal ∧
      (importDraft {} contestedEntries).edges.length < ElementId.maxOrdinal ∧
        ∃ outcome, importEntries {} contestedEntries = .ok outcome ∧ outcome.WellFormed := by
  have fewNodes : (importDraft {} contestedEntries).nodes.length < ElementId.maxOrdinal := by
    decide +kernel
  have fewEdges : (importDraft {} contestedEntries).edges.length < ElementId.maxOrdinal := by
    decide +kernel
  exact ⟨fewNodes, fewEdges, importEntries_wellFormed {} contestedEntries fewNodes fewEdges⟩

end StoryWorld
