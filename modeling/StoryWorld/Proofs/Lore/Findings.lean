import StoryWorld.Proofs.Lore.Assembly

/-!
# Findings by sort

The findings of an import come from five places: entries of unknown category, words that are taken,
keys of spawn tables, triggers, and acquaintances. Each place tells findings of one sort only, so
the findings of one sort can be listed without the others: the collisions are those of the nodes,
one node after another (`Assembled.collisions_outcome`), and the unresolved references are those of
the spawn tables, then those of the triggers, then those of the acquaintances
(`Assembled.unresolved_outcome`). Nothing else is found (`sort_of_mem_remarks`).
-/

set_option autoImplicit false

namespace StoryWorld

namespace Draft

/-! ## What each place tells -/

section Places

variable {last : Draft} {finding : Finding}

theorem isCollision_of_mem_keywordCollisions {scope : NodeType} {names : Table String ElementId}
    {id : ElementId} {keywords : List String}
    (member : finding ∈ keywordCollisions scope names id keywords) :
    finding.isCollision = true := by
  obtain ⟨keyword, -, found⟩ := List.mem_filterMap.1 member
  split at found
  · split at found
    · cases found
    · cases found
      rfl
  · cases found

/-- Words that are taken are found as collisions. -/
theorem isCollision_of_mem_collisionsOf {node : Node} (member : finding ∈ last.collisionsOf node) :
    finding.isCollision = true := by
  unfold collisionsOf at member
  split at member
  · exact isCollision_of_mem_keywordCollisions member
  · exact isCollision_of_mem_keywordCollisions member
  · cases member
  · split at member
    · split at member
      · cases member
      · rw [List.mem_singleton.1 member]
        rfl
    · cases member

/-- Keys of spawn tables that lead nowhere are found as unresolved. -/
theorem isUnresolved_of_mem_lostSpawns {settings : GraphSettings} {placed : Placement}
    (member : finding ∈ placed.lostSpawns settings last) : finding.isUnresolved = true := by
  unfold Placement.lostSpawns at member
  split at member
  · cases member
  · obtain ⟨key, -, rfl⟩ := List.mem_map.1 member
    rfl

theorem isUnresolved_of_mem_lost {references : List Reference}
    (told : ∀ finding, .inl finding ∈ references → finding.isUnresolved = true)
    (member : finding ∈ lost references) : finding.isUnresolved = true := by
  obtain ⟨reference, inside, left⟩ := List.mem_filterMap.1 member
  cases reference with
  | inl other =>
    cases left
    exact told finding inside
  | inr link => cases left

/-- Triggers that lead nowhere are found as unresolved. -/
theorem isUnresolved_of_mem_lost_adjacency {members : List (ElementId × Entry)}
    (member : finding ∈ lost (last.adjacencyReferences members)) : finding.isUnresolved = true := by
  refine isUnresolved_of_mem_lost (fun other inside => ?_) member
  obtain ⟨one, -, mentioned⟩ := List.mem_flatMap.1 inside
  obtain ⟨trigger, -, reference⟩ := List.mem_map.1 mentioned
  unfold adjacencyReference at reference
  split at reference <;> cases reference
  rfl

/-- Acquaintances that lead nowhere are found as unresolved. -/
theorem isUnresolved_of_mem_lost_acquaintance {members : List (ElementId × Entry)}
    (member : finding ∈ lost (last.acquaintanceReferences members)) :
    finding.isUnresolved = true := by
  refine isUnresolved_of_mem_lost (fun other inside => ?_) member
  obtain ⟨one, -, mentioned⟩ := List.mem_flatMap.1 inside
  obtain ⟨known, -, reference⟩ := List.mem_map.1 mentioned
  unfold acquaintanceReference at reference
  split at reference <;> cases reference
  rfl

/-- Entries of unknown category are found as left out. -/
theorem isSkipped_of_unknownCategory? {item : Nat × Entry}
    (found : unknownCategory? item = some finding) : finding.isSkipped = true := by
  unfold unknownCategory? at found
  split at found
  · cases found
    rfl
  · cases found

end Places

end Draft

/-! ## The sorts exclude each other -/

namespace Finding

variable {finding : Finding}

theorem isUnresolved_of_isCollision (collides : finding.isCollision = true) :
    finding.isUnresolved = false := by
  cases finding with
  | unresolvedReference => cases collides
  | _ => rfl

theorem isUnresolved_of_isSkipped (skipped : finding.isSkipped = true) :
    finding.isUnresolved = false := by
  cases finding with
  | unresolvedReference => cases skipped
  | _ => rfl

theorem isCollision_of_isUnresolved (unresolved : finding.isUnresolved = true) :
    finding.isCollision = false := by
  cases finding with
  | keywordCollision | sublocationCollision => cases unresolved
  | _ => rfl

theorem isCollision_of_isSkipped (skipped : finding.isSkipped = true) :
    finding.isCollision = false := by
  cases finding with
  | keywordCollision | sublocationCollision => cases skipped
  | _ => rfl

end Finding

namespace Draft

section Sorts

variable {config : Config} {total : Nat} {items : List (Nat × Entry)} {last : Draft}

/-- Every finding of an import is of one of three sorts. -/
theorem sort_of_mem_remarks {finding : Finding}
    (member : finding ∈ last.remarks config total items) :
    finding.isSkipped = true ∨ finding.isCollision = true ∨ finding.isUnresolved = true := by
  rcases List.mem_append.1 member with member | knows
  · rcases List.mem_append.1 member with member | borders
    · rcases List.mem_append.1 member with member | cast
      · rcases List.mem_append.1 member with unknown | collides
        · obtain ⟨item, -, found⟩ := List.mem_filterMap.1 unknown
          exact Or.inl (isSkipped_of_unknownCategory? found)
        · obtain ⟨node, -, inside⟩ := List.mem_flatMap.1 collides
          exact Or.inr (Or.inl (isCollision_of_mem_collisionsOf inside))
      · obtain ⟨placed, -, inside⟩ := List.mem_flatMap.1 cast
        rcases List.mem_append.1 inside with collides | lost
        · exact Or.inr (Or.inl (isCollision_of_mem_collisionsOf collides))
        · exact Or.inr (Or.inr (isUnresolved_of_mem_lostSpawns lost))
    · exact Or.inr (Or.inr (isUnresolved_of_mem_lost_adjacency borders))
  · exact Or.inr (Or.inr (isUnresolved_of_mem_lost_acquaintance knows))

/-- No finding of a list passes a test. -/
theorem filter_eq_nil_of {α : Type} {test : α → Bool} {items : List α}
    (fails : ∀ item ∈ items, test item = false) : items.filter test = [] :=
  List.filter_eq_nil_iff.2 fun item member passes => by
    rw [fails item member] at passes
    cases passes

/-- The unresolved references, in order: those of the spawn tables, of the triggers, and of the
acquaintances. -/
theorem filter_isUnresolved_remarks :
    (last.remarks config total items).filter Finding.isUnresolved =
      (castPlacements config total items).flatMap (Placement.lostSpawns config.graph last) ++
        lost (last.triggerReferences config total items) ++
        lost (last.knowsReferences config total items) := by
  have unknown : (items.filterMap unknownCategory?).filter Finding.isUnresolved = [] := by
    refine filter_eq_nil_of fun finding member => ?_
    obtain ⟨item, -, found⟩ := List.mem_filterMap.1 member
    exact Finding.isUnresolved_of_isSkipped (isSkipped_of_unknownCategory? found)
  have collides (node : Node) : (last.collisionsOf node).filter Finding.isUnresolved = [] :=
    filter_eq_nil_of fun _ member =>
      Finding.isUnresolved_of_isCollision (isCollision_of_mem_collisionsOf member)
  have spawns (placed : Placement) :
      (placed.lostSpawns config.graph last).filter Finding.isUnresolved =
        placed.lostSpawns config.graph last :=
    List.filter_eq_self.2 fun _ => isUnresolved_of_mem_lostSpawns
  have borders : (lost (last.triggerReferences config total items)).filter Finding.isUnresolved =
      lost (last.triggerReferences config total items) :=
    List.filter_eq_self.2 fun _ => isUnresolved_of_mem_lost_adjacency
  have knows : (lost (last.knowsReferences config total items)).filter Finding.isUnresolved =
      lost (last.knowsReferences config total items) :=
    List.filter_eq_self.2 fun _ => isUnresolved_of_mem_lost_acquaintance
  have nothing (nodes : List Node) : (nodes.flatMap fun _ => ([] : List Finding)) = [] :=
    List.flatMap_eq_nil_iff.2 fun _ _ => rfl
  simp only [remarks, List.filter_append, List.filter_flatMap, unknown, collides, spawns, borders,
    knows, nothing, List.nil_append]

/-- The collisions, in order: those of one node after another. -/
theorem filter_isCollision_remarks :
    (last.remarks config total items).filter Finding.isCollision =
      (importedNodes config total items).flatMap last.collisionsOf := by
  have unknown : (items.filterMap unknownCategory?).filter Finding.isCollision = [] := by
    refine filter_eq_nil_of fun finding member => ?_
    obtain ⟨item, -, found⟩ := List.mem_filterMap.1 member
    exact Finding.isCollision_of_isSkipped (isSkipped_of_unknownCategory? found)
  have collides (node : Node) :
      (last.collisionsOf node).filter Finding.isCollision = last.collisionsOf node :=
    List.filter_eq_self.2 fun _ => isCollision_of_mem_collisionsOf
  have spawns (placed : Placement) :
      (placed.lostSpawns config.graph last).filter Finding.isCollision = [] :=
    filter_eq_nil_of fun _ member =>
      Finding.isCollision_of_isUnresolved (isUnresolved_of_mem_lostSpawns member)
  have borders : (lost (last.triggerReferences config total items)).filter Finding.isCollision =
      [] := filter_eq_nil_of fun _ member =>
    Finding.isCollision_of_isUnresolved (isUnresolved_of_mem_lost_adjacency member)
  have knows : (lost (last.knowsReferences config total items)).filter Finding.isCollision = [] :=
    filter_eq_nil_of fun _ member =>
      Finding.isCollision_of_isUnresolved (isUnresolved_of_mem_lost_acquaintance member)
  simp only [remarks, List.filter_append, List.filter_flatMap, unknown, collides, spawns, borders,
    knows, List.nil_append, List.append_nil, importedNodes, List.flatMap_append, List.flatMap_map]

/-- The unresolved references of an import. -/
theorem Assembled.unresolved_outcome (whole : Assembled config total items last []) :
    last.outcome.report.unresolved =
      (castPlacements config total items).flatMap (Placement.lostSpawns config.graph last) ++
        lost (last.triggerReferences config total items) ++
        lost (last.knowsReferences config total items) := by
  rw [← filter_isUnresolved_remarks, ← List.nil_append (last.remarks config total items),
    ← whole.findings]
  rfl

/-- The collisions of an import. -/
theorem Assembled.collisions_outcome (whole : Assembled config total items last []) :
    last.outcome.report.collisions = last.nodes.flatMap last.collisionsOf := by
  rw [whole.nodes, ← filter_isCollision_remarks,
    ← List.nil_append (last.remarks config total items), ← whole.findings]
  rfl

end Sorts

end Draft

end StoryWorld
