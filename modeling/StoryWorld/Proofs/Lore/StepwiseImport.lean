import StoryWorld.Proofs.Lore.Assembly
import StoryWorld.Proofs.Lore.Workbench

/-!
# The import as a run of steps

An import that is carried out on a workbench ends as the one that is computed as a whole
(`importInSteps_cases`). Each of its parts makes of the draft what the part of the same name computes.

For the passes that make nodes this holds whatever the draft is. The passes over triggers and
acquaintances also need that no edge is rejected between nodes that a word leads to. They begin on a
draft whose tables agree with its nodes, and change nothing but its edges and findings
(`Draft.SameNodes`), so this can be told from the draft that they begin on.
-/

set_option autoImplicit false

namespace StoryWorld

namespace Work

/-! ## Locations, characters and events -/

theorem makes_addSublocation (parent : ElementId) (position : Position) (name : String)
    (images : Images) (draft : Draft) :
    (addSublocation parent position name images).Makes draft ()
      (draft.addSublocation parent position name images) := by
  refine (makes_addNode ..).bind ?_
  unfold Draft.addSublocation
  refine makes_revise ?_ ?_
  · split <;> rfl
  · split <;> rfl

theorem makes_addLocation (settings : GraphSettings) (entry : Entry) (position : Position)
    (draft : Draft) :
    (addLocation settings entry position).Makes draft (draft.nextNodeId .location)
      (draft.addLocation settings entry position) := by
  refine (makes_addNode ..).bind ((makes_revise rfl rfl).bind ?_)
  refine (makes_forM (fun sublocation draft => ?_) _ _).bind (.pure _ _)
  exact makes_addSublocation ..

theorem makes_addSpawns (settings : GraphSettings) (source : ElementId) (entry : Entry)
    (draft : Draft) :
    (addSpawns settings source entry).Makes draft () (draft.addSpawns settings source entry) := by
  refine (makes_draft draft).bind ((makes_report _ draft).bind ?_)
  refine makes_forM (fun target draft => ?_) _ _
  exact makes_link rfl source target.1 draft

theorem makes_addCharacter (settings : GraphSettings) (entry : Entry) (position : Position)
    (draft : Draft) :
    (addCharacter settings entry position).Makes draft (draft.nextNodeId .character)
      (draft.addCharacter settings entry position) := by
  refine (makes_addNode ..).bind ((makes_revise rfl rfl).bind ?_)
  exact (makes_addSpawns ..).bind (.pure _ _)

theorem makes_addEvent (settings : GraphSettings) (entry : Entry) (position : Position)
    (draft : Draft) :
    (addEvent settings entry position).Makes draft () (draft.addEvent settings entry position) := by
  refine (makes_addNode ..).bind ?_
  dsimp only [Draft.addEvent]
  split
  · exact .pure () _
  · exact makes_addSpawns ..

theorem makes_locationPass (config : Config) (total : Nat) (items : List (Nat × Entry))
    (draft : Draft) :
    (locationPass config total items).Makes draft (draft.locationPass config total items).made
      (draft.locationPass config total items).draft := by
  refine makes_foldlM (fun pass item => ?_) items ⟨draft, []⟩
  split
  · exact (makes_addLocation ..).bind (.pure _ _)
  · exact .pure _ _

theorem makes_castPass (config : Config) (total : Nat) (items : List (Nat × Entry))
    (draft : Draft) :
    (castPass config total items).Makes draft (draft.castPass config total items).made
      (draft.castPass config total items).draft := by
  refine makes_foldlM (fun pass item => ?_) items ⟨draft, []⟩
  dsimp only
  cases item.2.category with
  | character => exact (makes_addCharacter ..).bind (.pure _ _)
  | event => exact (makes_addEvent ..).bind (.pure _ _)
  | location => exact .pure _ _
  | other name => exact .pure _ _

/-! ## Adjacency and acquaintance -/

section Mentions

variable {draft other : Draft} {members : List (ElementId × Entry)} {member : ElementId × Entry}

/-- Following a trigger. The edge is never rejected, since words lead to locations. -/
theorem makes_addAdjacency (indexed : draft.Indexed) (areNodes : draft.AreNodes .location members)
    (listed : member ∈ members) {trigger : String} (mentioned : trigger ∈ member.2.triggers)
    (same : other.SameNodes draft) :
    (addAdjacency member.2.name member.1 trigger).Makes other ()
      (other.addAdjacency member.2.name member.1 trigger) := by
  obtain ⟨edges, findings, rfl⟩ := same
  rw [Draft.addAdjacency_eq_follow]
  refine (makes_draft _).bind ?_
  unfold Draft.adjacencyReference
  cases found : draft.locations.get? (Text.lowercase trigger) with
  | none => exact makes_report _ _
  | some target =>
    let link : Link := ⟨member.1, target, .adjacent⟩
    have reference : .inr link ∈ draft.adjacencyReferences members :=
      Draft.mem_adjacencyReferences.2
        ⟨member, listed, trigger, mentioned, target, found, rfl⟩
    exact @makes_linkOnce _ link indexed.nodup EdgeType.noConfusion
      (indexed.admits_adjacency areNodes reference)

/-- Following an acquaintance. The edge is never rejected, since words lead to characters. -/
theorem makes_addAcquaintance (indexed : draft.Indexed)
    (areNodes : draft.AreNodes .character members) (listed : member ∈ members)
    {known : String × Acquaintance} (mentioned : known ∈ (member.2.knows.getD .empty).entries)
    (same : other.SameNodes draft) :
    (addAcquaintance members member.1 member.2.name known).Makes other ()
      (other.addAcquaintance members member.1 member.2.name known) := by
  obtain ⟨edges, findings, rfl⟩ := same
  rw [Draft.addAcquaintance_eq_follow]
  refine (makes_draft _).bind ?_
  unfold Draft.acquaintanceReference
  cases found : draft.characters.get? (Text.lowercase known.1) with
  | none => exact makes_report _ _
  | some target =>
    let link : Link := ⟨member.1, target, .knows known.2.relationship known.2.thoughts
      (draft.thoughtsBack members member.1 target)⟩
    have reference : .inr link ∈ draft.acquaintanceReferences members :=
      Draft.mem_acquaintanceReferences.2
        ⟨member, listed, known, mentioned, target, found, rfl⟩
    exact @makes_linkOnce _ link indexed.nodup EdgeType.noConfusion
      (indexed.admits_acquaintance areNodes reference)

theorem makes_adjacencyPass (indexed : draft.Indexed)
    (areNodes : draft.AreNodes .location members) :
    (adjacencyPass members).Makes draft () (draft.adjacencyPass members) ∧
      (draft.adjacencyPass members).SameNodes draft := by
  refine makes_forM_of (·.SameNodes draft) (fun member listed middle kept => ?_) (.refl draft)
  refine makes_forM_of (·.SameNodes draft) (fun trigger mentioned other same => ?_) kept
  refine ⟨makes_addAdjacency indexed areNodes listed mentioned same, ?_⟩
  rw [Draft.addAdjacency_eq_follow]
  exact Draft.sameNodes_follow same _

theorem makes_acquaintancePass (indexed : draft.Indexed)
    (areNodes : draft.AreNodes .character members) (same : other.SameNodes draft) :
    (acquaintancePass members).Makes other () (other.acquaintancePass members) := by
  refine (makes_forM_of (·.SameNodes draft) (fun member listed middle kept => ?_) same).1
  refine makes_forM_of (·.SameNodes draft) (fun known mentioned other same => ?_) kept
  refine ⟨makes_addAcquaintance indexed areNodes listed mentioned same, ?_⟩
  rw [Draft.addAcquaintance_eq_follow]
  exact Draft.sameNodes_follow same _

end Mentions

/-! ## The whole import -/

/-- **All passes, step by step**, make the draft that is computed as a whole. -/
theorem makes_assemble (config : Config) (total : Nat) (items : List (Nat × Entry))
    (findings : List Finding) :
    (assemble config total items).Makes (.start findings) ()
      (.assemble config total items findings) := by
  refine (makes_report _ _).bind ((makes_locationPass ..).bind ((makes_castPass ..).bind ?_))
  let located := Draft.locationPass config total
    (.start (findings ++ items.filterMap Draft.unknownCategory?)) items
  let enrolled := Draft.castPass config total located.draft items
  have made : located.made = (locationPlacements config total items).map Placement.member :=
    congrArg Draft.Pass.made (Draft.locationPass_eq ..)
  have whole : enrolled = ⟨Draft.enrolled config total items findings,
      Draft.castMembers (castPlacements config total items)⟩ :=
    Draft.castPass_locationPass config total items findings
  have nodes := Draft.nodes_enrolled config total items findings
  have indexed : enrolled.draft.Indexed := by
    rw [whole]
    exact (Draft.enrolled_enrolled config total items findings).indexed
  have locations : enrolled.draft.AreNodes .location located.made := by
    rw [whole, made]
    exact Draft.areNodes_locations nodes
  have cast : enrolled.draft.AreNodes .character enrolled.made := by
    rw [whole]
    exact Draft.areNodes_cast nodes
  obtain ⟨adjacency, same⟩ := makes_adjacencyPass indexed locations
  exact adjacency.bind (makes_acquaintancePass indexed cast same)

end Work

/-- **The import step by step.** It ends as the import that is computed as a whole: with the same
outcome, or both are refused for want of ordinals. Only where neither the nodes nor the edges have
enough of them may the scopes differ that are named: in steps it is the one that is spent first. -/
theorem importInSteps_cases (config : Config) (total : Nat) (items : List (Nat × Entry))
    (findings : List Finding) :
    importInSteps config total items findings =
        (Draft.assemble config total items findings).finish ∨
      importInSteps config total items findings = .error (.refused (.idsExhausted .edge)) ∧
        (Draft.assemble config total items findings).finish =
          .error (.refused (.idsExhausted .node)) ∧
        ∀ scope,
          ElementId.maxOrdinal < (Draft.assemble config total items findings).count scope := by
  let last := Draft.assemble config total items findings
  have steps := (Work.makes_assemble config total items findings).runs _
    (Workbench.holds_start findings)
  rcases steps with ⟨bench, ran, same, ordinals, -⟩ | ⟨scope, refused, many⟩
  · have finished : last.finish = .ok last.outcome :=
      Draft.finish_of_le (ordinals.within .node) (ordinals.within .edge)
    have imported : importInSteps config total items findings = .ok bench.draft.outcome := by
      rw [importInSteps, StateT.run, ran]
      rfl
    rw [imported, finished, same]
    exact Or.inl rfl
  have imported : importInSteps config total items findings =
      .error (.refused (.idsExhausted scope)) := by
    rw [importInSteps, StateT.run, refused]
  rw [imported]
  rcases Nat.lt_or_ge ElementId.maxOrdinal last.nodes.length with manyNodes | fewNodes
  · have finished : last.finish = .error (.refused (.idsExhausted .node)) := if_pos manyNodes
    cases scope with
    | node => exact Or.inl finished.symm
    | edge =>
      refine Or.inr ⟨rfl, finished, fun scope => ?_⟩
      cases scope with
      | node => exact manyNodes
      | edge => exact many
  · cases scope with
    | node => exact absurd many (Nat.not_lt.2 fewNodes)
    | edge =>
      have finished : last.finish = .error (.refused (.idsExhausted .edge)) :=
        (if_neg (Nat.not_lt.2 fewNodes)).trans (if_pos many)
      exact Or.inl finished.symm

end StoryWorld
