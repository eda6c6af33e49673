import StoryWorld.Lore.Import
import StoryWorld.Proofs.Lore.Declarations
import StoryWorld.Proofs.Lore.Links

/-!
# Mentions of locations and characters

The triggers of a location mention other locations, and the acquaintances of a character other
characters. By the time they are followed all keywords are declared, so each mention is a reference
that can be told beforehand: it leads nowhere, or it links two nodes. The two passes that follow
them are one and the same pass over references (`foldl_foldl_eq_follow`), and make one edge for each
pair (`Indexed.adjacencyPass_eq`, `Indexed.acquaintancePass_eq`).
-/

set_option autoImplicit false

namespace StoryWorld

namespace Draft

/-! ## Adjacency and acquaintance -/

/-- What a trigger of a location refers to. -/
def adjacencyReference (last : Draft) (member : ElementId × Entry) (trigger : String) :
    Reference :=
  match last.locations.get? (Text.lowercase trigger) with
  | none => .inl (.unresolvedReference member.2.name .triggers trigger)
  | some target => .inr ⟨member.1, target, .adjacent⟩

/-- All triggers of locations, as references. -/
def adjacencyReferences (last : Draft) (locations : List (ElementId × Entry)) : List Reference :=
  locations.flatMap fun member => member.2.triggers.map (last.adjacencyReference member)

/-- What one character says that it thinks of another, if it knows the other at all. -/
def thoughtsBack (last : Draft) (cast : List (ElementId × Entry)) (id other : ElementId) :
    String :=
  (((cast.find? fun member => decide (member.1 = other)).map Prod.snd).bind fun entry =>
    last.thoughtsAbout entry id).getD ""

/-- What an acquaintance of a character refers to. -/
def acquaintanceReference (last : Draft) (cast : List (ElementId × Entry))
    (member : ElementId × Entry) (known : String × Acquaintance) : Reference :=
  match last.characters.get? (Text.lowercase known.1) with
  | none => .inl (.unresolvedReference member.2.name .knows known.1)
  | some other =>
    .inr ⟨member.1, other,
      .knows known.2.relationship known.2.thoughts (last.thoughtsBack cast member.1 other)⟩

/-- All acquaintances of characters, as references. -/
def acquaintanceReferences (last : Draft) (cast : List (ElementId × Entry)) : List Reference :=
  cast.flatMap fun member =>
    (member.2.knows.getD .empty).entries.map (last.acquaintanceReference cast member)

/-- The draft knows the same locations and characters as another one. -/
structure SameKeywords (other draft : Draft) : Prop where
  locations : other.locations = draft.locations
  characters : other.characters = draft.characters

/-- The draft differs from another one in its edges and findings only. -/
def SameNodes (other draft : Draft) : Prop :=
  ∃ edges findings, other = { draft with edges := edges, findings := findings }

theorem SameNodes.refl (draft : Draft) : draft.SameNodes draft := ⟨_, _, rfl⟩

theorem SameNodes.sameKeywords {other draft : Draft} (same : other.SameNodes draft) :
    other.SameKeywords draft := by
  obtain ⟨edges, findings, rfl⟩ := same
  exact ⟨rfl, rfl⟩

/-- Following references changes nothing but edges and findings. -/
theorem sameNodes_follow {other draft : Draft} (same : other.SameNodes draft)
    (reference : Reference) : (other.follow reference).SameNodes draft := by
  obtain ⟨edges, findings, rfl⟩ := same
  unfold follow link
  repeat' split
  all_goals exact ⟨_, _, rfl⟩

/-- Following what entries mention, entry by entry, is following their references, as long as these
can be told from the keywords. -/
theorem foldl_foldl_eq_follow {μ : Type} {draft : Draft}
    (step : Draft → ElementId × Entry → μ → Draft) {mentions : ElementId × Entry → List μ}
    {reference : ElementId × Entry → μ → Reference}
    (agree : ∀ other : Draft, other.SameKeywords draft → ∀ member mention,
      step other member mention = other.follow (reference member mention))
    (members : List (ElementId × Entry)) :
    members.foldl
        (fun draft member => (mentions member).foldl (fun draft => step draft member) draft) draft =
      (members.flatMap fun member => (mentions member).map (reference member)).foldl follow
        draft := by
  have inner : ∀ (member : ElementId × Entry) (items : List μ) (other : Draft),
      other.SameKeywords draft →
      items.foldl (fun draft => step draft member) other =
          (items.map (reference member)).foldl follow other ∧
        (items.foldl (fun draft => step draft member) other).SameKeywords draft := by
    intro member items
    induction items with
    | nil => exact fun other same => ⟨rfl, same⟩
    | cons item rest ih =>
      intro other same
      have here := agree other same member item
      have kept := (sameNodes_follow (.refl other) (reference member item)).sameKeywords
      rw [List.foldl_cons, List.map_cons, List.foldl_cons, here]
      exact ih _ ⟨kept.1.trans same.1, kept.2.trans same.2⟩
  suffices general : ∀ other : Draft, other.SameKeywords draft →
      members.foldl
          (fun draft member => (mentions member).foldl (fun draft => step draft member) draft)
          other =
        (members.flatMap fun member => (mentions member).map (reference member)).foldl follow
          other by
    exact general draft ⟨rfl, rfl⟩
  induction members with
  | nil => exact fun _ _ => rfl
  | cons member rest ih =>
    intro other same
    obtain ⟨first, kept⟩ := inner member (mentions member) other same
    rw [List.foldl_cons, List.flatMap_cons, List.foldl_append, ← first]
    exact ih _ kept

theorem addAdjacency_eq_follow (draft : Draft) (member : ElementId × Entry) (trigger : String) :
    draft.addAdjacency member.2.name member.1 trigger =
      draft.follow (draft.adjacencyReference member trigger) := by
  unfold addAdjacency adjacencyReference
  cases draft.locations.get? (Text.lowercase trigger) <;> rfl

theorem addAcquaintance_eq_follow (draft : Draft) (cast : List (ElementId × Entry))
    (member : ElementId × Entry) (known : String × Acquaintance) :
    draft.addAcquaintance cast member.1 member.2.name known =
      draft.follow (draft.acquaintanceReference cast member known) := by
  unfold addAcquaintance acquaintanceReference
  cases draft.characters.get? (Text.lowercase known.1) <;> rfl

theorem adjacencyPass_eq_follow (draft : Draft) (locations : List (ElementId × Entry)) :
    adjacencyPass draft locations = (draft.adjacencyReferences locations).foldl follow draft := by
  refine foldl_foldl_eq_follow
    (fun draft member trigger => draft.addAdjacency member.2.name member.1 trigger)
    (fun other same member trigger => ?_) locations
  rw [addAdjacency_eq_follow, adjacencyReference, adjacencyReference, same.locations]

theorem acquaintancePass_eq_follow (draft : Draft) (cast : List (ElementId × Entry)) :
    acquaintancePass draft cast = (draft.acquaintanceReferences cast).foldl follow draft := by
  refine foldl_foldl_eq_follow
    (fun draft member known => draft.addAcquaintance cast member.1 member.2.name known)
    (fun other same member known => ?_) cast
  have back : other.thoughtsBack cast = draft.thoughtsBack cast := by
    funext id target
    unfold thoughtsBack thoughtsAbout
    rw [same.characters]
  rw [addAcquaintance_eq_follow, acquaintanceReference, acquaintanceReference, same.characters,
    back]

/-- The links of references. -/
def linked (references : List Reference) : List Link := references.filterMap Sum.getRight?

/-- The findings of references that lead nowhere. -/
def lost (references : List Reference) : List Finding := references.filterMap Sum.getLeft?

theorem linked_flatMap {μ : Type} (members : List μ) (references : μ → List Reference) :
    linked (members.flatMap references) =
      members.flatMap fun member => linked (references member) :=
  List.filterMap_flatMap

theorem mem_linked {references : List Reference} {link : Link} :
    link ∈ linked references ↔ .inr link ∈ references := by
  unfold linked
  rw [List.mem_filterMap]
  constructor
  · rintro ⟨reference, member, right⟩
    cases reference with
    | inl finding => cases right
    | inr other =>
      cases right
      exact member
  · exact fun member => ⟨_, member, rfl⟩

theorem mem_adjacencyReferences {last : Draft} {locations : List (ElementId × Entry)}
    {link : Link} :
    .inr link ∈ last.adjacencyReferences locations ↔
      ∃ member ∈ locations, ∃ trigger ∈ member.2.triggers, ∃ target,
        last.locations.get? (Text.lowercase trigger) = some target ∧
          link = ⟨member.1, target, .adjacent⟩ := by
  unfold adjacencyReferences
  rw [List.mem_flatMap]
  constructor
  · rintro ⟨member, inside, mentioned⟩
    obtain ⟨trigger, listed, reference⟩ := List.mem_map.1 mentioned
    unfold adjacencyReference at reference
    cases found : last.locations.get? (Text.lowercase trigger) with
    | none =>
      rw [found] at reference
      cases reference
    | some target =>
      rw [found] at reference
      exact ⟨member, inside, trigger, listed, target, found, (Sum.inr.inj reference).symm⟩
  · rintro ⟨member, inside, trigger, listed, target, found, rfl⟩
    refine ⟨member, inside, List.mem_map.2 ⟨trigger, listed, ?_⟩⟩
    rw [adjacencyReference, found]

theorem mem_acquaintanceReferences {last : Draft} {cast : List (ElementId × Entry)} {link : Link} :
    .inr link ∈ last.acquaintanceReferences cast ↔
      ∃ member ∈ cast, ∃ known ∈ (member.2.knows.getD .empty).entries, ∃ other,
        last.characters.get? (Text.lowercase known.1) = some other ∧
          link = ⟨member.1, other, .knows known.2.relationship known.2.thoughts
            (last.thoughtsBack cast member.1 other)⟩ := by
  unfold acquaintanceReferences
  rw [List.mem_flatMap]
  constructor
  · rintro ⟨member, inside, mentioned⟩
    obtain ⟨known, listed, reference⟩ := List.mem_map.1 mentioned
    unfold acquaintanceReference at reference
    cases found : last.characters.get? (Text.lowercase known.1) with
    | none =>
      rw [found] at reference
      cases reference
    | some other =>
      rw [found] at reference
      exact ⟨member, inside, known, listed, other, found, (Sum.inr.inj reference).symm⟩
  · rintro ⟨member, inside, known, listed, other, found, rfl⟩
    refine ⟨member, inside, List.mem_map.2 ⟨known, listed, ?_⟩⟩
    rw [acquaintanceReference, found]

/-- A link between two different nodes of the same kind may be made, if the rules join that kind
with itself by edges of the right kind. -/
theorem admits_of_type {draft : Draft} {link : Link} {type : NodeType}
    (fits : connectionType type type = some link.kind.type)
    (notSpawn : link.kind.type ≠ .spawn)
    (source : ∃ node ∈ draft.nodes, node.id = link.source ∧ node.type = type)
    (target : ∃ node ∈ draft.nodes, node.id = link.target ∧ node.type = type)
    (differ : link.target ≠ link.source) : draft.Admits link := by
  obtain ⟨first, firstMember, fromHere, firstType⟩ := source
  obtain ⟨second, secondMember, toThere, secondType⟩ := target
  refine ⟨first, firstMember, second, secondMember, fromHere, toThere, ?_⟩
  refine validateConnection_eq_ok_iff.2 ⟨?_, ?_, fun spawns => notSpawn spawns.1⟩
  · rw [fromHere, toThere]
    exact fun same => differ same.symm
  · rw [firstType, secondType, fits]

/-- The members are nodes of a kind. -/
def AreNodes (draft : Draft) (type : NodeType) (members : List (ElementId × Entry)) : Prop :=
  ∀ member ∈ members, ∃ node ∈ draft.nodes, node.id = member.1 ∧ node.type = type

/-- A trigger may link its location to any other that it leads to. -/
theorem Indexed.admits_adjacency {draft : Draft} (indexed : draft.Indexed)
    {members : List (ElementId × Entry)} (areNodes : draft.AreNodes .location members) {link : Link}
    (member : .inr link ∈ draft.adjacencyReferences members) (differ : link.target ≠ link.source) :
    draft.Admits link := by
  obtain ⟨source, inside, trigger, -, target, found, rfl⟩ := mem_adjacencyReferences.1 member
  rw [indexed.locations] at found
  obtain ⟨node, there, own, typed, -⟩ := declarer?_eq_some found
  exact admits_of_type rfl EdgeType.noConfusion (areNodes source inside) ⟨node, there, own, typed⟩
    differ

/-- An acquaintance may link its character to any other that it leads to. -/
theorem Indexed.admits_acquaintance {draft : Draft} (indexed : draft.Indexed)
    {members : List (ElementId × Entry)} (areNodes : draft.AreNodes .character members)
    {link : Link} (member : .inr link ∈ draft.acquaintanceReferences members)
    (differ : link.target ≠ link.source) : draft.Admits link := by
  obtain ⟨source, inside, known, -, other, found, rfl⟩ := mem_acquaintanceReferences.1 member
  rw [indexed.characters] at found
  obtain ⟨node, there, own, typed, -⟩ := declarer?_eq_some found
  exact admits_of_type rfl EdgeType.noConfusion (areNodes source inside) ⟨node, there, own, typed⟩
    differ

theorem type_of_mem_adjacencyReferences {last : Draft} {members : List (ElementId × Entry)}
    {link : Link} (member : .inr link ∈ last.adjacencyReferences members) :
    link.kind.type = .adjacent := by
  obtain ⟨_, _, _, _, _, _, rfl⟩ := mem_adjacencyReferences.1 member
  rfl

theorem type_of_mem_acquaintanceReferences {last : Draft} {members : List (ElementId × Entry)}
    {link : Link} (member : .inr link ∈ last.acquaintanceReferences members) :
    link.kind.type = .knows := by
  obtain ⟨_, _, _, _, _, _, rfl⟩ := mem_acquaintanceReferences.1 member
  rfl

/-- The pass over the triggers makes an edge for each pair of locations of which one mentions the
other. -/
theorem Indexed.adjacencyPass_eq {draft : Draft} (indexed : draft.Indexed)
    (none : ∀ edge ∈ draft.edges, edge.type ≠ .adjacent) {members : List (ElementId × Entry)}
    (areNodes : draft.AreNodes .location members) :
    adjacencyPass draft members =
      (draft.addLinks (linksOnce [] (linked (draft.adjacencyReferences members)))).report
        (lost (draft.adjacencyReferences members)) := by
  rw [adjacencyPass_eq_follow]
  exact foldl_follow indexed.nodup none (fun _ => type_of_mem_adjacencyReferences)
    fun _ => indexed.admits_adjacency areNodes

/-- The pass over the acquaintances makes an edge for each pair of characters of which one mentions
the other. -/
theorem Indexed.acquaintancePass_eq {draft : Draft} (indexed : draft.Indexed)
    (none : ∀ edge ∈ draft.edges, edge.type ≠ .knows) {members : List (ElementId × Entry)}
    (areNodes : draft.AreNodes .character members) :
    acquaintancePass draft members =
      (draft.addLinks (linksOnce [] (linked (draft.acquaintanceReferences members)))).report
        (lost (draft.acquaintanceReferences members)) := by
  rw [acquaintancePass_eq_follow]
  exact foldl_follow indexed.nodup none (fun _ => type_of_mem_acquaintanceReferences)
    fun _ => indexed.admits_acquaintance areNodes

end Draft

end StoryWorld
