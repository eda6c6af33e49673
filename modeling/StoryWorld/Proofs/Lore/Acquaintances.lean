import StoryWorld.Proofs.Lore.Mentioners
import StoryWorld.Proofs.Lore.Unambiguous

/-!
# Acquaintances from both sides

An acquaintance is one edge, and it is told in two entries: each of the two characters knows the
other under its first keyword, and has that keyword as a trigger. Several edges, in either
direction, may join the same two characters, and each entry keeps what was said last under a
keyword.

A character is triggered by those it knows, in the same order, whatever the edges are. Where
different characters have different first keywords and nobody knows itself, both entries tell the
same: either each of two characters knows the other or neither does, and both have it from the same
edge, which is the last one that joins the two (`Snapshot.AcquaintedAlike`). That is
`acquaintances_consistent`.
-/

set_option autoImplicit false

namespace StoryWorld

/-- What an entry says of the one that it knows by a keyword. -/
def Entry.acquaintance? (entry : Entry) (keyword : String) : Option Acquaintance :=
  (entry.knows.getD .empty).get? keyword

theorem Entry.mem_knownKeys_iff {entry : Entry} {keyword : String} :
    keyword ∈ entry.knownKeys ↔ (entry.acquaintance? keyword).isSome = true := by
  rw [knownKeys, Table.mem_keys_iff, acquaintance?, Option.isSome_iff_exists]

namespace Snapshot

/-- Nodes of a kind are told apart by their first keywords, if they have any. -/
def DistinctKeywords (world : Snapshot) (kind : NodeType) : Prop :=
  ∀ first ∈ world.nodesOf kind, ∀ second ∈ world.nodesOf kind,
    first.firstKeyword ≠ none → first.firstKeyword = second.firstKeyword → first = second

instance (world : Snapshot) (kind : NodeType) : Decidable (world.DistinctKeywords kind) :=
  inferInstanceAs (Decidable (∀ first ∈ world.nodesOf kind, ∀ second ∈ world.nodesOf kind,
    first.firstKeyword ≠ none → first.firstKeyword = second.firstKeyword → first = second))

instance (world : Snapshot) (kind : NodeType) (type : EdgeType) :
    Decidable (world.JoinsApart kind type) :=
  inferInstanceAs (Decidable (∀ edge ∈ world.edgesOf type, ∃ source ∈ world.nodesOf kind,
    ∃ target ∈ world.nodesOf kind,
      source.id = edge.source ∧ target.id = edge.target ∧ edge.source ≠ edge.target))

/-- Of the edges by which two nodes know each other, in either direction, this one comes last. -/
def IsLastAcquaintance (world : Snapshot) (a b : ElementId) (edge : Edge) : Prop :=
  ∃ earlier later, world.edgesOf .knows = earlier ++ edge :: later ∧ edge.joins a b = true ∧
    ∀ other ∈ later, other.joins a b = false

/-- The entry of a character is triggered by those that the character knows. -/
structure TriggeredByKnown (node : Node) (entry : Entry) : Prop where
  keywords : entry.keywords = node.keywords
  /-- The triggers are the keys under which others are known, in the same order. -/
  triggers : entry.triggers = entry.knownKeys
  /-- Nobody is known just if there are no triggers. -/
  absent : entry.knows = none ↔ entry.triggers = []

/-- The entries of two characters, whose first keywords are given, tell the same of the acquaintance
of the two. -/
structure AcquaintedAlike (world : Snapshot) (one other : Node × Entry) (ownKey otherKey : String) :
    Prop where
  /-- The one knows the other just if an edge joins them in either direction. -/
  known : otherKey ∈ one.2.knownKeys ↔ world.Joined .knows one.1.id other.1.id
  /-- So does the other know the one. -/
  back : ownKey ∈ other.2.knownKeys ↔ world.Joined .knows one.1.id other.1.id
  /-- Both have it from the last of these edges, each the thoughts of its own end. -/
  last : world.Joined .knows one.1.id other.1.id →
    ∃ edge relationship sourceThinks targetThinks,
      world.IsLastAcquaintance one.1.id other.1.id edge ∧
        edge.kind = .knows relationship sourceThinks targetThinks ∧
        one.2.acquaintance? otherKey =
          some ⟨relationship, if edge.source = one.1.id then sourceThinks else targetThinks⟩ ∧
        other.2.acquaintance? ownKey =
          some ⟨relationship, if edge.source = other.1.id then sourceThinks else targetThinks⟩

variable {world : Snapshot}

/-! ## Triggers -/

theorem nonempty?_eq_none_iff {α : Type} {table : Table String α} :
    nonempty? table = none ↔ table.keys = [] := by
  unfold nonempty?
  rw [Table.keys, List.map_eq_nil_iff, ← List.isEmpty_iff]
  split
  · rename_i none
    simp only [true_iff]
    exact none
  · rename_i some
    simp only [reduceCtorEq, false_iff]
    exact some

theorem triggeredByKnown_characterEntry (node : Node) :
    TriggeredByKnown node (world.characterEntry node) := by
  have triggers : (world.characterEntry node).triggers = (world.characterEntry node).knownKeys := by
    rw [knownKeys_characterEntry, Table.keys_ofList]
    rfl
  refine ⟨rfl, triggers, ?_⟩
  rw [triggers, knownKeys_characterEntry]
  exact nonempty?_eq_none_iff

/-! ## The last edge between two characters -/

theorem lastAcquaintance?_eq_some_iff {a b : ElementId} {edge : Edge} :
    world.lastAcquaintance? a b = some edge ↔ world.IsLastAcquaintance a b edge := by
  rw [lastAcquaintance?, List.find?_eq_some_iff_append]
  constructor
  · rintro ⟨joins, later, earlier, split, none⟩
    refine ⟨earlier.reverse, later.reverse, ?_, joins, ?_⟩
    · rw [← List.reverse_inj, split]
      simp
    · intro other member
      simpa using none other (List.mem_reverse.1 member)
  · rintro ⟨earlier, later, split, joins, none⟩
    refine ⟨joins, later.reverse, earlier.reverse, ?_, ?_⟩
    · rw [split]
      simp
    · intro other member
      simpa using none other (List.mem_reverse.1 member)

theorem acquaintance?_characterEntry (node : Node) (keyword : String) :
    (world.characterEntry node).acquaintance? keyword =
      (Table.ofList (world.acquaintances node.id)).get? keyword := by
  rw [Entry.acquaintance?, characterEntry, getD_nonempty?]

section Apart

variable (valid : world.Valid) (distinct : world.DistinctKeywords .character)
  (apart : world.JoinsApart .character .knows)

include valid distinct apart

/-- Under the first keyword of another character stands what the last edge says. -/
theorem acquaintance?_of_firstKeyword {other : Node} (isOther : other ∈ world.nodesOf .character)
    {keyword : String} (known : other.firstKeyword = some keyword) (node : Node) :
    (world.characterEntry node).acquaintance? keyword =
      (world.lastAcquaintance? node.id other.id).map (Edge.seenFrom node.id) := by
  rw [acquaintance?_characterEntry]
  refine get?_acquaintances valid apart isOther known (fun also isAlso same => ?_) node.id
  refine distinct also isAlso other isOther ?_ (same.trans known.symm)
  rw [same]
  exact Option.some_ne_none keyword

theorem mem_knownKeys_iff_joined {other : Node} (isOther : other ∈ world.nodesOf .character)
    {keyword : String} (known : other.firstKeyword = some keyword) (node : Node) :
    keyword ∈ (world.characterEntry node).knownKeys ↔ world.Joined .knows node.id other.id := by
  rw [Entry.mem_knownKeys_iff, acquaintance?_of_firstKeyword valid distinct apart isOther known,
    Option.isSome_map, isSome_lastAcquaintance?_iff]

theorem acquaintedAlike {one other : Node} (isOne : one ∈ world.nodesOf .character)
    (isOther : other ∈ world.nodesOf .character) {ownKey otherKey : String}
    (ownKnown : one.firstKeyword = some ownKey) (otherKnown : other.firstKeyword = some otherKey) :
    world.AcquaintedAlike (one, world.characterEntry one) (other, world.characterEntry other)
      ownKey otherKey where
  known := mem_knownKeys_iff_joined valid distinct apart isOther otherKnown one
  back := by
    have joined : world.Joined .knows one.id other.id ↔ world.Joined .knows other.id one.id :=
      ⟨Joined.symm, Joined.symm⟩
    rw [joined]
    exact mem_knownKeys_iff_joined valid distinct apart isOne ownKnown other
  last := by
    intro joined
    obtain ⟨edge, last⟩ := Option.isSome_iff_exists.1 (isSome_lastAcquaintance?_iff.2 joined)
    have isEdge := (joins_of_lastAcquaintance? last).1
    obtain ⟨relationship, sourceThinks, targetThinks, kind⟩ :=
      Edge.kind_of_knows (mem_edgesOf.1 isEdge).2
    refine ⟨edge, relationship, sourceThinks, targetThinks, lastAcquaintance?_eq_some_iff.1 last,
      kind, ?_, ?_⟩
    · rw [acquaintance?_of_firstKeyword valid distinct apart isOther otherKnown, last]
      simp only [Option.map_some, Edge.seenFrom, kind]
    · -- Seen from the other end, the two are joined by the same edges.
      rw [acquaintance?_of_firstKeyword valid distinct apart isOne ownKnown,
        lastAcquaintance?_comm, last]
      simp only [Option.map_some, Edge.seenFrom, kind]

end Apart

end Snapshot

open Snapshot

/-- **Both sides of an acquaintance are told alike.** The entries of the characters of a valid
snapshot, in the order of the nodes, are triggered by exactly those that they know. If different
characters have different first keywords, and every acquaintance is between two different
characters, then the entries of any two characters with keywords tell the same of them. -/
theorem acquaintances_consistent {world : Snapshot} (accepted : world.validate = .ok ()) :
    List.Forall₂ TriggeredByKnown (world.nodesOf .character)
        (ofCategory .character world.entries) ∧
      (world.DistinctKeywords .character → world.JoinsApart .character .knows →
        ∀ one ∈ (world.nodesOf .character).zip (ofCategory .character world.entries),
          ∀ other ∈ (world.nodesOf .character).zip (ofCategory .character world.entries),
            ∀ ownKey otherKey, one.1.firstKeyword = some ownKey →
              other.1.firstKeyword = some otherKey →
                world.AcquaintedAlike one other ownKey otherKey) := by
  have valid := validate_eq_ok_iff.1 accepted
  rw [ofCategory_character]
  constructor
  · rw [List.forall₂_map_right_iff, List.forall₂_same]
    exact fun node _ => triggeredByKnown_characterEntry node
  · rw [← List.map_prod_left_eq_zip]
    intro distinct apart _ paired _ otherPaired ownKey otherKey ownKnown otherKnown
    obtain ⟨one, isOne, rfl⟩ := List.mem_map.1 paired
    obtain ⟨other, isOther, rfl⟩ := List.mem_map.1 otherPaired
    exact acquaintedAlike valid distinct apart isOne isOther ownKnown otherKnown

/-- Two sisters and a stranger without a keyword. What the sisters say of each other is repeated,
reversed and contradicted. -/
def sisters : Snapshot where
  nodes :=
    let person (id : String) (keywords : List String) : Node :=
      { Node.blank ⟨id⟩ id (.character []) with keywords := keywords }
    [person "ada" ["ada", "elder"], person "stranger" [], person "bea" ["bea"],
      person "cleo" ["cleo"]]
  edges :=
    [⟨⟨"e1"⟩, ⟨"ada"⟩, ⟨"bea"⟩, .knows "sister" "fond" "shy"⟩,
      ⟨⟨"e2"⟩, ⟨"cleo"⟩, ⟨"ada"⟩, .knows "rival" "wary" "calm"⟩,
      ⟨⟨"e3"⟩, ⟨"ada"⟩, ⟨"stranger"⟩, .knows "guest" "curious" ""⟩,
      ⟨⟨"e4"⟩, ⟨"bea"⟩, ⟨"ada"⟩, .knows "twin" "proud" "tired"⟩]

theorem sisters_acquainted :
    sisters.validate = .ok () ∧
      (sisters.entries.map fun entry =>
          (entry.name, entry.triggers, (entry.knows.getD .empty).entries)) =
        [("ada", ["bea", "cleo"],
            [("bea", ⟨"twin", "tired"⟩), ("cleo", ⟨"rival", "calm"⟩)]),
          ("stranger", ["ada"], [("ada", ⟨"guest", ""⟩)]),
          ("bea", ["ada"], [("ada", ⟨"twin", "proud"⟩)]),
          ("cleo", ["ada"], [("ada", ⟨"rival", "wary"⟩)])] ∧
      List.Forall₂ TriggeredByKnown (sisters.nodesOf .character)
        (ofCategory .character sisters.entries) ∧
      sisters.DistinctKeywords .character ∧ sisters.JoinsApart .character .knows ∧
      ∀ one ∈ (sisters.nodesOf .character).zip (ofCategory .character sisters.entries),
        ∀ other ∈ (sisters.nodesOf .character).zip (ofCategory .character sisters.entries),
          one.1.firstKeyword = some "ada" → other.1.firstKeyword = some "bea" →
            sisters.AcquaintedAlike one other "ada" "bea" := by
  have accepted : sisters.validate = .ok () := by decide +kernel
  have distinct : sisters.DistinctKeywords .character := by decide +kernel
  have apart : sisters.JoinsApart .character .knows := by decide +kernel
  have consistent := acquaintances_consistent accepted
  refine ⟨accepted, by decide +kernel, consistent.1, distinct, apart, ?_⟩
  intro one paired other otherPaired
  exact consistent.2 distinct apart one paired other otherPaired "ada" "bea"

end StoryWorld
