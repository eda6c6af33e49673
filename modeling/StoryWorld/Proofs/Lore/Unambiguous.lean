import Mathlib.Data.List.Nodup
import StoryWorld.Lore.Draft
import StoryWorld.Proofs.Lore.Exported

/-!
# Worlds whose words are unambiguous

An entry names others by words, and an import looks words up in lowercase. Nothing goes astray on
the way if every word leads to one node only. `Snapshot.Unambiguous` collects what this takes:
keywords and names are not shared, overrides name sublocations of the place they are about, and no
place goes by the word for everywhere.

In such a world what the tables of an entry hold can be said by its edges. A key of a spawn table is
the keyword of a location or the name of a sublocation (`spawn_cases`), and under the keyword of
another character an entry holds what the last edge between the two says (`get?_acquaintances`).
-/

set_option autoImplicit false

namespace StoryWorld

namespace Snapshot

/-- The words of a world lead to one node each, and to none by accident. -/
structure Unambiguous (world : Snapshot) : Prop where
  /-- No two locations, and no two characters, share a keyword in lowercase. -/
  keywords : ∀ type ∈ [NodeType.location, NodeType.character],
    ∀ first ∈ world.nodesOf type, ∀ second ∈ world.nodesOf type,
      ∀ word ∈ first.keywords.map Text.lowercase, word ∈ second.keywords.map Text.lowercase →
        first = second
  /-- No two sublocations share a name in lowercase. -/
  names : ∀ first ∈ world.nodesOf .sublocation, ∀ second ∈ world.nodesOf .sublocation,
    Text.lowercase first.name = Text.lowercase second.name → first = second
  /-- An override that is greater than zero is named like a sublocation of the target, and not like
  a keyword of a location. -/
  overrides : ∀ edge ∈ world.edges, ∀ override ∈ edge.kind.overrides.entries, 0 < override.2 →
    (∃ room ∈ world.sublocationsOf edge.target, room.name = override.1) ∧
      ∀ place ∈ world.nodesOf .location,
        Text.lowercase override.1 ∉ place.keywords.map Text.lowercase
  /-- No location is known by the word for everywhere. -/
  places : ∀ place ∈ world.nodesOf .location, place.firstKeyword ≠ some anyLocation
  /-- No sublocation is named by the word for everywhere. -/
  rooms : ∀ room ∈ world.nodesOf .sublocation, room.name ≠ anyLocation

/-- The key is the keyword that a location is known by. -/
structure PlaceKey (world : Snapshot) (place : Node) (key : String) : Prop where
  member : place ∈ world.nodesOf .location
  known : place.firstKeyword = some key

/-- The key is the name of a sublocation, and no keyword of a location. -/
structure RoomKey (world : Snapshot) (room : Node) (key : String) : Prop where
  member : room ∈ world.nodesOf .sublocation
  named : room.name = key
  free : ∀ place ∈ world.nodesOf .location, Text.lowercase key ∉ place.keywords.map Text.lowercase

end Snapshot

theorem Node.lowercase_mem_of_firstKeyword {node : Node} {keyword : String}
    (known : node.firstKeyword = some keyword) :
    Text.lowercase keyword ∈ node.keywords.map Text.lowercase :=
  List.mem_map_of_mem (List.mem_of_head? known)

namespace Snapshot

variable {world : Snapshot}

/-- No key is that of a location and that of a sublocation. -/
theorem PlaceKey.not_roomKey {place room : Node} {key : String}
    (isPlace : world.PlaceKey place key) : ¬ world.RoomKey room key :=
  fun isRoom =>
    isRoom.free place isPlace.member (Node.lowercase_mem_of_firstKeyword isPlace.known)

section Unambiguous

variable (clear : world.Unambiguous)

include clear

/-- Locations or characters with a word in common are the same. -/
theorem Unambiguous.eq_of_word {kind : NodeType} {type : EdgeType} (bond : Mutual kind type)
    {first second : Node} (firstMember : first ∈ world.nodesOf kind)
    (secondMember : second ∈ world.nodesOf kind) {word : String}
    (inFirst : word ∈ first.keywords.map Text.lowercase)
    (inSecond : word ∈ second.keywords.map Text.lowercase) : first = second := by
  refine clear.keywords kind ?_ first firstMember second secondMember word inFirst inSecond
  cases bond <;> simp

/-- Locations or characters with the same first keyword are the same. -/
theorem Unambiguous.eq_of_firstKeyword {kind : NodeType} {type : EdgeType}
    (bond : Mutual kind type) {first second : Node} (firstMember : first ∈ world.nodesOf kind)
    (secondMember : second ∈ world.nodesOf kind) {keyword : String}
    (firstKnown : first.firstKeyword = some keyword)
    (secondKnown : second.firstKeyword = some keyword) : first = second :=
  clear.eq_of_word bond firstMember secondMember
    (Node.lowercase_mem_of_firstKeyword firstKnown)
    (Node.lowercase_mem_of_firstKeyword secondKnown)

/-- A location is told by its key. -/
theorem Unambiguous.eq_of_placeKey {first second : Node} {key : String}
    (firstKey : world.PlaceKey first key) (secondKey : world.PlaceKey second key) :
    first = second :=
  clear.eq_of_firstKeyword .adjacent firstKey.member secondKey.member firstKey.known
    secondKey.known

/-- A sublocation is told by its key. -/
theorem Unambiguous.eq_of_roomKey {first second : Node} {key : String}
    (firstKey : world.RoomKey first key) (secondKey : world.RoomKey second key) :
    first = second :=
  clear.names first firstKey.member second secondKey.member
    (by rw [firstKey.named, secondKey.named])

/-! ## Sublocations by name -/

/-- The sublocations of a location have different names. -/
theorem Unambiguous.nodup_names (valid : world.Valid) (id : ElementId) :
    ((world.sublocationsOf id).map Node.name).Nodup := by
  refine List.Nodup.map_on ?_ ((valid.nodes_nodup.of_map Node.id).filter _)
  intro first firstMember second secondMember same
  have firstInside := mem_sublocationsOf.1 firstMember
  have secondInside := mem_sublocationsOf.1 secondMember
  exact clear.names first (mem_nodesOf.2 ⟨firstInside.1, Node.type_of_parent firstInside.2⟩) second
    (mem_nodesOf.2 ⟨secondInside.1, Node.type_of_parent secondInside.2⟩) (congrArg _ same)

/-- The table of the sublocations of a location lists all of them in order. -/
theorem Unambiguous.entries_sublocationTable (valid : world.Valid) (id : ElementId) :
    (world.sublocationTable id).entries =
      (world.sublocationsOf id).map fun room => (room.name, ⟨room.images.cleaned⟩) := by
  refine Table.entries_ofList ?_
  rw [List.map_map]
  exact clear.nodup_names valid id

/-! ## Keys of spawn tables -/

/-- What a spawn edge says is either its probability, under the keyword of its target, or one of its
overrides, under the name of a sublocation of the target. -/
theorem Unambiguous.spawn_cases (valid : world.Valid) (typed : world.Typed) {edge : Edge}
    (member : edge ∈ world.edgesOf .spawn) {spawn : String × Float}
    (said : spawn ∈ world.edgeSpawns edge) :
    ∃ place ∈ world.nodesOf .location, place.id = edge.target ∧
      ((world.PlaceKey place spawn.1 ∧ ∃ overrides, edge.kind = .spawn spawn.2 overrides) ∨
        ∃ room, world.RoomKey room spawn.1 ∧ room.parent = some place.id ∧
          spawn ∈ edge.kind.overrides.entries ∧ 0 < spawn.2) := by
  obtain ⟨_, -, place, isPlace, -, toThere, -⟩ := typed.spawn_ends member
  refine ⟨place, isPlace, toThere, ?_⟩
  rcases mem_edgeSpawns.1 said with ⟨overrides, kind, known⟩ | ⟨listed, positive⟩
  · rw [← toThere, valid.keyword?_eq (mem_nodesOf.1 isPlace).1] at known
    exact Or.inl ⟨⟨isPlace, known⟩, overrides, kind⟩
  · obtain ⟨⟨room, isRoom, named⟩, free⟩ :=
      clear.overrides edge (mem_edgesOf.1 member).1 spawn listed positive
    obtain ⟨roomMember, below⟩ := mem_sublocationsOf.1 isRoom
    have kind := Node.type_of_parent below
    exact Or.inr ⟨room, ⟨mem_nodesOf.2 ⟨roomMember, kind⟩, named, free⟩, toThere ▸ below, listed,
      positive⟩

/-- No key of a spawn table is the word for everywhere. -/
theorem Unambiguous.get?_spawnTable_any (valid : world.Valid) (typed : world.Typed)
    (id : ElementId) : (world.spawnTable id).get? anyLocation = none := by
  cases found : (world.spawnTable id).get? anyLocation with
  | none => rfl
  | some chance =>
    obtain ⟨edge, member, -, said⟩ := mem_spawns.1 (Table.mem_of_get?_ofList found)
    obtain ⟨place, -, -, ⟨key, -⟩ | ⟨room, key, -⟩⟩ := clear.spawn_cases valid typed member said
    · exact absurd key.known (clear.places place key.member)
    · exact absurd key.named (clear.rooms room key.member)

end Unambiguous

/-! ## Acquaintances -/

/-- The last edge by which two characters know each other. -/
def lastAcquaintance? (world : Snapshot) (a b : ElementId) : Option Edge :=
  (world.edgesOf .knows).reverse.find? fun edge => edge.joins a b

theorem lastAcquaintance?_comm (world : Snapshot) (a b : ElementId) :
    world.lastAcquaintance? a b = world.lastAcquaintance? b a := by
  unfold lastAcquaintance?
  congr 1
  funext edge
  exact edge.joins_comm a b

theorem isSome_lastAcquaintance?_iff {a b : ElementId} :
    (world.lastAcquaintance? a b).isSome = true ↔ world.Joined .knows a b := by
  simp [lastAcquaintance?, Joined]

theorem joins_of_lastAcquaintance? {a b : ElementId} {edge : Edge}
    (found : world.lastAcquaintance? a b = some edge) :
    edge ∈ world.edgesOf .knows ∧ edge.joins a b = true := by
  unfold lastAcquaintance? at found
  refine ⟨List.mem_reverse.1 (List.mem_of_find?_eq_some found), ?_⟩
  simpa using List.find?_some found

/-- Under the keyword of another character a character knows what the last edge between the two
says. -/
theorem get?_acquaintances (valid : world.Valid) (apart : world.JoinsApart .character .knows)
    {other : Node} (isOther : other ∈ world.nodesOf .character) {key : String}
    (known : other.firstKeyword = some key)
    (unique : ∀ node ∈ world.nodesOf .character, node.firstKeyword = some key → node = other)
    (id : ElementId) :
    (Table.ofList (world.acquaintances id)).get? key =
      (world.lastAcquaintance? id other.id).map (Edge.seenFrom id) := by
  have said : ∀ edge ∈ (world.edgesOf .knows).reverse,
      (world.edgeAcquaintances id edge).reverse.find? (fun pair => decide (pair.1 = key)) =
        if edge.joins id other.id then some (key, edge.seenFrom id) else none := by
    intro edge member
    have inside := List.mem_reverse.1 member
    obtain ⟨-, -, -, -, -, -, differ⟩ := apart edge inside
    have otherKeyword : world.keyword? other.id = some key := by
      rw [valid.keyword?_eq (mem_nodesOf.1 isOther).1, known]
    rw [edgeAcquaintances_eq (mem_edgesOf.1 inside).2 differ]
    by_cases joins : edge.joins id other.id = true
    · rw [(Edge.otherEnd_eq_some_iff differ).2 joins, Option.bind_some, otherKeyword]
      simp [joins]
    · rw [if_neg joins]
      refine List.find?_eq_none.2 fun pair listed same => joins ?_
      obtain ⟨keyword, found, rfl⟩ := Option.map_eq_some_iff.1
        (Option.mem_toList.1 (List.mem_reverse.1 listed))
      obtain ⟨opposed, opposite, keyed⟩ := Option.bind_eq_some_iff.1 found
      have ends := (Edge.otherEnd_eq_some_iff differ).1 opposite
      obtain ⟨node, isNode, rfl, -⟩ := apart.other_end ⟨edge, inside, ends⟩
      have same : keyword = key := of_decide_eq_true same
      rw [valid.keyword?_eq (mem_nodesOf.1 isNode).1, same] at keyed
      rwa [unique node isNode keyed] at ends
  rw [Table.get?_ofList, acquaintances, List.reverse_flatMap, List.find?_flatMap,
    lastAcquaintance?]
  generalize (world.edgesOf .knows).reverse = edges at said
  induction edges with
  | nil => rfl
  | cons edge rest ih =>
    have here := said edge (List.mem_cons_self ..)
    have later := ih fun other member => said other (List.mem_cons_of_mem _ member)
    rw [List.findSome?_cons, List.find?_cons, Function.comp_apply, here]
    by_cases joins : edge.joins id other.id = true
    · simp [joins]
    · simpa [joins] using later

/-- What a character knows is what the last edges say, each under the keyword of the other one. -/
theorem Unambiguous.mem_acquaintances_iff (clear : world.Unambiguous) (valid : world.Valid)
    (typed : world.Typed) {id : ElementId} {known : String × Acquaintance} :
    known ∈ (Table.ofList (world.acquaintances id)).entries ↔
      ∃ other ∈ world.nodesOf .character, other.firstKeyword = some known.1 ∧
        ∃ edge, world.lastAcquaintance? id other.id = some edge ∧ known.2 = edge.seenFrom id := by
  have found : ∀ other ∈ world.nodesOf .character, other.firstKeyword = some known.1 →
      (Table.ofList (world.acquaintances id)).get? known.1 =
        (world.lastAcquaintance? id other.id).map (Edge.seenFrom id) := by
    intro other isOther keyed
    refine get?_acquaintances valid (typed.joinsApart .knows) isOther keyed
      (fun node isNode same => ?_) id
    exact clear.eq_of_firstKeyword .knows isNode isOther same keyed
  rw [← Table.get?_eq_some_iff]
  constructor
  · intro listed
    have key := List.mem_map_of_mem (f := Prod.fst) (Table.mem_of_get?_ofList listed)
    obtain ⟨other, isOther, -, keyed⟩ := ((typed.joinsApart .knows).mem_keys_acquaintances valid).1 key
    rw [found other isOther keyed] at listed
    obtain ⟨edge, last, said⟩ := Option.map_eq_some_iff.1 listed
    exact ⟨other, isOther, keyed, edge, last, said.symm⟩
  · rintro ⟨other, isOther, keyed, edge, last, said⟩
    rw [found other isOther keyed, last, said]
    rfl

end Snapshot

end StoryWorld
