import StoryWorld.Proofs.FirstItems
import StoryWorld.Proofs.Lore.OutcomeOrder

/-!
# Pairs rebuilt from either side

Two locations are adjacent if one has a trigger for the other, and two characters know each other if
one has a key for the other. Both may say so, several times and by different words, and an entry may
name itself. An import makes one edge for each pair, whoever says so.

The edge leads from the one that comes first, in the order of the entries, of those that have a key
for the other (`Snapshot.RebuildsPairs`). What an acquaintance says comes from the first key on
either side: the relationship and the thoughts of the source, and the thoughts of the target, if it
has a key that leads back (`Snapshot.TellsBothSides`).

`importEntries_rebuildsPairs` is the statement about all lists of entries.
-/

set_option autoImplicit false

namespace StoryWorld

namespace Snapshot

/-- Some key of the first entry leads to the node of the second. -/
def LeadsTo (world : Snapshot) (kind : NodeType) (type : EdgeType) (one other : Entry × Node) :
    Prop :=
  ∃ key ∈ one.1.mentionKeys type,
    declarer? world.nodes kind (Text.lowercase key) = some other.2.id

/-- What an entry says of a character under the first key that leads to it. -/
def firstTold? (world : Snapshot) (entry : Entry) (id : ElementId) : Option Acquaintance :=
  ((entry.knows.getD .empty).entries.find? fun known =>
    decide (declarer? world.nodes .character (Text.lowercase known.1) = some id)).map Prod.snd

/-- The edges of a kind without direction come of the keys of entries, given with their nodes. -/
structure RebuildsPairs (world : Snapshot) (kind : NodeType) (type : EdgeType)
    (pairs : List (Entry × Node)) : Prop where
  /-- Two different nodes are joined just if a key of one leads to the other. -/
  joined : ∀ one ∈ pairs, ∀ other ∈ pairs, one.2.id ≠ other.2.id →
    (world.Joined type one.2.id other.2.id ↔
      world.LeadsTo kind type one other ∨ world.LeadsTo kind type other one)
  /-- There are no other edges, and each leads from the first of the two that have such a key. -/
  edges : ∀ edge ∈ world.edgesOf type, ∃ one ∈ pairs, ∃ other ∈ pairs,
    edge.source = one.2.id ∧ edge.target = other.2.id ∧ one.2.id ≠ other.2.id ∧
      world.LeadsTo kind type one other ∧
      (world.LeadsTo kind type other one → StandsBefore pairs one other)
  /-- Each pair is joined once. -/
  once : ∀ first ∈ world.edgesOf type, ∀ second ∈ world.edgesOf type,
    second.joins first.source first.target = true → first = second

/-- Acquaintances tell what stands first on either side. -/
def TellsBothSides (world : Snapshot) (pairs : List (Entry × Node)) : Prop :=
  ∀ one ∈ pairs, ∀ other ∈ pairs, ∀ edge ∈ world.edgesOf .knows,
    edge.source = one.2.id → edge.target = other.2.id →
      ∃ relationship thoughts,
        world.firstTold? one.1 other.2.id = some ⟨relationship, thoughts⟩ ∧
          edge.kind = .knows relationship thoughts
            (((world.firstTold? other.1 one.2.id).map Acquaintance.thoughts).getD "")

end Snapshot

open Snapshot

/-- The relations between entries of one category are rebuilt in the world. -/
structure Outcome.RebuildsPairs (outcome : Outcome) (entries : List Entry) : Prop where
  locations : List.Forall₂ Entry.Makes (ofCategory .location entries)
    (outcome.world.nodesOf .location)
  characters : List.Forall₂ Entry.Makes (ofCategory .character entries)
    (outcome.world.nodesOf .character)
  adjacent : outcome.world.RebuildsPairs .location .adjacent
    ((ofCategory .location entries).zip (outcome.world.nodesOf .location))
  knows : outcome.world.RebuildsPairs .character .knows
    ((ofCategory .character entries).zip (outcome.world.nodesOf .character))
  told : outcome.world.TellsBothSides
    ((ofCategory .character entries).zip (outcome.world.nodesOf .character))

/-- A link from one end of a pair joins the pair just if it leads to the other end. -/
theorem Link.joins_iff_of_source {link : Link} {source target : ElementId}
    (own : source = link.source) (differ : source ≠ target) :
    link.Joins source target ↔ link.target = target := by
  constructor
  · rintro (⟨-, there⟩ | ⟨back, -⟩)
    · exact there
    · exact absurd (own.trans back) differ
  · exact fun there => Or.inl ⟨own.symm, there⟩

/-- The entry of a placement with its node. -/
def Placement.pair (settings : GraphSettings) (placed : Placement) : Entry × Node :=
  (placed.entry, placed.node settings)

namespace Draft

variable {config : Config} {total : Nat} {items : List (Nat × Entry)} {last : Draft}
  {kind : NodeType} {type : EdgeType}

section Whole

variable (whole : Assembled config total items last [])

include whole

/-! ## Which edges there are -/

/-- Two different nodes are joined just if a key of one leads to the other. -/
theorem Assembled.joined_iff (bond : Mutual kind type) {one other : Placement}
    (isOne : one ∈ mentioners config total items type)
    (isOther : other ∈ mentioners config total items type) (differ : one.id ≠ other.id) :
    last.outcome.world.Joined type one.id other.id ↔
      last.outcome.world.LeadsTo kind type (one.pair config.graph) (other.pair config.graph) ∨
        last.outcome.world.LeadsTo kind type (other.pair config.graph) (one.pair config.graph) := by
  have told := List.inj_on_of_nodup_map (whole.nodup_mentioners bond)
  constructor
  · intro joined
    obtain ⟨placed, isPlaced, key, listed, id, found, ⟨here, rfl⟩ | ⟨here, rfl⟩⟩ :=
      whole.exists_mention_of_joined bond joined
    · rw [told isPlaced isOne here] at listed
      exact Or.inl ⟨key, listed, found⟩
    · rw [told isPlaced isOther here] at listed
      exact Or.inr ⟨key, listed, found⟩
  · rintro (⟨key, listed, found⟩ | ⟨key, listed, found⟩)
    · exact (whole.eq_or_joined_of_mention bond isOne listed found).resolve_left differ.symm
    · exact ((whole.eq_or_joined_of_mention bond isOther listed found).resolve_left differ).symm

/-- An edge without direction leads from one mentioner to another. -/
theorem Assembled.exists_mentioners (bond : Mutual kind type) {edge : Edge}
    (member : edge ∈ last.outcome.world.edgesOf type) :
    ∃ one ∈ mentioners config total items type, ∃ other ∈ mentioners config total items type,
      edge.source = one.id ∧ edge.target = other.id ∧ one.id ≠ other.id := by
  obtain ⟨source, isSource, target, isTarget, fromHere, toThere, differ⟩ :=
    whole.typed_outcome.joinsApart bond edge member
  rw [nodesOf_mentioners whole.nodes bond] at isSource isTarget
  obtain ⟨one, isOne, rfl⟩ := List.mem_map.1 isSource
  obtain ⟨other, isOther, rfl⟩ := List.mem_map.1 isTarget
  rw [← fromHere, ← toThere] at differ
  exact ⟨one, isOne, other, isOther, fromHere.symm, toThere.symm, differ⟩

/-- The source of an edge has a key that leads to the target. -/
theorem Assembled.leadsTo_of_edge (bond : Mutual kind type) {edge : Edge}
    (member : edge ∈ last.outcome.world.edgesOf type) {one other : Placement}
    (isOne : one ∈ mentioners config total items type) (fromHere : edge.source = one.id)
    (toThere : edge.target = other.id) :
    last.outcome.world.LeadsTo kind type (one.pair config.graph) (other.pair config.graph) := by
  have once := List.mem_map_of_mem (f := Edge.link) member
  rw [whole.map_link_mutual bond] at once
  obtain ⟨placed, isPlaced, key, listed, source, found⟩ :=
    whole.indexed.exists_of_mem_mentionLinks bond ((linksOnce_sublist _ _).subset once)
  have own : placed = one := List.inj_on_of_nodup_map (whole.nodup_mentioners bond) isPlaced isOne
    (source.symm.trans fromHere)
  subst own
  exact ⟨key, listed, found.trans (congrArg some toThere)⟩

/-- Where the target of an edge has a key that leads back, the source stands before it. -/
theorem Assembled.standsBefore_of_edge (bond : Mutual kind type) {edge : Edge}
    (member : edge ∈ last.outcome.world.edgesOf type) {one other : Placement}
    (isOne : one ∈ mentioners config total items type)
    (isOther : other ∈ mentioners config total items type) (fromHere : edge.source = one.id)
    (toThere : edge.target = other.id)
    (back : last.outcome.world.LeadsTo kind type (other.pair config.graph)
      (one.pair config.graph)) :
    StandsBefore (mentioners config total items type) one other := by
  obtain ⟨key, listed, found⟩ := back
  obtain ⟨link, mentioned, source, target⟩ :=
    whole.indexed.exists_mem_mentionLinks bond isOther listed found
  obtain ⟨before, after, split⟩ := List.append_of_mem isOther
  have nodes : last.outcome.world.nodesOf kind = before.map (Placement.node config.graph) ++
      other.node config.graph :: after.map (Placement.node config.graph) := by
    rw [nodesOf_mentioners whole.nodes bond, split, List.map_append, List.map_cons]
  obtain ⟨first, isFirst, own⟩ := whole.exists_before_of_mention bond nodes member toThere mentioned
    source (target.trans fromHere.symm)
  obtain ⟨placed, isBefore, rfl⟩ := List.mem_map.1 isFirst
  have isPlaced : placed ∈ mentioners config total items type :=
    split ▸ List.mem_append_left _ isBefore
  have same : placed = one := List.inj_on_of_nodup_map (whole.nodup_mentioners bond) isPlaced isOne
    (own.trans fromHere)
  exact ⟨before, after, split, same ▸ isBefore⟩

/-- The edges of a kind without direction come of the keys of entries. -/
theorem Assembled.rebuildsPairs (bond : Mutual kind type) :
    last.outcome.world.RebuildsPairs kind type
      ((mentioners config total items type).map (Placement.pair config.graph)) where
  joined := by
    intro _ first _ second differ
    obtain ⟨one, isOne, rfl⟩ := List.mem_map.1 first
    obtain ⟨other, isOther, rfl⟩ := List.mem_map.1 second
    exact whole.joined_iff bond isOne isOther differ
  edges := by
    intro edge member
    obtain ⟨one, isOne, other, isOther, fromHere, toThere, differ⟩ :=
      whole.exists_mentioners bond member
    refine ⟨_, List.mem_map_of_mem isOne, _, List.mem_map_of_mem isOther, fromHere, toThere, differ,
      whole.leadsTo_of_edge bond member isOne fromHere toThere, fun back => ?_⟩
    have order := whole.standsBefore_of_edge bond member isOne isOther fromHere toThere back
    exact order.map (Placement.pair config.graph)
  once := by
    intro first isFirst second isSecond joins
    exact whole.simple first (mem_edgesOf.1 isFirst).1 second (mem_edgesOf.1 isSecond).1 joins

/-! ## What acquaintances tell -/

/-- An edge is the first mention of its pair that its source makes. -/
theorem Assembled.find?_mentions (bond : Mutual kind type) {edge : Edge}
    (member : edge ∈ last.outcome.world.edgesOf type) {one : Placement}
    (isOne : one ∈ mentioners config total items type) (fromHere : edge.source = one.id) :
    (one.mentions config total items last type).find?
        (fun link => decide (link.Joins edge.source edge.target)) = some edge.link := by
  have once := List.mem_map_of_mem (f := Edge.link) member
  rw [whole.map_link_mutual bond] at once
  have first := find?_of_mem_linksOnce once
  have own : ∀ placed ∈ mentioners config total items type,
      ∀ link ∈ placed.mentions config total items last type, link.source = placed.id :=
    fun _ _ _ inside => source_of_mem_mentions bond inside
  have mine := filter_flatMap_of_mem Link.source (whole.nodup_mentioners bond) own isOne
  rw [← mentionLinks_eq_flatMap bond] at mine
  rw [← mine]
  exact find?_filter_of_find? first (decide_eq_true fromHere)

/-- The first key of the source that leads to the target makes the edge. -/
theorem Assembled.firstTold?_of_edge {edge : Edge}
    (member : edge ∈ last.outcome.world.edgesOf .knows) {one : Placement}
    (isOne : one ∈ mentioners config total items .knows) (fromHere : edge.source = one.id) :
    ∃ told, last.outcome.world.firstTold? one.entry edge.target = some told ∧
      edge.kind = .knows told.relationship told.thoughts
        (last.thoughtsBack (castMembers (castPlacements config total items)) one.id
          edge.target) := by
  obtain ⟨-, -, -, -, -, -, differ⟩ := whole.typed_outcome.joinsApart .knows edge member
  have first := whole.find?_mentions .knows member isOne fromHere
  rw [Placement.mentions, linked, List.filterMap_map, List.find?_filterMap] at first
  obtain ⟨known, found, made⟩ := Option.bind_eq_some_iff.1 first
  have same : (fun known : String × Acquaintance =>
      Option.any (fun link : Link => decide (link.Joins edge.source edge.target))
        ((Sum.getRight? ∘ last.acquaintanceReference
          (castMembers (castPlacements config total items)) one.member) known)) =
      fun known => decide (declarer? last.nodes .character (Text.lowercase known.1) =
        some edge.target) := by
    funext known
    rw [← whole.indexed.characters, Function.comp_apply, acquaintanceReference]
    cases last.characters.get? (Text.lowercase known.1) with
    | none => rfl
    | some id =>
      refine decide_eq_decide.2 ((Link.joins_iff_of_source fromHere differ).trans ?_)
      exact Option.some_inj.symm
  rw [same] at found
  have leads : declarer? last.nodes .character (Text.lowercase known.1) = some edge.target := by
    simpa using List.find?_some found
  rw [Function.comp_apply, acquaintanceReference, whole.indexed.characters, leads] at made
  exact ⟨known.2, congrArg (Option.map Prod.snd) found,
    (congrArg Link.kind (Option.some.inj made)).symm⟩

/-- What comes back are the thoughts under the first key that leads back. -/
theorem Assembled.thoughtsBack_eq {other : Placement}
    (isOther : other ∈ mentioners config total items .knows) (id : ElementId) :
    last.thoughtsBack (castMembers (castPlacements config total items)) id other.id =
      ((last.outcome.world.firstTold? other.entry id).map Acquaintance.thoughts).getD "" := by
  have distinct : ((castMembers (castPlacements config total items)).map Prod.fst).Nodup := by
    rw [castMembers, List.map_map]
    exact whole.nodup_mentioners .knows
  have inside : other.member ∈ castMembers (castPlacements config total items) :=
    List.mem_map_of_mem isOther
  have found : (castMembers (castPlacements config total items)).find?
      (fun member => decide (member.1 = other.id)) = some other.member :=
    find?_key_of_mem distinct inside
  rw [thoughtsBack, found]
  simp only [Option.map_some, Option.bind_some, thoughtsAbout, firstTold?, whole.indexed.characters,
    Placement.member, Option.map_map]
  rfl

theorem Assembled.tellsBothSides :
    last.outcome.world.TellsBothSides
      ((mentioners config total items .knows).map (Placement.pair config.graph)) := by
  intro _ first _ second edge member fromHere toThere
  obtain ⟨one, isOne, rfl⟩ := List.mem_map.1 first
  obtain ⟨other, isOther, rfl⟩ := List.mem_map.1 second
  have source : edge.source = one.id := fromHere
  have target : edge.target = other.id := toThere
  obtain ⟨told, first, kind⟩ := whole.firstTold?_of_edge member isOne source
  rw [target, whole.thoughtsBack_eq isOther] at kind
  rw [target] at first
  exact ⟨told.relationship, told.thoughts, first, kind⟩

/-! ## Entries with their nodes -/

section Own

variable (bond : Mutual kind type) {entries : List Entry}
  (own : (mentioners config total items type).map Placement.entry = entries)

include bond own

/-- The entries that mention others have made the nodes of their kind, one by one. -/
theorem Assembled.forall₂_makes :
    List.Forall₂ Entry.Makes entries (last.outcome.world.nodesOf kind) := by
  subst own
  rw [nodesOf_mentioners whole.nodes bond]
  exact forall₂_map_map fun _ => makes_node_of_mem_mentioners bond

theorem Assembled.zip_nodesOf :
    entries.zip (last.outcome.world.nodesOf kind) =
      (mentioners config total items type).map (Placement.pair config.graph) := by
  subst own
  rw [nodesOf_mentioners whole.nodes bond, List.zip_map']
  rfl

end Own

/-- Whatever a draft has been assembled from, its outcome rebuilds the pairs. -/
theorem Assembled.outcome_rebuildsPairs : last.outcome.RebuildsPairs (items.map Prod.snd) where
  locations := whole.forall₂_makes .adjacent map_entry_locationPlacements
  characters := whole.forall₂_makes .knows map_entry_characterPlacements
  adjacent := by
    rw [ofCategory, whole.zip_nodesOf .adjacent map_entry_locationPlacements]
    exact whole.rebuildsPairs .adjacent
  knows := by
    rw [ofCategory, whole.zip_nodesOf .knows map_entry_characterPlacements]
    exact whole.rebuildsPairs .knows
  told := by
    rw [ofCategory, whole.zip_nodesOf .knows map_entry_characterPlacements]
    exact whole.tellsBothSides

end Whole

end Draft

/-! ## The main statement -/

/-- **Symmetric relations are rebuilt once, from whichever side declares them**, whatever entries
are imported. Importing them fails only where there are not enough ordinals for the nodes or the
edges that come of them. -/
theorem importEntries_rebuildsPairs (config : Config) (entries : List Entry) :
    (∃ outcome, importEntries config entries = .ok outcome ∧ outcome.RebuildsPairs entries) ∨
      (importEntries config entries = .error (.refused (.idsExhausted .node)) ∧
        ElementId.maxOrdinal < (importDraft config entries).nodes.length) ∨
      (importEntries config entries = .error (.refused (.idsExhausted .edge)) ∧
        ElementId.maxOrdinal < (importDraft config entries).edges.length) := by
  have rebuilt := (assembled_importDraft config entries).outcome_rebuildsPairs
  rw [map_snd_zip_range] at rebuilt
  exact (importEntries_cases config entries).imp_left fun imported => ⟨_, imported, rebuilt⟩

/-- Ada is known without knowing anyone, Cleo and Dora know each other, and Bea knows herself. -/
example :
    (importEntries {}
      [{ Entry.blank .character "Ada" with keywords := ["ada"] },
        (({ Entry.blank .character "Bea" with keywords := ["bea"] }.withAcquaintance "BEA"
          ⟨"self", "shy"⟩).withAcquaintance "Ada" ⟨"sister", "fond"⟩).withAcquaintance "ada"
          ⟨"twin", "proud"⟩,
        { Entry.blank .character "Cleo" with keywords := ["cleo"] }.withAcquaintance "dora"
          ⟨"rival", "wary"⟩,
        { Entry.blank .character "Dora" with keywords := ["dora"] }.withAcquaintance "CLEO"
          ⟨"friend", "calm"⟩]).toOption.map
        (fun outcome => outcome.world.edges.map Edge.link) =
      some [
        ⟨⟨"char_2"⟩, ⟨"char_1"⟩, .knows "sister" "fond" ""⟩,
        ⟨⟨"char_3"⟩, ⟨"char_4"⟩, .knows "rival" "wary" "calm"⟩] := by
  decide +kernel

end StoryWorld
