import StoryWorld.Proofs.Attempts
import StoryWorld.Proofs.Lore.ImportedWords
import StoryWorld.Proofs.Related

/-!
# Keys in other letters

Entries refer to each other by triggers and by the keys of their tables. Every such word is looked
up in lowercase, and nothing that is made of a reference bears the word as it is written: an edge
leads to an identity, and an override has the name under which its sublocation was declared. So
lorebooks that differ only in the letter case of these words (`Entry.Respelled`) are imported into
the same world, and what is found on the way differs only in the keys that lead nowhere, which are
reported as they are written (`importEntries_respelled`).

One word is not looked up: the key for everywhere in the table of an event stands for itself.
-/

set_option autoImplicit false

namespace StoryWorld

/-! ## Words in other letters -/

/-- Two words that are the same in lowercase. -/
def SameLetters (word other : String) : Prop := Text.lowercase word = Text.lowercase other

instance : DecidableRel SameLetters :=
  fun word other => inferInstanceAs (Decidable (Text.lowercase word = Text.lowercase other))

/-- The same value under two keys that are the same in lowercase. -/
structure SameBinding {α : Type} (binding other : String × α) : Prop where
  key : SameLetters binding.1 other.1
  value : other.2 = binding.2

instance {α : Type} [DecidableEq α] (binding other : String × α) :
    Decidable (SameBinding binding other) :=
  decidable_of_iff (SameLetters binding.1 other.1 ∧ other.2 = binding.2)
    ⟨fun ⟨key, value⟩ => ⟨key, value⟩, fun ⟨key, value⟩ => ⟨key, value⟩⟩

/-- Tables with the same values in the same order, under keys that are the same in lowercase. -/
def Table.Respelled {α : Type} (table other : Table String α) : Prop :=
  List.Forall₂ SameBinding table.entries other.entries

instance {α : Type} [DecidableEq α] (table other : Table String α) :
    Decidable (table.Respelled other) :=
  inferInstanceAs (Decidable (List.Forall₂ SameBinding table.entries other.entries))

/-- An entry that differs from another one at most in the letter case of the words by which it
refers to others. In the table of an event the key for everywhere stands in the same place. -/
structure Entry.Respelled (entry other : Entry) : Prop where
  fields : other = { entry with
    triggers := other.triggers, canSpawnAt := other.canSpawnAt, knows := other.knows }
  triggers : List.Forall₂ SameLetters entry.triggers other.triggers
  canSpawnAt : Option.Rel Table.Respelled entry.canSpawnAt other.canSpawnAt
  knows : Option.Rel Table.Respelled entry.knows other.knows
  anywhere : entry.category = .event →
    List.Forall₂ (fun key copy => copy = anyLocation ↔ key = anyLocation) entry.spawnTable.keys
      other.spawnTable.keys

/-- Findings that differ at most in the letters of a key that leads nowhere. -/
inductive Finding.Respelled : Finding → Finding → Prop where
  | same (finding : Finding) : Respelled finding finding
  | unresolved (entry : String) (field : ReferenceField) {key other : String}
    (letters : SameLetters key other) :
    Respelled (.unresolvedReference entry field key) (.unresolvedReference entry field other)

/-- Outcomes with the same world, in which overrides have the names of sublocations as these are
declared, and with reports that differ at most in the letters of keys that lead nowhere. -/
structure Outcome.Respelled (outcome other : Outcome) : Prop where
  world : other.world = outcome.world
  declared : ∀ edge ∈ outcome.world.edges, ∀ override ∈ edge.kind.overrides.entries,
    ∃ room ∈ outcome.world.sublocationsOf edge.target, room.name = override.1
  findings : List.Forall₂ Finding.Respelled outcome.report.findings other.report.findings

/-- Tables in other letters, where there are any. -/
theorem Table.respelled_getD {α : Type} {table other : Option (Table String α)}
    (same : Option.Rel Table.Respelled table other) :
    (table.getD .empty).Respelled (other.getD .empty) := by
  cases same with
  | some same => exact same
  | none => exact .nil

/-- Where a key stands in the same places, the same is found under it. -/
theorem Table.Respelled.get?_eq {α : Type} {table other : Table String α} {key : String}
    (same : table.Respelled other)
    (places : List.Forall₂ (fun word copy => copy = key ↔ word = key) table.keys other.keys) :
    other.get? key = table.get? key := by
  have each : List.Forall₂ (fun entry copy : String × α =>
      copy.2 = entry.2 ∧ (copy.1 = key ↔ entry.1 = key)) table.entries other.entries := by
    unfold Table.keys at places
    rw [List.forall₂_map_left_iff, List.forall₂_map_right_iff] at places
    refine List.forall₂_iff_zip.2 ⟨same.length_eq, fun paired => ?_⟩
    exact ⟨(List.forall₂_zip same paired).value, List.forall₂_zip places paired⟩
  have found : Option.Rel _ (table.entries.find? fun entry => decide (entry.1 = key))
      (other.entries.find? fun entry => decide (entry.1 = key)) :=
    rel_find? each fun entry copy same => decide_eq_decide.2 same.2
  exact map_eq_of_optionRel found fun _ _ same => same.1

namespace Entry.Respelled

variable {entry other : Entry} (same : entry.Respelled other) (settings : GraphSettings)

include same

theorem category : other.category = entry.category := by rw [same.fields]

theorem name : other.name = entry.name := by rw [same.fields]

theorem subLocations : other.subLocations = entry.subLocations := by rw [same.fields]

theorem isLocation_iff : other.IsLocation ↔ entry.IsLocation := by
  rw [Entry.IsLocation, same.category]

theorem isCast_iff : other.IsCast ↔ entry.IsCast := by
  rw [Entry.IsCast, same.category]

theorem nodeType : other.nodeType = entry.nodeType := by
  rw [Entry.nodeType, same.category]
  rfl

theorem nodeName : other.nodeName = entry.nodeName := by
  rw [Entry.nodeName, same.category, same.name]
  rfl

theorem spawnTable : entry.spawnTable.Respelled other.spawnTable :=
  Table.respelled_getD same.canSpawnAt

/-- An event happens anywhere with the same chance. -/
theorem get?_anyLocation (event : entry.category = .event) :
    other.spawnTable.get? anyLocation = entry.spawnTable.get? anyLocation :=
  same.spawnTable.get?_eq (same.anywhere event)

theorem nodeKind : other.nodeKind settings = entry.nodeKind settings := by
  unfold Entry.nodeKind
  rw [same.category]
  cases category : entry.category with
  | event =>
    dsimp only
    rw [same.get?_anyLocation category, same.fields]
  | character =>
    dsimp only
    rw [same.fields]
  | location | other => rfl

theorem isAnywhere : other.isAnywhere = entry.isAnywhere := by
  unfold Entry.isAnywhere
  rw [same.category]
  by_cases event : entry.category = .event
  · rw [same.get?_anyLocation event]
  · simp [event]

end Entry.Respelled

/-! ## Placements -/

/-- Placements of entries in other letters at the same place. -/
structure Placement.Respelled (placed copy : Placement) : Prop where
  before : copy.before = placed.before
  position : copy.position = placed.position
  entry : placed.entry.Respelled copy.entry

/-- Entries in other letters under the same identity. -/
structure MemberRespelled (member copy : ElementId × Entry) : Prop where
  id : copy.1 = member.1
  entry : member.2.Respelled copy.2

namespace Placement.Respelled

variable {placed copy : Placement} (same : placed.Respelled copy) (settings : GraphSettings)

include same

theorem id : copy.id = placed.id := by
  rw [Placement.id, same.before, same.entry.nodeType]
  rfl

theorem member : MemberRespelled placed.member copy.member := ⟨same.id, same.entry⟩

theorem node : copy.node settings = placed.node settings := by
  rw [Placement.node, same.id, same.position, same.entry.nodeName, same.entry.nodeKind,
    same.entry.fields]
  rfl

theorem nodes : copy.nodes settings = placed.nodes settings := by
  have listed : Draft.sublocationsOf copy.entry = Draft.sublocationsOf placed.entry := by
    rw [Draft.sublocationsOf, same.entry.subLocations]
    rfl
  have room : copy.sublocation settings = placed.sublocation settings := by
    funext one
    rw [Placement.sublocation, same.id, same.before, same.position, listed]
    rfl
  have rooms : copy.sublocations settings = placed.sublocations settings := by
    simp only [sublocations, listed, room, same.entry.isLocation_iff]
  rw [Placement.nodes, same.node, rooms]
  rfl

end Placement.Respelled

/-- Entries in other letters at the same places of a lorebook. -/
structure ItemRespelled (item copy : Nat × Entry) : Prop where
  place : copy.1 = item.1
  entry : item.2.Respelled copy.2

theorem respelled_zip (places : List Nat) {entries others : List Entry}
    (each : List.Forall₂ Entry.Respelled entries others) :
    List.Forall₂ ItemRespelled (places.zip entries) (places.zip others) := by
  induction each generalizing places with
  | nil =>
    rw [List.zip_nil_right]
    exact .nil
  | cons here _ ih =>
    cases places with
    | nil => exact .nil
    | cons place rest => exact .cons ⟨rfl, here⟩ (ih rest)

theorem respelled_numbered {entries others : List Entry}
    (each : List.Forall₂ Entry.Respelled entries others) :
    List.Forall₂ ItemRespelled ((List.range entries.length).zip entries)
      ((List.range others.length).zip others) := by
  rw [← each.length_eq]
  exact respelled_zip (List.range entries.length) each

section Items

variable (config : Config) (total : Nat)

theorem respelled_placements {items others : List (Nat × Entry)}
    (each : List.Forall₂ ItemRespelled items others) (before : Nat) :
    List.Forall₂ Placement.Respelled (placements config total before items)
      (placements config total before others) := by
  induction each generalizing before with
  | nil => exact .nil
  | @cons item copy _ _ here _ ih =>
    have same : Placement.Respelled ⟨before, config.layout.gridPosition item.1 total, item.2⟩
        ⟨before, config.layout.gridPosition copy.1 total, copy.2⟩ :=
      ⟨rfl, by rw [here.place], here.entry⟩
    rw [placements, placements, same.nodes]
    exact .cons same (ih _)

variable {items others : List (Nat × Entry)} (each : List.Forall₂ ItemRespelled items others)

include each

theorem respelled_locationPlacements :
    List.Forall₂ Placement.Respelled (locationPlacements config total items)
      (locationPlacements config total others) := by
  refine respelled_placements config total (List.rel_filter ?_ each) 0
  intro item copy same
  simp only [decide_eq_true_eq, same.entry.isLocation_iff]

/-- The nodes of the locations are the same. -/
theorem flatMap_nodes_respelled :
    (locationPlacements config total others).flatMap (Placement.nodes config.graph) =
      (locationPlacements config total items).flatMap (Placement.nodes config.graph) :=
  flatMap_eq_of_forall₂ (respelled_locationPlacements config total each)
    fun _ _ same => same.nodes config.graph

theorem respelled_castPlacements :
    List.Forall₂ Placement.Respelled (castPlacements config total items)
      (castPlacements config total others) := by
  rw [castPlacements, castPlacements, flatMap_nodes_respelled config total each]
  refine respelled_placements config total (List.rel_filter ?_ each) _
  intro item copy same
  simp only [decide_eq_true_eq, same.entry.isCast_iff]

theorem importedNodes_respelled :
    Draft.importedNodes config total others = Draft.importedNodes config total items := by
  have cast : (castPlacements config total others).map (Placement.node config.graph) =
      (castPlacements config total items).map (Placement.node config.graph) :=
    map_eq_of_forall₂ (respelled_castPlacements config total each)
      fun _ _ _ same => same.node config.graph
  rw [Draft.importedNodes, Draft.importedNodes, flatMap_nodes_respelled config total each, cast]

theorem respelled_castMembers :
    List.Forall₂ MemberRespelled (Draft.castMembers (castPlacements config total items))
      (Draft.castMembers (castPlacements config total others)) := by
  refine List.rel_map (fun _ _ same => Placement.Respelled.member same)
    (List.rel_filter ?_ (respelled_castPlacements config total each))
  intro placed copy same
  simp only [same.entry.category]

end Items

/-! ## What words lead to -/

namespace Draft

/-- Two drafts in which the same words lead to the same nodes. -/
structure LeadsAlike (draft other : Draft) : Prop where
  locations : ∀ word, other.locations.get? word = draft.locations.get? word
  sublocations : ∀ word, other.sublocations.get? word = draft.sublocations.get? word
  characters : ∀ word, other.characters.get? word = draft.characters.get? word

theorem Indexed.leadsAlike {draft other : Draft} (indexed : draft.Indexed)
    (also : other.Indexed) (nodes : other.nodes = draft.nodes) : draft.LeadsAlike other where
  locations := fun word => by rw [also.locations, indexed.locations, nodes]
  sublocations := fun word => by rw [also.sublocations, indexed.sublocations, nodes]
  characters := fun word => by rw [also.characters, indexed.characters, nodes]

/-- What spawn tables in other letters lead to. -/
structure SpawnTargets.Respelled (found copy : SpawnTargets) : Prop where
  targets : copy.targets = found.targets
  unresolved : List.Forall₂ SameLetters found.unresolved copy.unresolved

section Leads

variable {draft other : Draft} (leads : draft.LeadsAlike other)

include leads

theorem LeadsAlike.follow (settings : GraphSettings) {found copy : SpawnTargets}
    (same : found.Respelled copy) {spawn spawnCopy : String × Float}
    (binding : SameBinding spawn spawnCopy) :
    (found.follow settings draft spawn).Respelled (copy.follow settings other spawnCopy) := by
  obtain ⟨word, chance⟩ := binding
  unfold SpawnTargets.follow
  rw [leads.locations, leads.sublocations, ← word, chance, same.targets]
  cases draft.locations.get? (Text.lowercase spawn.1) with
  | some location => exact ⟨rfl, same.unresolved⟩
  | none =>
    cases draft.sublocations.get? (Text.lowercase spawn.1) with
    | some sublocation => exact ⟨rfl, same.unresolved⟩
    | none => exact ⟨rfl, List.rel_append same.unresolved (.cons word .nil)⟩

open scoped Relator in
theorem LeadsAlike.spawnTargets (settings : GraphSettings) {table copy : Table String Float}
    (same : table.Respelled copy) :
    (spawnTargets settings draft table).Respelled (spawnTargets settings other copy) := by
  have step : (SpawnTargets.Respelled ⇒ SameBinding ⇒ SpawnTargets.Respelled)
      (SpawnTargets.follow settings draft) (SpawnTargets.follow settings other) :=
    fun _ _ found _ _ binding => leads.follow settings found binding
  exact List.rel_foldl step ⟨rfl, .nil⟩ same

theorem LeadsAlike.spawnLinks (settings : GraphSettings) {placed copy : Placement}
    (same : placed.Respelled copy) :
    copy.spawnLinks settings other = placed.spawnLinks settings draft := by
  rw [Placement.spawnLinks, Placement.spawnLinks, same.entry.isAnywhere, same.id,
    (leads.spawnTargets settings same.entry.spawnTable).targets]

theorem LeadsAlike.lostSpawns (settings : GraphSettings) {placed copy : Placement}
    (same : placed.Respelled copy) :
    List.Forall₂ Finding.Respelled (placed.lostSpawns settings draft)
      (copy.lostSpawns settings other) := by
  rw [Placement.lostSpawns, Placement.lostSpawns, same.entry.isAnywhere, same.entry.name]
  split
  · exact .nil
  · refine List.rel_map (fun key keyCopy letters => ?_)
      (leads.spawnTargets settings same.entry.spawnTable).unresolved
    exact .unresolved _ _ letters

theorem LeadsAlike.collisionsOf (node : Node) :
    other.collisionsOf node = draft.collisionsOf node := by
  unfold Draft.collisionsOf keywordCollisions
  simp only [leads.locations, leads.characters, leads.sublocations]

/-! ## References -/

/-- References by words in other letters: both lead nowhere, or both link the same. -/
abbrev ReferenceRespelled : Reference → Reference → Prop := Sum.LiftRel Finding.Respelled Eq

omit leads in
theorem linked_respelled {references others : List Reference}
    (each : List.Forall₂ ReferenceRespelled references others) :
    linked others = linked references := by
  refine filterMap_eq_of_forall₂ each fun reference copy here => ?_
  cases here with
  | inl _ => rfl
  | inr here => rw [here]

omit leads in
theorem lost_respelled {references others : List Reference}
    (each : List.Forall₂ ReferenceRespelled references others) :
    List.Forall₂ Finding.Respelled (lost references) (lost others) := by
  refine List.rel_filterMap (fun reference copy here => ?_) each
  cases here with
  | inl here => exact .some here
  | inr _ => exact .none

theorem LeadsAlike.adjacencyReferences {members others : List (ElementId × Entry)}
    (each : List.Forall₂ MemberRespelled members others) :
    List.Forall₂ ReferenceRespelled (draft.adjacencyReferences members)
      (other.adjacencyReferences others) := by
  refine List.rel_flatMap each fun member copy same => ?_
  refine List.rel_map (fun trigger triggerCopy letters => ?_) same.entry.triggers
  unfold adjacencyReference
  rw [leads.locations, ← letters, same.id, same.entry.name]
  cases draft.locations.get? (Text.lowercase trigger) with
  | none => exact .inl (.unresolved _ _ letters)
  | some target => exact .inr rfl

/-- A character thinks the same of another one. -/
theorem LeadsAlike.thoughtsAbout {entry copy : Entry} (same : entry.Respelled copy)
    (about : ElementId) : other.thoughtsAbout copy about = draft.thoughtsAbout entry about := by
  have found : Option.Rel _
      ((entry.knows.getD .empty).entries.find? fun known =>
        decide (draft.characters.get? (Text.lowercase known.1) = some about))
      ((copy.knows.getD .empty).entries.find? fun known =>
        decide (other.characters.get? (Text.lowercase known.1) = some about)) :=
    rel_find? (Table.respelled_getD same.knows) fun known knownCopy binding => by
      rw [leads.characters, ← binding.key]
  exact map_eq_of_optionRel found fun _ _ binding =>
    congrArg Acquaintance.thoughts binding.value

theorem LeadsAlike.thoughtsBack {members others : List (ElementId × Entry)}
    (each : List.Forall₂ MemberRespelled members others) (id about : ElementId) :
    other.thoughtsBack others id about = draft.thoughtsBack members id about := by
  have found : Option.Rel _ (members.find? fun member => decide (member.1 = about))
      (others.find? fun member => decide (member.1 = about)) :=
    rel_find? each fun member copy same => by rw [same.id]
  unfold Draft.thoughtsBack
  rw [Option.bind_map, Option.bind_map]
  exact congrArg (fun thoughts : Option String => thoughts.getD "")
    (bind_eq_of_optionRel found fun _ _ same => leads.thoughtsAbout same.entry id)

theorem LeadsAlike.acquaintanceReferences {members others : List (ElementId × Entry)}
    (each : List.Forall₂ MemberRespelled members others) :
    List.Forall₂ ReferenceRespelled (draft.acquaintanceReferences members)
      (other.acquaintanceReferences others) := by
  refine List.rel_flatMap each fun member copy same => ?_
  refine List.rel_map (fun known knownCopy binding => ?_)
    (Table.respelled_getD same.entry.knows)
  unfold acquaintanceReference
  rw [leads.characters, ← binding.key, binding.value, same.id, same.entry.name]
  cases draft.characters.get? (Text.lowercase known.1) with
  | none => exact .inl (.unresolved _ _ binding.key)
  | some target =>
    dsimp only
    rw [leads.thoughtsBack each]
    exact .inr rfl

end Leads

/-! ## Whole imports -/

section Whole

variable {config : Config} {total : Nat} {items others : List (Nat × Entry)}
  (each : List.Forall₂ ItemRespelled items others) {last lastOther : Draft}
  (leads : last.LeadsAlike lastOther)

include each leads

theorem LeadsAlike.triggerReferences :
    List.Forall₂ ReferenceRespelled (last.triggerReferences config total items)
      (lastOther.triggerReferences config total others) :=
  leads.adjacencyReferences (List.rel_map (fun _ _ same => Placement.Respelled.member same)
    (respelled_locationPlacements config total each))

theorem LeadsAlike.knowsReferences :
    List.Forall₂ ReferenceRespelled (last.knowsReferences config total items)
      (lastOther.knowsReferences config total others) :=
  leads.acquaintanceReferences (respelled_castMembers config total each)

/-- The same links are made. -/
theorem LeadsAlike.links :
    lastOther.links config total others = last.links config total items := by
  have spawns : (castPlacements config total others).flatMap
      (Placement.spawnLinks config.graph lastOther) =
        (castPlacements config total items).flatMap
          (Placement.spawnLinks config.graph last) :=
    flatMap_eq_of_forall₂ (respelled_castPlacements config total each)
      fun _ _ same => leads.spawnLinks config.graph same
  rw [Draft.links, Draft.links, spawns, linked_respelled (leads.triggerReferences each),
    linked_respelled (leads.knowsReferences each)]

/-- The same is found, but for the letters of keys that lead nowhere. -/
theorem LeadsAlike.remarks :
    List.Forall₂ Finding.Respelled (last.remarks config total items)
      (lastOther.remarks config total others) := by
  have equal (findings : List Finding) : List.Forall₂ Finding.Respelled findings findings :=
    List.forall₂_same.2 fun finding _ => .same finding
  have unknown : others.filterMap unknownCategory? = items.filterMap unknownCategory? := by
    refine filterMap_eq_of_forall₂ each fun item copy here => ?_
    unfold unknownCategory?
    rw [here.place, here.entry.category]
  have collisions : lastOther.collisionsOf = last.collisionsOf := funext leads.collisionsOf
  unfold Draft.remarks
  rw [unknown, flatMap_nodes_respelled config total each, collisions]
  refine List.rel_append (List.rel_append (List.rel_append (equal _) ?_)
    (lost_respelled (leads.triggerReferences each))) (lost_respelled (leads.knowsReferences each))
  refine List.rel_flatMap (respelled_castPlacements config total each) fun placed copy same => ?_
  rw [same.node]
  exact List.rel_append (equal _) (leads.lostSpawns config.graph same)

end Whole

end Draft

/-- **References do not mind letter case.** Lorebooks that differ only in the letter case of the
words by which entries refer to each other are imported into the same world, and the reports differ
at most in the letters of keys that lead nowhere. -/
theorem importEntries_respelled (config : Config) {entries others : List Entry}
    (each : List.Forall₂ Entry.Respelled entries others) :
    EndAlike Outcome.Respelled (importEntries config entries) (importEntries config others) := by
  have items := respelled_numbered each
  have whole := assembled_importDraft config entries
  have also := assembled_importDraft config others
  rw [← each.length_eq] at items also
  have nodes : (importDraft config others).nodes = (importDraft config entries).nodes := by
    rw [also.nodes, whole.nodes, importedNodes_respelled config _ items]
  have leads := whole.indexed.leadsAlike also.indexed nodes
  have edges : (importDraft config others).edges = (importDraft config entries).edges := by
    rw [also.edges, whole.edges, leads.links items]
  have findings : List.Forall₂ Finding.Respelled (importDraft config entries).findings
      (importDraft config others).findings := by
    rw [also.findings, whole.findings]
    exact leads.remarks items
  change EndAlike Outcome.Respelled (importDraft config entries).finish
    (importDraft config others).finish
  unfold Draft.finish
  rw [nodes, edges]
  split
  · exact .fail _
  split
  · exact .fail _
  · exact .succeed ⟨rfl, fun edge member override listed =>
      (whole.override_cases member listed).1, findings⟩

/-- A harbour with a quay, an inn near it, Ada who moors there, Bob who knows her, and two storms;
whoever refers to another spells it as given. -/
def coastEntries (harbour quay ada : String) : List Entry :=
  [{ Entry.blank .location "Harbour" with keywords := ["harbour"] }.withSublocation "Quay",
    { Entry.blank .location "Inn" with keywords := ["inn"], triggers := [harbour, quay] },
    ({ Entry.blank .character "Ada" with keywords := ["ada"] }.withSpawn harbour 0.5).withSpawn quay
      1,
    { Entry.blank .character "Bob" with keywords := ["bob"] }.withAcquaintance ada
      ⟨"friends", "owes her"⟩,
    (Entry.blank .event "Storm").withSpawn quay 0.25,
    ((Entry.blank .event "Gale").withSpawn anyLocation 0.25).withSpawn ada 1]

theorem coastEntries_respelled :
    List.Forall₂ Entry.Respelled (coastEntries "harbour" "quay" "ada")
        (coastEntries "HARBOUR" "qUAY" "Ada") ∧
      EndAlike Outcome.Respelled (importEntries {} (coastEntries "harbour" "quay" "ada"))
        (importEntries {} (coastEntries "HARBOUR" "qUAY" "Ada")) ∧
      ((importEntries {} (coastEntries "HARBOUR" "qUAY" "Ada")).map fun outcome =>
          (outcome.world.edges.map fun edge => edge.kind.overrides.entries, outcome.report)) =
        .ok ([[("Quay", 1)], [("Quay", 0.25)], [], []],
          ⟨[.unresolvedReference "Inn" .triggers "qUAY"]⟩) := by
  have each : List.Forall₂ Entry.Respelled (coastEntries "harbour" "quay" "ada")
      (coastEntries "HARBOUR" "qUAY" "Ada") := by
    refine .cons ?harbour (.cons ?inn (.cons ?ada (.cons ?bob (.cons ?storm (.cons ?gale .nil)))))
    case harbour => exact ⟨rfl, .nil, .none, .none, nofun⟩
    case inn => exact ⟨rfl, by decide +kernel, .none, .none, nofun⟩
    case ada => exact ⟨rfl, .nil, .some (by decide +kernel), .none, nofun⟩
    case bob => exact ⟨rfl, .nil, .none, .some (by decide +kernel), nofun⟩
    case storm =>
      exact ⟨rfl, .nil, .some (by decide +kernel), .none, fun _ => by decide +kernel⟩
    case gale =>
      exact ⟨rfl, .nil, .some (by decide +kernel), .none, fun _ => by decide +kernel⟩
  exact ⟨each, importEntries_respelled {} each, by decide +kernel⟩

end StoryWorld
