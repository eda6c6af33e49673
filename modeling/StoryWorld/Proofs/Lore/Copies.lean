import StoryWorld.Proofs.Lore.ImportOrder
import StoryWorld.Proofs.Lore.Unambiguous
import StoryWorld.Proofs.Related

/-!
# What becomes of a node

When the entries of a world are imported, every node comes back as a copy of its own. What a copy
keeps depends on its kind (`Node.carried`): a sublocation keeps its name and its images only, and an
event loses its short text, and its chance unless it is global. Locations and characters keep all,
except that a missing short text becomes an empty one. Places on the canvas are given anew, and
identities follow the import order.

The main statement is `Unambiguous.copied_importOrder`: in an unambiguous world the imported nodes
are copies of the nodes of the world in import order, one for one.
-/

set_option autoImplicit false

namespace StoryWorld

/-- The copy of a node at a place on the canvas, where identities are changed. -/
def Node.carried (settings : GraphSettings) (rename : ElementId → ElementId) (position : Position)
    (node : Node) : Node :=
  match node.kind with
  | .location | .character _ =>
    { node with
      id := rename node.id
      contentShort := some (node.contentShort.getD "")
      images := node.images.cleaned
      position := position }
  | .event timeFilter isGlobal chance =>
    { node with
      id := rename node.id
      name := if node.name = "" then unnamedEvent else node.name
      contentShort := none
      images := node.images.cleaned
      position := position
      kind := .event timeFilter isGlobal
        (if isGlobal then chance else settings.defaultGlobalSpawnChance) }
  | .sublocation parent =>
    { Node.blank (rename node.id) node.name (.sublocation (rename parent)) with
      position := position
      images := node.images.cleaned }

section Carried

variable (settings : GraphSettings) (rename : ElementId → ElementId) (position : Position)
  {node : Node}

theorem Node.carried_location (kind : node.kind = .location) :
    node.carried settings rename position =
      { id := rename node.id, name := node.name, keywords := node.keywords,
        content := node.content, contentShort := some (node.contentShort.getD ""),
        images := node.images.cleaned, filters := node.filters, position := position,
        kind := .location } := by
  unfold carried
  rw [kind]

theorem Node.carried_character {disabledFor : List String}
    (kind : node.kind = .character disabledFor) :
    node.carried settings rename position =
      { id := rename node.id, name := node.name, keywords := node.keywords,
        content := node.content, contentShort := some (node.contentShort.getD ""),
        images := node.images.cleaned, filters := node.filters, position := position,
        kind := .character disabledFor } := by
  unfold carried
  rw [kind]

theorem Node.carried_event {timeFilter : List String} {isGlobal : Bool} {chance : Float}
    (kind : node.kind = .event timeFilter isGlobal chance) :
    node.carried settings rename position =
      { id := rename node.id, name := if node.name = "" then unnamedEvent else node.name,
        keywords := node.keywords, content := node.content, contentShort := none,
        images := node.images.cleaned, filters := node.filters, position := position,
        kind := .event timeFilter isGlobal
          (if isGlobal then chance else settings.defaultGlobalSpawnChance) } := by
  unfold carried
  rw [kind]

theorem Node.carried_sublocation {parent : ElementId} (kind : node.kind = .sublocation parent) :
    node.carried settings rename position =
      { Node.blank (rename node.id) node.name (.sublocation (rename parent)) with
        position := position, images := node.images.cleaned } := by
  unfold carried
  rw [kind]

end Carried

/-- A node is the copy of another one. -/
def Node.CarriedTo (settings : GraphSettings) (rename : ElementId → ElementId)
    (node copy : Node) : Prop :=
  copy = node.carried settings rename copy.position

namespace Node.CarriedTo

variable {settings : GraphSettings} {rename : ElementId → ElementId} {node copy : Node}
  (carried : node.CarriedTo settings rename copy)

include carried

theorem id_eq : copy.id = rename node.id := by
  rw [carried]
  unfold Node.carried
  split <;> rfl

theorem type_eq : copy.type = node.type := by
  rw [carried]
  unfold Node.carried Node.type
  split
  · rfl
  · rfl
  · rename_i kind
    rw [kind]
    rfl
  · rename_i kind
    rw [kind]
    rfl

theorem images_eq : copy.images = node.images.cleaned := by
  rw [carried]
  unfold Node.carried
  split <;> rfl

theorem parent_eq : copy.parent = node.parent.map rename := by
  rw [carried]
  cases kind : node.kind with
  | location =>
    rw [Node.carried_location _ _ _ kind]
    simp only [Node.parent, kind]
    rfl
  | character disabledFor =>
    rw [Node.carried_character _ _ _ kind]
    simp only [Node.parent, kind]
    rfl
  | event timeFilter isGlobal chance =>
    rw [Node.carried_event _ _ _ kind]
    simp only [Node.parent, kind]
    rfl
  | sublocation parent =>
    rw [Node.carried_sublocation _ _ _ kind]
    simp only [Node.parent, kind]
    rfl

/-- All but sublocations keep their keywords. -/
theorem keywords_eq (other : node.type ≠ .sublocation) : copy.keywords = node.keywords := by
  rw [carried]
  unfold Node.carried
  split
  · rfl
  · rfl
  · rfl
  · rename_i kind
    exact absurd (congrArg NodeKind.type kind) other

theorem firstKeyword_eq (other : node.type ≠ .sublocation) :
    copy.firstKeyword = node.firstKeyword := by
  rw [Node.firstKeyword, carried.keywords_eq other, Node.firstKeyword]

/-- All but events keep their names. -/
theorem name_eq (other : node.type ≠ .event) : copy.name = node.name := by
  rw [carried]
  unfold Node.carried
  split
  · rfl
  · rfl
  · rename_i kind
    exact absurd (congrArg NodeKind.type kind) other
  · rfl

end Node.CarriedTo

namespace Snapshot

variable {world : Snapshot}

/-- The nodes of a list are copied one for one. -/
def Copied (world : Snapshot) (config : Config) (nodes copies : List Node) : Prop :=
  List.Forall₂ (Node.CarriedTo config.graph world.renamed) nodes copies

/-- An aligned placement gives its node the identity that it is renamed to. -/
theorem Aligned.own (valid : world.Valid) {entryOf : Node → Entry} {group : Node → List Node}
    {node : Node} {placed : Placement}
    (aligned : Aligned world.importOrder entryOf group node placed)
    {others : List Node} (first : group node = node :: others)
    (type : (entryOf node).nodeType = node.type) : placed.id = world.renamed node.id := by
  obtain ⟨entry, before, after, order, place⟩ := aligned
  have here : world.importOrder = before ++ node :: (others ++ after) := by
    rw [order, first]
    simp
  rw [valid.renamed_of_eq_append here, Placement.id, place, entry, type]

/-! ## Locations -/

section Locations

variable (valid : world.Valid) (clear : world.Unambiguous)

include valid clear

theorem Unambiguous.sublocationsOf_entry {location : Node} :
    Draft.sublocationsOf (world.locationEntry location) =
      (List.range' 0 (world.sublocationsOf location.id).length).zip
        ((world.sublocationsOf location.id).map fun room =>
          (room.name, (⟨room.images.cleaned⟩ : SublocationEntry))) := by
  have table : (world.locationEntry location).subLocations.getD .empty =
      world.sublocationTable location.id :=
    getD_nonempty? _
  unfold Draft.sublocationsOf
  simp only [table, clear.entries_sublocationTable valid, List.length_map, List.range_eq_range']

/-- A placement of the entry of a location makes as many nodes as its family has. -/
theorem Unambiguous.length_nodes {settings : GraphSettings} {location : Node} {placed : Placement}
    (entry : placed.entry = world.locationEntry location) :
    (placed.nodes settings).length = (world.family location).length := by
  have isLocation : placed.entry.IsLocation := by
    rw [entry]
    rfl
  rw [Placement.nodes, Placement.sublocations, if_pos isLocation, entry,
    clear.sublocationsOf_entry valid]
  simp [family]

omit clear in
/-- The sublocations of a location come one after another behind it. -/
theorem Valid.copied_sublocations {config : Config} {location : Node} {placed : Placement}
    (own : placed.id = world.renamed location.id) {before : List Node}
    (earlier rooms after : List Node) (below : ∀ room ∈ rooms, room.parent = some location.id)
    (order : world.importOrder = before ++ location :: (earlier ++ rooms) ++ after)
    (place : placed.before = before.length) :
    world.Copied config rooms
      (((List.range' earlier.length rooms.length).zip
        (rooms.map fun room => (room.name, (⟨room.images.cleaned⟩ : SublocationEntry)))).map
          (placed.sublocation config.graph)) := by
  induction rooms generalizing earlier with
  | nil => exact .nil
  | cons room rest ih =>
    have here : world.importOrder =
        (before ++ location :: earlier) ++ room :: (rest ++ after) := by
      rw [order]
      simp
    have ih := ih (earlier ++ [room])
      (fun other member => below other (List.mem_cons_of_mem _ member)) (by rw [order]; simp)
    rw [List.length_append, List.length_singleton] at ih
    rw [List.length_cons, List.range'_succ, List.map_cons, List.zip_cons_cons, List.map_cons]
    refine .cons ?_ ih
    have isBelow := below room (List.mem_cons_self ..)
    have id : world.renamed room.id =
        .numbered (.node .sublocation) (placed.before + 1 + earlier.length + 1) := by
      rw [valid.renamed_of_eq_append here, Node.type_of_parent isBelow, place]
      congr 1
      simp
      omega
    rw [Node.CarriedTo, Node.carried_sublocation _ _ _ (Node.kind_of_parent isBelow), id, ← own]
    rfl

/-- The nodes of a placed location are copies of its family. -/
theorem Unambiguous.copied_family {config : Config} {location : Node} {placed : Placement}
    (isLocation : location ∈ world.nodesOf .location)
    (aligned : Aligned world.importOrder world.locationEntry world.family location placed) :
    world.Copied config (world.family location) (placed.nodes config.graph) := by
  have type := (mem_nodesOf.1 isLocation).2
  have own : placed.id = world.renamed location.id := aligned.own valid rfl type.symm
  obtain ⟨entry, before, after, order, place⟩ := aligned
  have category : placed.entry.IsLocation := by
    rw [entry]
    rfl
  rw [Placement.nodes, Placement.sublocations, if_pos category, entry,
    clear.sublocationsOf_entry valid]
  refine .cons ?_ ?_
  · rw [Node.CarriedTo, Node.carried_location _ _ _ (Node.kind_of_location type), ← own,
      Placement.node, entry]
    rfl
  · refine valid.copied_sublocations own [] (world.sublocationsOf location.id) after
      (fun room member => (mem_sublocationsOf.1 member).2) ?_ place
    rw [order, family]
    rfl

/-- The placements of the exported locations follow the import order. -/
theorem Unambiguous.aligned_locations (config : Config) :
    List.Forall₂ (Aligned world.importOrder world.locationEntry world.family)
      (world.nodesOf .location)
      (locationPlacements config world.entries.length world.items) :=
  aligned_placements config _ world.map_snd_locationItems
    (fun _ _ _ entry => clear.length_nodes valid entry) [] world.castNodes

theorem Unambiguous.copied_families (config : Config) :
    world.Copied config ((world.nodesOf .location).flatMap world.family)
      ((locationPlacements config world.entries.length world.items).flatMap
        (Placement.nodes config.graph)) := by
  have locations := clear.aligned_locations valid config
  refine List.rel_flatten (List.forall₂_map_left_iff.2 (List.forall₂_map_right_iff.2 ?_))
  refine (forall₂_and_mem locations).imp ?_
  exact fun location placed both => clear.copied_family valid both.1 both.2

/-- The placements of the exported characters and events follow the import order. -/
theorem Unambiguous.aligned_cast (config : Config) :
    List.Forall₂ (Aligned world.importOrder world.castEntry fun node => [node])
      world.castNodes (castPlacements config world.entries.length world.items) := by
  have order : world.importOrder = (world.nodesOf .location).flatMap world.family ++
      world.castNodes.flatMap (fun node => [node]) ++ [] := by
    simp [importOrder]
  rw [order, castPlacements, ← (clear.copied_families valid config).length_eq]
  refine aligned_placements config _ world.map_snd_castItems (fun node _ placed entry => ?_) _ []
  have single : ¬ placed.entry.IsLocation := by
    rw [entry]
    exact (world.isCast_castEntry node).not_isLocation
  rw [Placement.nodes, Placement.sublocations_of_not_isLocation _ _ single]
  rfl

end Locations

/-! ## Characters and events -/

section Cast

variable (valid : world.Valid) (typed : world.Typed) (clear : world.Unambiguous)

include valid typed clear

/-- The spawn table of an event has a chance for everywhere just if the event is global. -/
theorem Unambiguous.get?_eventSpawnTable_any {node : Node} {timeFilter : List String}
    {isGlobal : Bool} {chance : Float} (kind : node.kind = .event timeFilter isGlobal chance) :
    (world.eventSpawnTable node).get? anyLocation = if isGlobal then some chance else none := by
  unfold eventSpawnTable
  rw [kind]
  cases isGlobal with
  | true => rfl
  | false => exact clear.get?_spawnTable_any valid typed node.id

/-- The entry of a character or an event is for everywhere just if the event is global. -/
theorem Unambiguous.isAnywhere_castEntry {node : Node} (isCast : node ∈ world.castNodes) :
    (world.castEntry node).isAnywhere = node.isGlobalEvent := by
  unfold Entry.isAnywhere castEntry
  rcases (mem_castNodes.1 isCast).2 with type | type
  · obtain ⟨disabledFor, kind⟩ := Node.kind_of_character type
    rw [if_pos type, Node.isGlobalEvent, kind]
    rfl
  · obtain ⟨timeFilter, isGlobal, chance, kind⟩ := Node.kind_of_event type
    have anywhere : (world.eventEntry node).spawnTable.get? anyLocation =
        if isGlobal then some chance else none :=
      clear.get?_eventSpawnTable_any valid typed kind
    rw [if_neg (by rw [type]; exact NodeType.noConfusion), anywhere, Node.isGlobalEvent, kind]
    cases isGlobal <;> rfl

/-- The node of a placed character or event is the copy of its node. -/
theorem Unambiguous.copied_cast {config : Config} {node : Node} {placed : Placement}
    (isCast : node ∈ world.castNodes)
    (aligned : Aligned world.importOrder world.castEntry (fun node => [node]) node placed) :
    node.CarriedTo config.graph world.renamed (placed.node config.graph) := by
  have own := aligned.own valid rfl (nodeType_castEntry isCast)
  have entry := aligned.1
  rcases (mem_castNodes.1 isCast).2 with type | type
  · obtain ⟨disabledFor, kind⟩ := Node.kind_of_character type
    rw [castEntry, if_pos type] at entry
    have kinds : placed.entry.nodeKind config.graph = .character disabledFor := by
      rw [entry, Entry.nodeKind, characterEntry, kind]
      rfl
    rw [Node.CarriedTo, Node.carried_character _ _ _ kind, ← own, Placement.node, kinds, entry]
    rfl
  · obtain ⟨timeFilter, isGlobal, chance, kind⟩ := Node.kind_of_event type
    rw [castEntry, if_neg (by rw [type]; exact NodeType.noConfusion)] at entry
    have kinds : placed.entry.nodeKind config.graph = .event timeFilter isGlobal
        (if isGlobal then chance else config.graph.defaultGlobalSpawnChance) := by
      have anywhere : (world.eventEntry node).spawnTable.get? anyLocation =
          if isGlobal then some chance else none :=
        clear.get?_eventSpawnTable_any valid typed kind
      have times : (world.eventEntry node).timeFilter = some timeFilter := by
        rw [eventEntry, kind]
      rw [entry, Entry.nodeKind]
      change NodeKind.event ((world.eventEntry node).timeFilter.getD []) _ _ = _
      rw [times, anywhere]
      cases isGlobal <;> rfl
    rw [Node.CarriedTo, Node.carried_event _ _ _ kind, ← own, Placement.node, kinds, entry]
    rfl

/-! ## All nodes -/

/-- **Every node comes back as a copy of its own**, in import order. -/
theorem Unambiguous.copied_importOrder (config : Config) :
    world.Copied config world.importOrder (importDraft config world.entries).nodes := by
  have whole : Draft.Assembled config world.entries.length world.items
    (importDraft config world.entries) [] := Draft.assembled config _ world.items []
  have cast := clear.aligned_cast valid config
  rw [whole.nodes, Draft.importedNodes, importOrder]
  refine List.rel_append (clear.copied_families valid config) ?_
  rw [List.forall₂_map_right_iff]
  refine (forall₂_and_mem cast).imp ?_
  exact fun node placed both => clear.copied_cast valid typed both.1 both.2

end Cast

end Snapshot

end StoryWorld
