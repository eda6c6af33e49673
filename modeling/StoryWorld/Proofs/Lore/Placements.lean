import StoryWorld.Lore.Import
import StoryWorld.Proofs.Lore.Declarations

/-!
# The nodes of an import

Where an entry comes among the nodes is known before anything is looked up: the locations come
first, each followed by its sublocations, then the characters and events, and numbers are given out
in this order. A `Placement` says how many nodes come before an entry; from it follow the identity
of its node and the whole of its nodes.

The two passes that make nodes are restated over placements: the pass over the locations declares
the nodes of one placement after another (`locationPass_eq`), and the pass over the characters and
events enrols them one after another (`castPass_eq`).
-/

set_option autoImplicit false

namespace StoryWorld

namespace Entry

/-- The kind of node that an entry becomes. -/
def nodeType (entry : Entry) : NodeType := entry.category.nodeType.getD .location

/-- The name of the node that an entry becomes. -/
def nodeName (entry : Entry) : String :=
  match entry.category with
  | .event => if entry.name = "" then unnamedEvent else entry.name
  | _ => entry.name

/-- What an entry becomes, with the data of its kind. -/
def nodeKind (settings : GraphSettings) (entry : Entry) : NodeKind :=
  match entry.category with
  | .character => .character (entry.disabledFor.getD [])
  | .event =>
    .event (entry.timeFilter.getD []) (entry.spawnTable.get? anyLocation).isSome
      ((entry.spawnTable.get? anyLocation).getD settings.defaultGlobalSpawnChance)
  | _ => .location

/-- Whether an entry becomes an event that may happen anywhere. -/
def isAnywhere (entry : Entry) : Bool :=
  decide (entry.category = .event) && (entry.spawnTable.get? anyLocation).isSome

/-- An entry about a location. -/
abbrev IsLocation (entry : Entry) : Prop := entry.category = .location

/-- An entry about a character or an event. -/
abbrev IsCast (entry : Entry) : Prop := entry.category = .character ∨ entry.category = .event

theorem IsCast.not_isLocation {entry : Entry} (cast : entry.IsCast) : ¬ entry.IsLocation := by
  rcases cast with category | category <;> simp [category]

theorem type_nodeKind (settings : GraphSettings) (entry : Entry) :
    (entry.nodeKind settings).type = entry.nodeType := by
  unfold nodeKind nodeType
  cases entry.category <;> rfl

end Entry

/-- An entry with its place among the imported nodes and on the canvas. -/
structure Placement where
  /-- How many nodes come before. -/
  before : Nat
  position : Position
  entry : Entry

namespace Placement

/-- The identity of the node of an entry. -/
def id (placed : Placement) : ElementId :=
  .numbered (.node placed.entry.nodeType) (placed.before + 1)

/-- The node of an entry. -/
def node (settings : GraphSettings) (placed : Placement) : Node :=
  Draft.nodeOf placed.id placed.entry placed.entry.nodeName (placed.entry.nodeKind settings)
    placed.position

/-- The node of a sublocation of an entry. -/
def sublocation (settings : GraphSettings) (placed : Placement)
    (listed : Nat × String × SublocationEntry) : Node :=
  { Node.blank (.numbered (.node .sublocation) (placed.before + 1 + listed.1 + 1)) listed.2.1
      (.sublocation placed.id) with
    position :=
      settings.sublocationPosition placed.position listed.1
        (Draft.sublocationsOf placed.entry).length
    images := listed.2.2.images }

/-- The nodes of the sublocations of an entry; only locations have any. -/
def sublocations (settings : GraphSettings) (placed : Placement) : List Node :=
  if placed.entry.IsLocation then
    (Draft.sublocationsOf placed.entry).map (placed.sublocation settings)
  else []

/-- All nodes of an entry. -/
def nodes (settings : GraphSettings) (placed : Placement) : List Node :=
  placed.node settings :: placed.sublocations settings

/-- The entry under the identity of its node. -/
def member (placed : Placement) : ElementId × Entry := (placed.id, placed.entry)

variable (settings : GraphSettings) (placed : Placement)

@[simp] theorem id_node : (placed.node settings).id = placed.id := rfl

@[simp] theorem type_node : (placed.node settings).type = placed.entry.nodeType :=
  Entry.type_nodeKind settings placed.entry

@[simp] theorem keywords_node : (placed.node settings).keywords = placed.entry.keywords := rfl

theorem parent_node : (placed.node settings).parent = none := by
  unfold node Draft.nodeOf Node.parent Entry.nodeKind
  cases placed.entry.category <;> rfl

theorem ref?_node : (placed.node settings).ref? = none := by
  rw [Node.ref?, parent_node, Option.map_none]

theorem sublocations_of_not_isLocation (other : ¬ placed.entry.IsLocation) :
    placed.sublocations settings = [] :=
  if_neg other

end Placement

/-- The items about locations. -/
def locationItems (items : List (Nat × Entry)) : List (Nat × Entry) :=
  items.filter fun item => decide item.2.IsLocation

/-- The items about characters and events. -/
def castItems (items : List (Nat × Entry)) : List (Nat × Entry) :=
  items.filter fun item => decide item.2.IsCast

/-- The placements of entries one after another, given with their places in the lorebook. -/
def placements (config : Config) (total : Nat) : Nat → List (Nat × Entry) → List Placement
  | _, [] => []
  | before, item :: rest =>
    let placed : Placement := ⟨before, config.layout.gridPosition item.1 total, item.2⟩
    placed ::
      placements config total (before + (placed.nodes config.graph).length) rest

theorem map_entry_placements (config : Config) (total before : Nat) (items : List (Nat × Entry)) :
    (placements config total before items).map Placement.entry = items.map Prod.snd := by
  induction items generalizing before with
  | nil => rfl
  | cons item rest ih => simp only [placements, List.map_cons, ih]

theorem entry_mem_of_mem_placements {config : Config} {total before : Nat}
    {items : List (Nat × Entry)} {placed : Placement}
    (member : placed ∈ placements config total before items) :
    placed.entry ∈ items.map Prod.snd := by
  rw [← map_entry_placements config total before items]
  exact List.mem_map_of_mem member

namespace Draft

/-! ## The pass over the locations -/

/-- A sublocation is added by declaring its node. -/
theorem addSublocation_eq (draft : Draft) (parent : ElementId) (position : Position)
    (name : String) (images : Images) :
    draft.addSublocation parent position name images =
      draft.declare
        { Node.blank (draft.nextNodeId .sublocation) name (.sublocation parent) with
          position := position, images := images } := rfl

/-- Sublocations are added in order, so each has the number of its place in the row. -/
theorem foldl_addSublocation (settings : GraphSettings) (placed : Placement)
    (entries : List (String × SublocationEntry)) (start : Nat) {draft : Draft}
    (place : draft.nodes.length = placed.before + 1 + start) :
    ((List.range' start entries.length).zip entries).foldl
        (fun draft sublocation =>
          draft.addSublocation placed.id
            (settings.sublocationPosition placed.position sublocation.1
              (sublocationsOf placed.entry).length)
            sublocation.2.1 sublocation.2.2.images)
        draft =
      (((List.range' start entries.length).zip entries).map
        (placed.sublocation settings)).foldl declare draft := by
  induction entries generalizing start draft with
  | nil => rfl
  | cons entry rest ih =>
    rw [List.length_cons, List.range'_succ, List.zip_cons_cons, List.foldl_cons, List.map_cons,
      List.foldl_cons, addSublocation_eq, nextNodeId, place]
    exact ih (start + 1) (by simp [place, Nat.add_assoc])

/-- A location is added by declaring its nodes. -/
theorem addLocation_eq (settings : GraphSettings) {draft : Draft} (placed : Placement)
    (isLocation : placed.entry.IsLocation) (place : placed.before = draft.nodes.length) :
    draft.addLocation settings placed.entry placed.position =
      (placed.nodes settings).foldl declare draft := by
  have category : placed.entry.category = .location := isLocation
  have head : placed.id = draft.nextNodeId .location := by
    rw [Placement.id, place, Entry.nodeType, category]
    rfl
  have node : nodeOf (draft.nextNodeId .location) placed.entry placed.entry.name .location
      placed.position = placed.node settings := by
    rw [Placement.node, head, Entry.nodeName, Entry.nodeKind, category]
  have start : (draft.declare (placed.node settings)).nodes.length = placed.before + 1 + 0 := by
    simp [place]
  have kind : (placed.node settings).kind = .location := by
    rw [← node]
    rfl
  rw [Placement.nodes, Placement.sublocations, if_pos isLocation, List.foldl_cons, sublocationsOf,
    List.range_eq_range', ← foldl_addSublocation settings placed _ 0 start, addLocation, node,
    declare, kind]
  simp only [List.range_eq_range', sublocationsOf, ← head]
  rfl

/-- Locations are added one after another by declaring all their nodes. -/
theorem foldl_addLocation (config : Config) (total : Nat) {items : List (Nat × Entry)}
    (locations : ∀ item ∈ items, item.2.IsLocation) (draft : Draft)
    (made : List (ElementId × Entry)) :
    items.foldl
        (fun pass item =>
          (⟨pass.draft.addLocation config.graph item.2 (config.layout.gridPosition item.1 total),
            pass.made ++ [(pass.draft.nextNodeId .location, item.2)]⟩ : Pass))
        ⟨draft, made⟩ =
      ⟨((placements config total draft.nodes.length items).flatMap
          (Placement.nodes config.graph)).foldl declare draft,
        made ++ (placements config total draft.nodes.length items).map Placement.member⟩ := by
  induction items generalizing draft made with
  | nil => simp [placements]
  | cons item rest ih =>
    have isLocation := locations item (List.mem_cons_self ..)
    have category : item.2.category = .location := isLocation
    have ih := ih fun other member => locations other (List.mem_cons_of_mem _ member)
    let placed : Placement :=
      ⟨draft.nodes.length, config.layout.gridPosition item.1 total, item.2⟩
    have added : draft.addLocation config.graph item.2 (config.layout.gridPosition item.1 total) =
        (placed.nodes config.graph).foldl declare draft :=
      addLocation_eq config.graph placed isLocation rfl
    have own : draft.nextNodeId .location = placed.id := by
      simp only [nextNodeId, Placement.id, placed, Entry.nodeType, category]
      rfl
    have length : ((placed.nodes config.graph).foldl declare draft).nodes.length =
        draft.nodes.length + (placed.nodes config.graph).length := by
      rw [nodes_foldl_declare, List.length_append]
    rw [List.foldl_cons, added, own, ih, length, placements, List.flatMap_cons, List.foldl_append,
      List.map_cons, List.append_assoc]
    rfl

/-- The pass over the locations declares all nodes of their placements. -/
theorem locationPass_eq (config : Config) (total : Nat) (draft : Draft)
    (items : List (Nat × Entry)) :
    locationPass config total draft items =
      ⟨((placements config total draft.nodes.length (locationItems items)).flatMap
          (Placement.nodes config.graph)).foldl declare draft,
        (placements config total draft.nodes.length (locationItems items)).map
          Placement.member⟩ := by
  have chosen : ∀ item ∈ locationItems items, item.2.IsLocation := by
    intro item member
    exact of_decide_eq_true (List.mem_filter.1 member).2
  rw [← List.nil_append (List.map Placement.member _), ← foldl_addLocation config total chosen,
    locationItems, List.foldl_filter, locationPass]
  simp only [decide_eq_true_eq]

/-! ## The pass over the characters and events -/

/-- Declares the node of a character or an event and adds its spawn edges; a global event has
none. -/
def enrol (settings : GraphSettings) (draft : Draft) (placed : Placement) : Draft :=
  if placed.entry.isAnywhere then draft.declare (placed.node settings)
  else (draft.declare (placed.node settings)).addSpawns settings placed.id placed.entry

/-- The characters among placements, by the identity of their node. -/
def castMembers (placed : List Placement) : List (ElementId × Entry) :=
  (placed.filter fun one => decide (one.entry.category = .character)).map Placement.member

/-- Linking makes no nodes. -/
theorem nodes_link (draft : Draft) (source target : ElementId) (kind : EdgeKind) :
    (draft.link source target kind).nodes = draft.nodes := by
  unfold link
  split
  · split <;> rfl
  · rfl

theorem nodes_addSpawns (settings : GraphSettings) (draft : Draft) (source : ElementId)
    (entry : Entry) : (draft.addSpawns settings source entry).nodes = draft.nodes := by
  have linked : ∀ (targets : List (ElementId × Float × Table String Float)) (draft : Draft),
      (targets.foldl (fun draft target =>
        draft.link source target.1 (.spawn target.2.1 target.2.2)) draft).nodes = draft.nodes := by
    intro targets
    induction targets with
    | nil => intro draft; rfl
    | cons target rest ih =>
      intro draft
      rw [List.foldl_cons, ih, nodes_link]
  exact linked _ _

theorem nodes_enrol (settings : GraphSettings) (draft : Draft) (placed : Placement) :
    (draft.enrol settings placed).nodes = draft.nodes ++ [placed.node settings] := by
  unfold enrol
  split
  · exact nodes_declare draft _
  · rw [nodes_addSpawns, nodes_declare]

/-- A character is added by enrolling it. -/
theorem addCharacter_eq (settings : GraphSettings) {draft : Draft} {placed : Placement}
    (category : placed.entry.category = .character) (place : placed.before = draft.nodes.length) :
    draft.addCharacter settings placed.entry placed.position = draft.enrol settings placed := by
  have own : placed.id = draft.nextNodeId .character := by
    rw [Placement.id, place, Entry.nodeType, category]
    rfl
  have node : nodeOf (draft.nextNodeId .character) placed.entry placed.entry.name
      (.character (placed.entry.disabledFor.getD [])) placed.position = placed.node settings := by
    rw [Placement.node, own, Entry.nodeName, Entry.nodeKind, category]
  have kind : (placed.node settings).kind = .character (placed.entry.disabledFor.getD []) := by
    rw [← node]
    rfl
  have named : placed.entry.isAnywhere = false := by simp [Entry.isAnywhere, category]
  rw [enrol, named, addCharacter, node, declare, kind]
  simp only [← own]
  rfl

/-- An event is added by enrolling it. -/
theorem addEvent_eq (settings : GraphSettings) {draft : Draft} {placed : Placement}
    (category : placed.entry.category = .event) (place : placed.before = draft.nodes.length) :
    draft.addEvent settings placed.entry placed.position = draft.enrol settings placed := by
  have own : placed.id = draft.nextNodeId .event := by
    rw [Placement.id, place, Entry.nodeType, category]
    rfl
  have node : nodeOf (draft.nextNodeId .event) placed.entry
      (if placed.entry.name = "" then unnamedEvent else placed.entry.name)
      (placed.entry.nodeKind settings) placed.position = placed.node settings := by
    rw [Placement.node, own, Entry.nodeName, category]
  have kind : placed.entry.nodeKind settings = .event (placed.entry.timeFilter.getD [])
      (placed.entry.spawnTable.get? anyLocation).isSome
      ((placed.entry.spawnTable.get? anyLocation).getD settings.defaultGlobalSpawnChance) := by
    rw [Entry.nodeKind, category]
  have anywhere : placed.entry.isAnywhere = (placed.entry.spawnTable.get? anyLocation).isSome := by
    simp [Entry.isAnywhere, category]
  have declared : draft.declare (placed.node settings) = draft.addNode (placed.node settings) := by
    have nodeKind : (placed.node settings).kind = placed.entry.nodeKind settings := rfl
    rw [declare, nodeKind, kind]
  rw [enrol, anywhere, declared, addEvent, ← kind, node, own]

/-- What the pass over the characters and events does with one item. -/
def castStep (config : Config) (total : Nat) (pass : Pass) (item : Nat × Entry) : Pass :=
  let position := config.layout.gridPosition item.1 total
  match item.2.category with
  | .character =>
    ⟨pass.draft.addCharacter config.graph item.2 position,
      pass.made ++ [(pass.draft.nextNodeId .character, item.2)]⟩
  | .event => { pass with draft := pass.draft.addEvent config.graph item.2 position }
  | _ => pass

/-- Other items are passed over. -/
theorem foldl_castStep (config : Config) (total : Nat) (pass : Pass) (items : List (Nat × Entry)) :
    items.foldl (castStep config total) pass =
      (castItems items).foldl (castStep config total) pass := by
  rw [castItems, List.foldl_filter]
  congr 1
  funext pass item
  by_cases cast : item.2.IsCast
  · rw [if_pos (decide_eq_true cast)]
  · rw [if_neg fun chosen => cast (of_decide_eq_true chosen), castStep]
    split
    · rename_i category
      exact absurd (Or.inl category) cast
    · rename_i category
      exact absurd (Or.inr category) cast
    · rfl

/-- A character or an event is enrolled in its place, and a character is remembered. -/
theorem castStep_eq (config : Config) (total : Nat) (pass : Pass) {item : Nat × Entry}
    (cast : item.2.IsCast) (placed : Placement)
    (place : placed =
      ⟨pass.draft.nodes.length, config.layout.gridPosition item.1 total, item.2⟩) :
    castStep config total pass item =
      ⟨pass.draft.enrol config.graph placed, pass.made ++ castMembers [placed]⟩ := by
  subst place
  rcases cast with category | category
  · have own : pass.draft.nextNodeId .character = .numbered (.node item.2.nodeType)
        (pass.draft.nodes.length + 1) := by
      rw [nextNodeId, Entry.nodeType, category]
      rfl
    rw [← addCharacter_eq config.graph category rfl]
    simp [castStep, castMembers, category, own, Placement.member, Placement.id]
  · rw [← addEvent_eq config.graph category rfl]
    simp [castStep, castMembers, category]

/-- **The pass over the characters and events** enrols them one after another. -/
theorem castPass_eq (config : Config) (total : Nat) (draft : Draft) (items : List (Nat × Entry)) :
    castPass config total draft items =
      ⟨(placements config total draft.nodes.length (castItems items)).foldl (enrol config.graph)
          draft,
        castMembers (placements config total draft.nodes.length (castItems items))⟩ := by
  have cast : ∀ item ∈ castItems items, item.2.IsCast := by
    intro item member
    exact of_decide_eq_true (List.mem_filter.1 member).2
  change items.foldl (castStep config total) ⟨draft, []⟩ = _
  rw [foldl_castStep, ← List.nil_append (castMembers _)]
  generalize castItems items = chosen at cast
  generalize [] = made
  induction chosen generalizing draft made with
  | nil => simp [placements, castMembers]
  | cons item rest ih =>
    let placed : Placement :=
      ⟨draft.nodes.length, config.layout.gridPosition item.1 total, item.2⟩
    have isCast := cast item (List.mem_cons_self ..)
    have single : ¬ placed.entry.IsLocation := isCast.not_isLocation
    have length : (draft.enrol config.graph placed).nodes.length =
        draft.nodes.length + (placed.nodes config.graph).length := by
      rw [nodes_enrol, Placement.nodes, Placement.sublocations_of_not_isLocation _ _ single,
        List.length_append]
    have members : castMembers (placed :: placements config total
          (draft.nodes.length + (placed.nodes config.graph).length) rest) =
        castMembers [placed] ++ castMembers (placements config total
          (draft.nodes.length + (placed.nodes config.graph).length) rest) := by
      rw [castMembers, castMembers, castMembers, ← List.map_append, ← List.filter_append]
      rfl
    rw [List.foldl_cons, castStep_eq config total _ isCast placed rfl,
      ih _ (fun other member => cast other (List.mem_cons_of_mem _ member)), length, placements,
      List.foldl_cons, members, List.append_assoc]

end Draft

end StoryWorld
