import StoryWorld.Proofs.FirstItems
import StoryWorld.Proofs.Store.Atomicity

/-!
# Patches drop nothing and compose

Whether a patch applies to an element and what it writes there are decided in two places, and the
one that writes passes over fields that are not there. The two agree: a patch that applies sets no
field that is passed over. This is said field by field. An element and a patch both hold values for
fields, the patch only for some, and an applied patch writes its values over those of the element
(`Overwrites`). A patch that does not apply is refused for the first field, in the order in which
they are looked at, that it sets and the element does not carry (`Offends`).

An element is determined by its identity, its kind and the values of its fields
(`Node.ext_value?`, `Edge.ext_value?`). As writing twice is writing once what was written last, one
patch after another is one patch with the fields of both (`NodePatch.apply_apply`,
`EdgePatch.apply_apply`).
-/

set_option autoImplicit false

namespace StoryWorld

/-! ## Values of fields -/

section Values

variable {φ : Type} {Value : φ → Type}

/-- Values written over those of before leave the others as they are. -/
def Overwrites (set before after : (field : φ) → Option (Value field)) : Prop :=
  ∀ field, after field = (set field).or (before field)

/-- A field that is set but not carried. -/
def Offends (set : (field : φ) → Option (Value field)) (carried : List φ) (field : φ) : Prop :=
  (set field).isSome = true ∧ field ∉ carried

/-- Fields are set on an element that carries certain fields. If it carries all that are set, there
is a patched element, and otherwise a refusal of the first one, in a given order, that it does not
carry. -/
structure AppliesExactly {ε : Type} (set : (field : φ) → Option (Value field))
    (carried order : List φ) (outcome : Except Refusal ε) (Patched : ε → Prop)
    (refusal : φ → Refusal) : Prop where
  succeeds : (∃ after, outcome = .ok after) ↔
    ∀ field, (set field).isSome = true → field ∈ carried
  patched : ∀ after, outcome = .ok after → Patched after
  refused : ∀ why, outcome = .error why →
    ∃ field, FirstWith (Offends set carried) order field ∧ why = refusal field

variable {set more before middle after : (field : φ) → Option (Value field)} {carried : List φ}

/-- Writing twice is writing once what was written last. -/
theorem Overwrites.trans (sooner : Overwrites set before middle)
    (later : Overwrites more middle after) :
    Overwrites (fun field => (more field).or (set field)) before after := by
  intro field
  rw [later, sooner, Option.or_assoc]

/-- What comes of writing is determined by what is written and what was there. -/
theorem Overwrites.unique {other : (field : φ) → Option (Value field)}
    (one : Overwrites set before after) (two : Overwrites set before other) : after = other :=
  funext fun field => (one field).trans (two field).symm

theorem forall_not_offends_iff :
    (∀ field, ¬ Offends set carried field) ↔
      ∀ field, (set field).isSome = true → field ∈ carried := by
  simp only [Offends, not_and, not_not]

/-- It is enough to look for an offending field among all of them. -/
theorem AppliesExactly.of_find? {ε : Type} {order : List φ} {outcome : Except Refusal ε}
    {result : ε} {Patched : ε → Prop} {refusal : φ → Refusal} {test : φ → Bool}
    (offends : ∀ field, test field = true ↔ Offends set carried field)
    (listed : ∀ field, field ∈ order)
    (refused : ∀ field, order.find? test = some field → outcome = .error (refusal field))
    (applied : order.find? test = none → outcome = .ok result)
    (patched : (∀ field, ¬ Offends set carried field) → Patched result) :
    AppliesExactly set carried order outcome Patched refusal := by
  have none_iff : order.find? test = none ↔ ∀ field, ¬ Offends set carried field := by
    simp only [List.find?_eq_none, offends, listed, true_implies]
  cases found : order.find? test with
  | none =>
    have clear := none_iff.1 found
    rw [applied found]
    refine ⟨⟨fun _ => forall_not_offends_iff.1 clear, fun _ => ⟨result, rfl⟩⟩, ?_, nofun⟩
    intro after same
    cases same
    exact patched clear
  | some field =>
    rw [refused field found]
    refine ⟨⟨nofun, fun all => ?_⟩, nofun, ?_⟩
    · rw [none_iff.2 (forall_not_offends_iff.2 all)] at found
      cases found
    · intro why same
      cases same
      exact ⟨field, (find?_eq_some_iff_firstWith offends).1 found, rfl⟩

/-- Two patches one after the other are one patch that sets what either sets, if an element keeps
the fields that it carries and what comes of a patch is determined by it. -/
theorem AppliesExactly.chain {ε : Type} {order : List φ} {carries : ε → List φ}
    {first second both : ε → Except Refusal ε} {Once Again Both : ε → ε → Prop}
    {refusal : ε → φ → Refusal}
    (once : ∀ element, AppliesExactly set (carries element) order (first element) (Once element)
      (refusal element))
    (again : ∀ element, AppliesExactly more (carries element) order (second element)
      (Again element) (refusal element))
    (whole : ∀ element, AppliesExactly (fun field => (more field).or (set field))
      (carries element) order (both element) (Both element) (refusal element))
    (keeps : ∀ element middle, Once element middle → carries middle = carries element)
    (trans : ∀ element middle after, Once element middle → Again middle after →
      Both element after)
    (unique : ∀ element one other, Both element one → Both element other → one = other)
    (element after : ε) :
    (first element >>= second) = .ok after ↔ both element = .ok after := by
  have either : (∀ field, ((more field).or (set field)).isSome = true → field ∈ carries element) ↔
      (∀ field, (set field).isSome = true → field ∈ carries element) ∧
        ∀ field, (more field).isSome = true → field ∈ carries element := by
    simp only [Option.isSome_or, Bool.or_eq_true, or_imp, forall_and, and_comm]
  rw [bind_eq_ok_iff]
  constructor
  · rintro ⟨middle, sooner, later⟩
    have patched := (once element).patched middle sooner
    have setCarried := (once element).succeeds.1 ⟨middle, sooner⟩
    have moreCarried := (again middle).succeeds.1 ⟨after, later⟩
    rw [keeps element middle patched] at moreCarried
    obtain ⟨result, applied⟩ := (whole element).succeeds.2 (either.2 ⟨setCarried, moreCarried⟩)
    have same := unique element result after ((whole element).patched result applied)
      (trans element middle after patched ((again middle).patched after later))
    rw [applied, same]
  · intro applied
    obtain ⟨setCarried, moreCarried⟩ := either.1 ((whole element).succeeds.1 ⟨after, applied⟩)
    obtain ⟨middle, sooner⟩ := (once element).succeeds.2 setCarried
    have patched := (once element).patched middle sooner
    rw [← keeps element middle patched] at moreCarried
    obtain ⟨result, later⟩ := (again middle).succeeds.2 moreCarried
    have same := unique element result after
      (trans element middle result patched ((again middle).patched result later))
      ((whole element).patched after applied)
    exact ⟨middle, sooner, later.trans (congrArg Except.ok same)⟩

end Values

/-! ## Which fields are carried -/

/-- The fields that all nodes carry. -/
def NodeField.shared : List NodeField := [.name, .images, .position]

/-- The fields that a location carries. -/
def NodeField.ofLocation : List NodeField :=
  shared ++ [.keywords, .content, .filters, .contentShort]

/-- The fields that nodes of a kind carry. -/
def NodeType.fields : NodeType → List NodeField
  | .sublocation => NodeField.shared
  | .location => NodeField.ofLocation
  | .character => NodeField.ofLocation ++ [.disabledFor]
  | .event =>
    NodeField.ofLocation.erase .contentShort ++ [.timeFilter, .isGlobal, .globalSpawnChance]

/-- The fields that edges of a kind carry. -/
def EdgeType.fields : EdgeType → List EdgeField
  | .spawn => [.probability, .sublocationProbabilities]
  | .adjacent => []
  | .knows => [.relationship, .sourceThinks, .targetThinks]

/-- What a field of a node holds. -/
abbrev NodeField.Value : NodeField → Type
  | .name | .content | .contentShort => String
  | .keywords | .disabledFor | .timeFilter => List String
  | .images => Images
  | .filters => Filters
  | .position => Position
  | .isGlobal => Bool
  | .globalSpawnChance => Float

/-- What a field of an edge holds. -/
abbrev EdgeField.Value : EdgeField → Type
  | .probability => Float
  | .sublocationProbabilities => Table String Float
  | .relationship | .sourceThinks | .targetThinks => String

theorem NodeType.carries_iff {type : NodeType} {field : NodeField} :
    type.carries field = true ↔ field ∈ type.fields := by
  cases type <;> cases field <;> decide

theorem EdgeType.carries_iff {type : EdgeType} {field : EdgeField} :
    type.carries field = true ↔ field ∈ type.fields := by
  cases type <;> cases field <;> decide

/-! ## Nodes -/

/-- The value of a field of a node, if the node has it. -/
def Node.value? (node : Node) : (field : NodeField) → Option field.Value
  | .name => some node.name
  | .keywords => some node.keywords
  | .content => some node.content
  | .contentShort => node.contentShort
  | .images => some node.images
  | .filters => some node.filters
  | .position => some node.position
  | .disabledFor =>
    match node.kind with
    | .character disabledFor => some disabledFor
    | _ => none
  | .timeFilter =>
    match node.kind with
    | .event timeFilter _ _ => some timeFilter
    | _ => none
  | .isGlobal =>
    match node.kind with
    | .event _ isGlobal _ => some isGlobal
    | _ => none
  | .globalSpawnChance =>
    match node.kind with
    | .event _ _ globalSpawnChance => some globalSpawnChance
    | _ => none

/-- A node is determined by its identity, its kind and parent, and the values of its fields. -/
theorem Node.ext_value? {node other : Node} (id : node.id = other.id)
    (type : node.type = other.type) (parent : node.parent = other.parent)
    (values : node.value? = other.value?) : node = other := by
  have each (field : NodeField) := congrFun values field
  have name := each .name
  have keywords := each .keywords
  have content := each .content
  have contentShort := each .contentShort
  have images := each .images
  have filters := each .filters
  have position := each .position
  have disabledFor := each .disabledFor
  have timeFilter := each .timeFilter
  have isGlobal := each .isGlobal
  have chance := each .globalSpawnChance
  obtain ⟨_, _, _, _, _, _, _, _, kind⟩ := node
  obtain ⟨_, _, _, _, _, _, _, _, otherKind⟩ := other
  cases kind <;> cases otherKind <;> cases type <;>
    simp_all [value?, Node.parent]

namespace NodePatch

/-- The new value of a field, if the patch sets it. -/
def value? (patch : NodePatch) : (field : NodeField) → Option field.Value
  | .name => patch.name
  | .keywords => patch.keywords
  | .content => patch.content
  | .contentShort => patch.contentShort
  | .images => patch.images
  | .filters => patch.filters
  | .position => patch.position
  | .disabledFor => patch.disabledFor
  | .timeFilter => patch.timeFilter
  | .isGlobal => patch.isGlobal
  | .globalSpawnChance => patch.globalSpawnChance

/-- The patch that sets what one of two sets, the fields of the second over those of the first. -/
def followedBy (first second : NodePatch) : NodePatch where
  name := second.name.or first.name
  keywords := second.keywords.or first.keywords
  content := second.content.or first.content
  contentShort := second.contentShort.or first.contentShort
  images := second.images.or first.images
  filters := second.filters.or first.filters
  position := second.position.or first.position
  disabledFor := second.disabledFor.or first.disabledFor
  timeFilter := second.timeFilter.or first.timeFilter
  isGlobal := second.isGlobal.or first.isGlobal
  globalSpawnChance := second.globalSpawnChance.or first.globalSpawnChance

/-- A node after the patch has been applied to it. -/
structure Patched (patch : NodePatch) (node after : Node) : Prop where
  id : after.id = node.id
  type : after.type = node.type
  parent : after.parent = node.parent
  values : Overwrites patch.value? node.value? after.value?

theorem Patched.unique {patch : NodePatch} {node after other : Node} (one : patch.Patched node after)
    (two : patch.Patched node other) : after = other :=
  Node.ext_value? (one.id.trans two.id.symm) (one.type.trans two.type.symm)
    (one.parent.trans two.parent.symm) (one.values.unique two.values)

theorem value?_followedBy (first second : NodePatch) :
    (first.followedBy second).value? = fun field => (second.value? field).or (first.value? field) :=
  funext fun field => by cases field <;> rfl

section Apply

variable (patch : NodePatch) {type : NodeType}

theorem offends_iff (field : NodeField) :
    (patch.sets field && !type.carries field) = true ↔ Offends patch.value? type.fields field := by
  have sets : patch.sets field = (patch.value? field).isSome := by cases field <;> rfl
  rw [Bool.and_eq_true, Bool.not_eq_true', ← Bool.not_eq_true, NodeType.carries_iff, sets, Offends]

theorem mem_checkOrder (field : NodeField) : field ∈ checkOrder := by
  cases field <;> decide

/-- A field that is not set is left as it is. -/
theorem value?_onNode_of_none {node : Node} {field : NodeField}
    (unset : patch.value? field = none) :
    (patch.onNode node).value? field = node.value? field := by
  obtain ⟨_, _, _, _, _, _, _, _, kind⟩ := node
  cases kind <;> cases field <;> simp_all [onNode, onKind, Node.value?, value?]

/-- A field that is carried is written. -/
theorem value?_onNode_of_carried {node : Node} {field : NodeField}
    (carried : field ∈ node.type.fields) :
    (patch.onNode node).value? field = (patch.value? field).or (node.value? field) := by
  obtain ⟨_, _, _, _, _, _, _, _, kind⟩ := node
  cases kind <;> cases field <;>
    simp_all [onNode, onKind, Node.value?, value?, Node.type, NodeKind.type, NodeType.fields,
      NodeField.ofLocation, NodeField.shared]

/-- Where no field offends, every field that is set is written. -/
theorem patched_onNode {node : Node}
    (clear : ∀ field, ¬ Offends patch.value? node.type.fields field) :
    patch.Patched node (patch.onNode node) where
  id := rfl
  type := patch.type_onNode node
  parent := patch.parent_onNode node
  values := by
    intro field
    cases given : patch.value? field with
    | none => rw [patch.value?_onNode_of_none given, Option.none_or]
    | some value =>
      have carried := forall_not_offends_iff.1 clear field (by rw [given]; rfl)
      rw [patch.value?_onNode_of_carried carried, given]

/-- A patch is applied to a node exactly. -/
theorem appliesExactly (node : Node) :
    AppliesExactly patch.value? node.type.fields checkOrder (patch.apply node)
      (patch.Patched node) (.inapplicableField node.id node.type) :=
  .of_find? patch.offends_iff mem_checkOrder
    (fun field found => by rw [apply, offending?, found])
    (fun found => by rw [apply, offending?, found]) patch.patched_onNode

end Apply

theorem Patched.followedBy {first second : NodePatch} {node middle after : Node}
    (sooner : first.Patched node middle) (later : second.Patched middle after) :
    (first.followedBy second).Patched node after where
  id := later.id.trans sooner.id
  type := later.type.trans sooner.type
  parent := later.parent.trans sooner.parent
  values := by
    rw [value?_followedBy]
    exact sooner.values.trans later.values

/-- One patch after another is one patch with the fields of both. -/
theorem apply_apply (first second : NodePatch) (node after : Node) :
    (first.apply node >>= second.apply) = .ok after ↔
      (first.followedBy second).apply node = .ok after := by
  refine AppliesExactly.chain first.appliesExactly second.appliesExactly ?_
    (fun _ _ patched => congrArg NodeType.fields patched.type)
    (fun _ _ _ => Patched.followedBy) (fun _ _ _ => Patched.unique) node after
  rw [← value?_followedBy]
  exact (first.followedBy second).appliesExactly

end NodePatch

/-! ## Edges -/

/-- The value of a field of an edge, if the edge has it. -/
def Edge.value? (edge : Edge) : (field : EdgeField) → Option field.Value
  | .probability =>
    match edge.kind with
    | .spawn probability _ => some probability
    | _ => none
  | .sublocationProbabilities =>
    match edge.kind with
    | .spawn _ overrides => some overrides
    | _ => none
  | .relationship =>
    match edge.kind with
    | .knows relationship _ _ => some relationship
    | _ => none
  | .sourceThinks =>
    match edge.kind with
    | .knows _ sourceThinks _ => some sourceThinks
    | _ => none
  | .targetThinks =>
    match edge.kind with
    | .knows _ _ targetThinks => some targetThinks
    | _ => none

/-- An edge is determined by its identity, its ends, its kind, and the values of its fields. -/
theorem Edge.ext_value? {edge other : Edge} (id : edge.id = other.id)
    (source : edge.source = other.source) (target : edge.target = other.target)
    (type : edge.type = other.type) (values : edge.value? = other.value?) : edge = other := by
  have each (field : EdgeField) := congrFun values field
  have probability := each .probability
  have overrides := each .sublocationProbabilities
  have relationship := each .relationship
  have sourceThinks := each .sourceThinks
  have targetThinks := each .targetThinks
  obtain ⟨_, _, _, kind⟩ := edge
  obtain ⟨_, _, _, otherKind⟩ := other
  cases kind <;> cases otherKind <;> cases type <;> simp_all [value?]

namespace EdgePatch

/-- The new value of a field, if the patch sets it. -/
def value? (patch : EdgePatch) : (field : EdgeField) → Option field.Value
  | .probability => patch.probability
  | .sublocationProbabilities => patch.sublocationProbabilities
  | .relationship => patch.relationship
  | .sourceThinks => patch.sourceThinks
  | .targetThinks => patch.targetThinks

/-- The patch that sets what one of two sets, the fields of the second over those of the first. -/
def followedBy (first second : EdgePatch) : EdgePatch where
  probability := second.probability.or first.probability
  sublocationProbabilities := second.sublocationProbabilities.or first.sublocationProbabilities
  relationship := second.relationship.or first.relationship
  sourceThinks := second.sourceThinks.or first.sourceThinks
  targetThinks := second.targetThinks.or first.targetThinks

/-- An edge after the patch has been applied to it. -/
structure Patched (patch : EdgePatch) (edge after : Edge) : Prop where
  id : after.id = edge.id
  source : after.source = edge.source
  target : after.target = edge.target
  type : after.type = edge.type
  values : Overwrites patch.value? edge.value? after.value?

theorem Patched.unique {patch : EdgePatch} {edge after other : Edge} (one : patch.Patched edge after)
    (two : patch.Patched edge other) : after = other :=
  Edge.ext_value? (one.id.trans two.id.symm) (one.source.trans two.source.symm)
    (one.target.trans two.target.symm) (one.type.trans two.type.symm)
    (one.values.unique two.values)

theorem value?_followedBy (first second : EdgePatch) :
    (first.followedBy second).value? = fun field => (second.value? field).or (first.value? field) :=
  funext fun field => by cases field <;> rfl

section Apply

variable (patch : EdgePatch) {type : EdgeType}

theorem offends_iff (field : EdgeField) :
    (patch.sets field && !type.carries field) = true ↔ Offends patch.value? type.fields field := by
  have sets : patch.sets field = (patch.value? field).isSome := by cases field <;> rfl
  rw [Bool.and_eq_true, Bool.not_eq_true', ← Bool.not_eq_true, EdgeType.carries_iff, sets, Offends]

theorem mem_checkOrder (field : EdgeField) : field ∈ checkOrder := by
  cases field <;> decide

/-- Edges have just the fields that they carry, and a field that they carry is written. -/
theorem value?_onEdge {edge : Edge} {field : EdgeField}
    (applies : (patch.value? field).isSome = true → field ∈ edge.type.fields) :
    (patch.onEdge edge).value? field = (patch.value? field).or (edge.value? field) := by
  obtain ⟨_, _, _, kind⟩ := edge
  cases kind <;> cases field <;>
    simp_all [onEdge, onKind, Edge.value?, value?, Edge.type, EdgeKind.type, EdgeType.fields]

/-- Where no field offends, every field that is set is written. -/
theorem patched_onEdge {edge : Edge}
    (clear : ∀ field, ¬ Offends patch.value? edge.type.fields field) :
    patch.Patched edge (patch.onEdge edge) where
  id := rfl
  source := rfl
  target := rfl
  type := patch.type_onEdge edge
  values := fun field => patch.value?_onEdge (forall_not_offends_iff.1 clear field)

/-- A patch is applied to an edge exactly. -/
theorem appliesExactly (edge : Edge) :
    AppliesExactly patch.value? edge.type.fields checkOrder (patch.apply edge)
      (patch.Patched edge) (.inapplicableEdgeField edge.id edge.type) :=
  .of_find? patch.offends_iff mem_checkOrder
    (fun field found => by rw [apply, offending?, found])
    (fun found => by rw [apply, offending?, found]) patch.patched_onEdge

end Apply

theorem Patched.followedBy {first second : EdgePatch} {edge middle after : Edge}
    (sooner : first.Patched edge middle) (later : second.Patched middle after) :
    (first.followedBy second).Patched edge after where
  id := later.id.trans sooner.id
  source := later.source.trans sooner.source
  target := later.target.trans sooner.target
  type := later.type.trans sooner.type
  values := by
    rw [value?_followedBy]
    exact sooner.values.trans later.values

/-- One patch after another is one patch with the fields of both. -/
theorem apply_apply (first second : EdgePatch) (edge after : Edge) :
    (first.apply edge >>= second.apply) = .ok after ↔
      (first.followedBy second).apply edge = .ok after := by
  refine AppliesExactly.chain first.appliesExactly second.appliesExactly ?_
    (fun _ _ patched => congrArg EdgeType.fields patched.type)
    (fun _ _ _ => Patched.followedBy) (fun _ _ _ => Patched.unique) edge after
  rw [← value?_followedBy]
  exact (first.followedBy second).appliesExactly

end EdgePatch

/-! ## Patches of stored elements -/

namespace Store

/-- A stored node is patched where it stands if the patch applies, and otherwise nothing is
changed. -/
theorem perform_patchNode (store : Store) (id : ElementId) (patch : NodePatch) :
    store.perform (.patchNode id patch) =
      match store.nodes.get? id with
      | some node => store.settle (patch.apply node) fun after =>
          ({ store with nodes := store.nodes.insert id after }, .done)
      | none => (store, .refused (store.missing id .node)) := by
  rw [perform_eq_step, step, patchNode]
  cases store.nodes.get? id with
  | none => rfl
  | some node =>
    dsimp only
    cases patch.apply node <;> rfl

/-- A stored edge is patched where it stands if the patch applies, and otherwise nothing is
changed. -/
theorem perform_patchEdge (store : Store) (id : ElementId) (patch : EdgePatch) :
    store.perform (.patchEdge id patch) =
      match store.edges.get? id with
      | some edge => store.settle (patch.apply edge) fun after =>
          ({ store with edges := store.edges.insert id after }, .done)
      | none => (store, .refused (store.missing id .edge)) := by
  rw [perform_eq_step, step, patchEdge]
  cases store.edges.get? id with
  | none => rfl
  | some edge =>
    dsimp only
    cases patch.apply edge <;> rfl

end Store

/-! ## The main statement -/

/-- **Patches drop no field and compose.** Every patch of a node or an edge is applied exactly; one
patch after another is one patch with the fields of both; and an element that is stored, where it is
written field after field, becomes what the patch makes of it, or is left as it is with all of the
store. -/
theorem patches_exact :
    ((∀ (patch : NodePatch) (node : Node),
        AppliesExactly patch.value? node.type.fields NodePatch.checkOrder (patch.apply node)
          (patch.Patched node) (.inapplicableField node.id node.type)) ∧
      (∀ (first second : NodePatch) (node after : Node),
        (first.apply node >>= second.apply) = .ok after ↔
          (first.followedBy second).apply node = .ok after) ∧
      ∀ (store : Store) (id : ElementId) (patch : NodePatch),
        store.perform (.patchNode id patch) =
          match store.nodes.get? id with
          | some node => store.settle (patch.apply node) fun after =>
              ({ store with nodes := store.nodes.insert id after }, .done)
          | none => (store, .refused (store.missing id .node))) ∧
    (∀ (patch : EdgePatch) (edge : Edge),
        AppliesExactly patch.value? edge.type.fields EdgePatch.checkOrder (patch.apply edge)
          (patch.Patched edge) (.inapplicableEdgeField edge.id edge.type)) ∧
      (∀ (first second : EdgePatch) (edge after : Edge),
        (first.apply edge >>= second.apply) = .ok after ↔
          (first.followedBy second).apply edge = .ok after) ∧
      ∀ (store : Store) (id : ElementId) (patch : EdgePatch),
        store.perform (.patchEdge id patch) =
          match store.edges.get? id with
          | some edge => store.settle (patch.apply edge) fun after =>
              ({ store with edges := store.edges.insert id after }, .done)
          | none => (store, .refused (store.missing id .edge)) :=
  ⟨⟨NodePatch.appliesExactly, NodePatch.apply_apply, Store.perform_patchNode⟩,
    EdgePatch.appliesExactly, EdgePatch.apply_apply, Store.perform_patchEdge⟩

/-- An event carries neither of two fields that are set: the one looked at first is named. -/
example :
    ({ name := some "Fair", disabledFor := some [], contentShort := some "A fair." } :
        NodePatch).apply (Node.blank ⟨"event_1"⟩ "Feast" (.event [] false 0)) =
      .error (.inapplicableField ⟨"event_1"⟩ .event .contentShort) := rfl

end StoryWorld
