import StoryWorld.Lore.Draft
import StoryWorld.Proofs.Graph.NumberedIds
import StoryWorld.Proofs.Table

/-!
# What words lead to

The tables of a draft are filled while its nodes are added. What they hold can be said without that
history: a word leads to the first node of its kind that declares it. `Draft.Indexed` says so of all
three tables, together with the numbers of the nodes and the parents of sublocations, and every
addition of a node keeps it (`Draft.Indexed.grow`).

A declaration is never taken back, so the tables only grow. The collisions that are found on the way
can therefore be read off the tables as they are in the end (`findings_claim`): they are the words
that lead to another node than the one that has them.
-/

set_option autoImplicit false

namespace StoryWorld

/-! ## Who declares a word -/

/-- Whether a node of a kind has a word among its keywords in lowercase. -/
def Node.declares (type : NodeType) (word : String) (node : Node) : Bool :=
  decide (node.type = type ∧ word ∈ node.keywords.map Text.lowercase)

/-- What the name of a node stands for, if it is a sublocation. -/
def Node.ref? (node : Node) : Option SublocationRef :=
  node.parent.map fun parent => ⟨node.id, parent, node.name⟩

/-- The first node of a kind that declares a word. -/
def declarer? (nodes : List Node) (type : NodeType) (word : String) : Option ElementId :=
  (nodes.find? (Node.declares type word)).map Node.id

/-- The first sublocation that has a name, in lowercase. -/
def sublocationNamed? (nodes : List Node) (word : String) : Option SublocationRef :=
  (nodes.filterMap Node.ref?).find? fun ref => decide (Text.lowercase ref.name = word)

theorem declarer?_append (nodes more : List Node) (type : NodeType) (word : String) :
    declarer? (nodes ++ more) type word =
      (declarer? nodes type word).or (declarer? more type word) := by
  rw [declarer?, List.find?_append, Option.map_or]
  rfl

theorem sublocationNamed?_append (nodes more : List Node) (word : String) :
    sublocationNamed? (nodes ++ more) word =
      (sublocationNamed? nodes word).or (sublocationNamed? more word) := by
  rw [sublocationNamed?, List.filterMap_append, List.find?_append]
  rfl

/-- A word leads to a node of the right kind that has it. -/
theorem declarer?_eq_some {nodes : List Node} {type : NodeType} {word : String} {id : ElementId}
    (found : declarer? nodes type word = some id) :
    ∃ node ∈ nodes, node.id = id ∧ node.type = type ∧ word ∈ node.keywords.map Text.lowercase := by
  obtain ⟨node, first, own⟩ := Option.map_eq_some_iff.1 found
  have declared : node.declares type word = true := List.find?_some first
  have declared := of_decide_eq_true declared
  exact ⟨node, List.mem_of_find?_eq_some first, own, declared.1, declared.2⟩

/-- A word that some node declares leads somewhere. -/
theorem declarer?_ne_none {nodes : List Node} {node : Node} {word : String} (member : node ∈ nodes)
    (declared : word ∈ node.keywords.map Text.lowercase) :
    declarer? nodes node.type word ≠ none := by
  intro absent
  have none := List.find?_eq_none.1 (Option.map_eq_none_iff.1 absent) node member
  exact none (decide_eq_true ⟨rfl, declared⟩)

/-- A name leads to a sublocation that has it. -/
theorem sublocationNamed?_eq_some {nodes : List Node} {word : String} {ref : SublocationRef}
    (found : sublocationNamed? nodes word = some ref) :
    ∃ node ∈ nodes, node.ref? = some ref ∧ Text.lowercase ref.name = word := by
  obtain ⟨node, member, own⟩ := List.mem_filterMap.1 (List.mem_of_find?_eq_some found)
  exact ⟨node, member, own, by simpa using List.find?_some found⟩

/-- The name of a sublocation leads somewhere. -/
theorem sublocationNamed?_ne_none {nodes : List Node} {node : Node} {ref : SublocationRef}
    (member : node ∈ nodes) (own : node.ref? = some ref) :
    sublocationNamed? nodes (Text.lowercase ref.name) ≠ none := by
  intro absent
  have none := List.find?_eq_none.1 absent ref (List.mem_filterMap.2 ⟨node, member, own⟩)
  exact none (decide_eq_true rfl)

theorem Node.kind_of_ref? {node : Node} {ref : SublocationRef} (own : node.ref? = some ref) :
    ∃ parent, node.kind = .sublocation parent ∧ ref = ⟨node.id, parent, node.name⟩ := by
  obtain ⟨parent, placed, rfl⟩ := Option.map_eq_some_iff.1 own
  unfold Node.parent at placed
  split at placed
  · rename_i kind
    cases placed
    exact ⟨parent, kind, rfl⟩
  · cases placed

theorem Node.ref?_eq_some {node : Node} {ref : SublocationRef} (own : node.ref? = some ref) :
    node.parent = some ref.parent ∧ ref.id = node.id ∧ ref.name = node.name := by
  obtain ⟨parent, placed, rfl⟩ := Option.map_eq_some_iff.1 own
  exact ⟨placed, rfl, rfl⟩

namespace Draft

/-! ## Declaring keywords -/

/-- The collisions of keywords of a node: those that lead to another node. -/
def keywordCollisions (scope : NodeType) (names : Table String ElementId) (id : ElementId)
    (keywords : List String) : List Finding :=
  keywords.filterMap fun keyword =>
    match names.get? (Text.lowercase keyword) with
    | some kept => if kept = id then none else some (.keywordCollision scope keyword kept id)
    | none => none

section Claims

variable {scope : NodeType} {id : ElementId}

/-- Words that are declared lead where they did, and otherwise to the node that declares them. -/
theorem get?_claim (names : Table String ElementId) (keywords : List String) (word : String) :
    (claim scope id names keywords).1.get? word =
      (names.get? word).or
        (if word ∈ keywords.map Text.lowercase then some id else none) := by
  induction keywords generalizing names with
  | nil => simp [claim]
  | cons keyword rest ih =>
    unfold claim
    cases found : names.get? (Text.lowercase keyword) with
    | none =>
      simp only
      rw [ih, Table.get?_insertNew_eq_or, Option.or_assoc]
      by_cases here : word = Text.lowercase keyword
      · simp [here]
      · simp [here]
    | some kept =>
      simp only
      rw [ih]
      by_cases here : word = Text.lowercase keyword
      · simp [here, found]
      · simp [here]

theorem extends_claim (names : Table String ElementId) (keywords : List String) :
    (claim scope id names keywords).1.Extends names :=
  Table.extends_of_get?_eq_or (get?_claim names keywords)

/-- The collisions found while declaring can be read off any later table. -/
theorem findings_claim {names last : Table String ElementId} {keywords : List String}
    (later : last.Extends (claim scope id names keywords).1) :
    (claim scope id names keywords).2 = keywordCollisions scope last id keywords := by
  induction keywords generalizing names with
  | nil => rfl
  | cons keyword rest ih =>
    unfold claim at later ⊢
    cases found : names.get? (Text.lowercase keyword) with
    | none =>
      rw [found] at later
      have mine : last.get? (Text.lowercase keyword) = some id := by
        refine later _ _ ?_
        rw [get?_claim, Table.get?_insertNew_eq_or, found]
        simp
      simp only
      rw [ih later, keywordCollisions, keywordCollisions, List.filterMap_cons]
      simp [mine]
    | some kept =>
      rw [found] at later
      have theirs : last.get? (Text.lowercase keyword) = some kept :=
        later _ _ (extends_claim names rest _ _ found)
      simp only
      rw [ih later, keywordCollisions, keywordCollisions, List.filterMap_cons]
      by_cases same : kept = id
      · simp [theirs, same]
      · simp [theirs, same]

end Claims

/-! ## Drafts whose tables agree with their nodes -/

/-- The nodes of a draft are numbered in order, sublocations come after their location, and words
lead to the first node that declares them. -/
structure Indexed (draft : Draft) : Prop where
  numbered : ∀ (i : Nat) (node : Node), draft.nodes[i]? = some node →
    node.id = .numbered (.node node.type) (i + 1)
  parents : ∀ node ∈ draft.nodes, ∀ parent, node.parent = some parent →
    ∃ location ∈ draft.nodes, location.id = parent ∧ location.type = .location
  locations : ∀ word, draft.locations.get? word = declarer? draft.nodes .location word
  characters : ∀ word, draft.characters.get? word = declarer? draft.nodes .character word
  sublocations : ∀ word, draft.sublocations.get? word = sublocationNamed? draft.nodes word

theorem Indexed.start (findings : List Finding) : (start findings).Indexed where
  numbered := fun i node found => by cases found
  parents := fun node member => by cases member
  locations := fun _ => rfl
  characters := fun _ => rfl
  sublocations := fun _ => rfl

/-- One more node with its declarations keeps a draft in order. -/
theorem Indexed.grow {draft after : Draft} {node : Node} (indexed : draft.Indexed)
    (nodes : after.nodes = draft.nodes ++ [node]) (own : node.id = draft.nextNodeId node.type)
    (placed : ∀ parent, node.parent = some parent →
      ∃ location ∈ draft.nodes, location.id = parent ∧ location.type = .location)
    (locations : ∀ word, after.locations.get? word =
      (draft.locations.get? word).or (declarer? [node] .location word))
    (characters : ∀ word, after.characters.get? word =
      (draft.characters.get? word).or (declarer? [node] .character word))
    (sublocations : ∀ word, after.sublocations.get? word =
      (draft.sublocations.get? word).or (sublocationNamed? [node] word)) :
    after.Indexed where
  numbered := by
    intro i other found
    rw [nodes] at found
    rcases Nat.lt_trichotomy i draft.nodes.length with before | rfl | beyond
    · rw [List.getElem?_append_left before] at found
      exact indexed.numbered i other found
    · rw [List.getElem?_concat_length] at found
      cases found
      exact own
    · rw [List.getElem?_eq_none (by simp; omega)] at found
      cases found
  parents := by
    intro other member parent isPlaced
    rw [nodes] at member ⊢
    have earlier : ∃ location ∈ draft.nodes, location.id = parent ∧ location.type = .location := by
      rcases List.mem_append.1 member with before | last
      · exact indexed.parents other before parent isPlaced
      · rw [List.mem_singleton.1 last] at isPlaced
        exact placed parent isPlaced
    obtain ⟨location, inside, found⟩ := earlier
    exact ⟨location, List.mem_append_left _ inside, found⟩
  locations := fun word => by
    rw [locations, indexed.locations, nodes, declarer?_append]
  characters := fun word => by
    rw [characters, indexed.characters, nodes, declarer?_append]
  sublocations := fun word => by
    rw [sublocations, indexed.sublocations, nodes, sublocationNamed?_append]

/-! ## Adding a node with what it declares -/

/-- Adds a node and declares its keywords, if it is a location or a character, or its name, if it is
a sublocation. -/
def declare (draft : Draft) (node : Node) : Draft :=
  match node.kind with
  | .location =>
    let (locations, findings) := claim .location node.id draft.locations node.keywords
    ({ draft.addNode node with locations := locations }).report findings
  | .character _ =>
    let (characters, findings) := claim .character node.id draft.characters node.keywords
    ({ draft.addNode node with characters := characters }).report findings
  | .event .. => draft.addNode node
  | .sublocation parent =>
    match draft.sublocations.get? (Text.lowercase node.name) with
    | none =>
      { draft.addNode node with
        sublocations :=
          draft.sublocations.insertNew (Text.lowercase node.name) ⟨node.id, parent, node.name⟩ }
    | some kept => (draft.addNode node).report [.sublocationCollision node.name kept.id node.id]

/-- The collisions of a node: the words it has that lead to another node. -/
def collisionsOf (last : Draft) (node : Node) : List Finding :=
  match node.kind with
  | .location => keywordCollisions .location last.locations node.id node.keywords
  | .character _ => keywordCollisions .character last.characters node.id node.keywords
  | .event .. => []
  | .sublocation _ =>
    match last.sublocations.get? (Text.lowercase node.name) with
    | some kept =>
      if kept.id = node.id then [] else [.sublocationCollision node.name kept.id node.id]
    | none => []

/-- All that was declared in an earlier draft still leads where it did. -/
structure Keeps (last draft : Draft) : Prop where
  locations : last.locations.Extends draft.locations
  characters : last.characters.Extends draft.characters
  sublocations : last.sublocations.Extends draft.sublocations

theorem Keeps.refl (draft : Draft) : draft.Keeps draft :=
  ⟨.refl _, .refl _, .refl _⟩

theorem Keeps.trans {last middle draft : Draft} (later : last.Keeps middle)
    (sooner : middle.Keeps draft) : last.Keeps draft :=
  ⟨later.locations.trans sooner.locations, later.characters.trans sooner.characters,
    later.sublocations.trans sooner.sublocations⟩

section Declare

variable (draft : Draft) (node : Node)

@[simp] theorem nodes_declare : (draft.declare node).nodes = draft.nodes ++ [node] := by
  unfold declare
  split
  · rfl
  · rfl
  · rfl
  · split <;> rfl

@[simp] theorem edges_declare : (draft.declare node).edges = draft.edges := by
  unfold declare
  split
  · rfl
  · rfl
  · rfl
  · split <;> rfl

theorem nodes_foldl_declare (nodes : List Node) :
    (nodes.foldl declare draft).nodes = draft.nodes ++ nodes := by
  induction nodes generalizing draft with
  | nil => simp
  | cons node rest ih =>
    rw [List.foldl_cons, ih, nodes_declare, List.append_assoc, List.singleton_append]

/-- Only locations declare words among locations. -/
theorem locations_declare_of_ne (other : node.type ≠ .location) :
    (draft.declare node).locations = draft.locations := by
  unfold declare
  split
  · rename_i kind
    exact absurd (congrArg NodeKind.type kind) other
  · rfl
  · rfl
  · split <;> rfl

/-- Only characters declare words among characters. -/
theorem characters_declare_of_ne (other : node.type ≠ .character) :
    (draft.declare node).characters = draft.characters := by
  unfold declare
  split
  · rfl
  · rename_i kind
    exact absurd (congrArg NodeKind.type kind) other
  · rfl
  · split <;> rfl

/-- Only sublocations declare their names. -/
theorem sublocations_declare_of_none (other : node.ref? = none) :
    (draft.declare node).sublocations = draft.sublocations := by
  unfold declare
  split
  · rfl
  · rfl
  · rfl
  · rename_i parent kind
    simp [Node.ref?, Node.parent, kind] at other

theorem declarer?_singleton (type : NodeType) (word : String) :
    declarer? [node] type word =
      if node.type = type ∧ word ∈ node.keywords.map Text.lowercase then some node.id
      else none := by
  by_cases known : node.type = type ∧ word ∈ node.keywords.map Text.lowercase <;>
    simp [declarer?, Node.declares, known]

theorem sublocationNamed?_singleton (word : String) :
    sublocationNamed? [node] word =
      node.ref?.filter fun ref => decide (Text.lowercase ref.name = word) := by
  cases own : node.ref? with
  | none => simp [sublocationNamed?, own]
  | some ref =>
    by_cases named : Text.lowercase ref.name = word <;>
      simp [sublocationNamed?, own, named, Option.filter]

theorem get?_locations_declare (word : String) :
    (draft.declare node).locations.get? word =
      (draft.locations.get? word).or (declarer? [node] .location word) := by
  rw [declarer?_singleton]
  by_cases typed : node.type = .location
  · have kind : node.kind = .location := by
      cases kind : node.kind <;> simp [Node.type, kind, NodeKind.type] at typed ⊢
    simp only [declare, kind, report, get?_claim, typed, true_and]
  · simp [locations_declare_of_ne draft node typed, typed]

theorem get?_characters_declare (word : String) :
    (draft.declare node).characters.get? word =
      (draft.characters.get? word).or (declarer? [node] .character word) := by
  rw [declarer?_singleton]
  by_cases typed : node.type = .character
  · obtain ⟨disabledFor, kind⟩ : ∃ disabledFor, node.kind = .character disabledFor := by
      cases kind : node.kind <;> simp [Node.type, kind, NodeKind.type] at typed ⊢
    simp only [declare, kind, report, get?_claim, typed, true_and]
  · simp [characters_declare_of_ne draft node typed, typed]

theorem get?_sublocations_declare (word : String) :
    (draft.declare node).sublocations.get? word =
      (draft.sublocations.get? word).or (sublocationNamed? [node] word) := by
  rw [sublocationNamed?_singleton]
  cases own : node.ref? with
  | none => simp [sublocations_declare_of_none draft node own]
  | some ref =>
    obtain ⟨parent, kind, rfl⟩ := Node.kind_of_ref? own
    have here : (draft.declare node).sublocations.get? word = (draft.sublocations.insertNew
        (Text.lowercase node.name) ⟨node.id, parent, node.name⟩).get? word := by
      simp only [declare, kind]
      split
      · rfl
      · rename_i kept found
        have bound := Table.mem_keys_iff.2 ⟨kept, found⟩
        rw [Table.insertNew, dif_pos bound]
        rfl
    rw [here, Table.get?_insertNew_eq_or]
    by_cases same : word = Text.lowercase node.name
    · simp [same, Option.filter]
    · have differ : ¬ Text.lowercase node.name = word := fun back => same back.symm
      simp [same, differ, Option.filter]

/-- What has been declared stays. -/
theorem keeps_declare : (draft.declare node).Keeps draft where
  locations := Table.extends_of_get?_eq_or (get?_locations_declare draft node)
  characters := Table.extends_of_get?_eq_or (get?_characters_declare draft node)
  sublocations := Table.extends_of_get?_eq_or (get?_sublocations_declare draft node)

end Declare

section InOrder

variable {draft : Draft} (indexed : draft.Indexed)

include indexed

/-- The next number is not in use. -/
theorem Indexed.fresh (type : NodeType) :
    ∀ node ∈ draft.nodes, node.id ≠ draft.nextNodeId type := by
  intro node member same
  obtain ⟨i, inside, rfl⟩ := List.getElem_of_mem member
  rw [indexed.numbered i _ (List.getElem?_eq_getElem inside)] at same
  have number := (ElementId.numbered_inj same).2
  omega

theorem Indexed.nodup : (draft.nodes.map Node.id).Nodup := by
  refine List.pairwise_iff_getElem.2 fun i j inside insideToo before same => ?_
  simp only [List.length_map] at inside insideToo
  simp only [List.getElem_map] at same
  rw [indexed.numbered i _ (List.getElem?_eq_getElem inside),
    indexed.numbered j _ (List.getElem?_eq_getElem insideToo)] at same
  have number := (ElementId.numbered_inj same).2
  omega

/-- A numbered node keeps a draft in order when it is added with its declarations. -/
theorem Indexed.declare {node : Node} (own : node.id = draft.nextNodeId node.type)
    (placed : ∀ parent, node.parent = some parent →
      ∃ location ∈ draft.nodes, location.id = parent ∧ location.type = .location) :
    (draft.declare node).Indexed :=
  indexed.grow (nodes_declare draft node) own placed (get?_locations_declare draft node)
    (get?_characters_declare draft node) (get?_sublocations_declare draft node)

/-- The collisions found while a node is added can be read off any later draft. -/
theorem Indexed.findings_declare {node : Node} (own : node.id = draft.nextNodeId node.type)
    {last : Draft} (later : last.Keeps (draft.declare node)) :
    (draft.declare node).findings = draft.findings ++ last.collisionsOf node := by
  cases kind : node.kind with
  | location =>
    have claimed := later.locations
    simp only [Draft.declare, kind, report] at claimed
    simp only [Draft.declare, collisionsOf, kind, report, addNode, findings_claim claimed]
  | character disabledFor =>
    have claimed := later.characters
    simp only [Draft.declare, kind, report] at claimed
    simp only [Draft.declare, collisionsOf, kind, report, addNode, findings_claim claimed]
  | event timeFilter isGlobal chance =>
    simp only [Draft.declare, collisionsOf, kind, addNode, List.append_nil]
  | sublocation parent =>
    have declared := get?_sublocations_declare draft node (Text.lowercase node.name)
    have mine : sublocationNamed? [node] (Text.lowercase node.name) =
        some ⟨node.id, parent, node.name⟩ := by
      rw [sublocationNamed?_singleton]
      simp [Node.ref?, Node.parent, kind, Option.filter]
    rw [mine] at declared
    cases found : draft.sublocations.get? (Text.lowercase node.name) with
    | none =>
      rw [found, Option.none_or] at declared
      have known := later.sublocations _ _ declared
      simp [Draft.declare, collisionsOf, kind, found, known, addNode]
    | some kept =>
      rw [found, Option.some_or] at declared
      have known := later.sublocations _ _ declared
      rw [indexed.sublocations] at found
      obtain ⟨other, member, ref, -⟩ := sublocationNamed?_eq_some found
      have differ : kept.id ≠ node.id := by
        rw [(Node.ref?_eq_some ref).2.1, own]
        exact indexed.fresh _ other member
      rw [← indexed.sublocations] at found
      simp [Draft.declare, collisionsOf, kind, found, known, differ, addNode, report]

end InOrder

end Draft

end StoryWorld
