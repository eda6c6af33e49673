import StoryWorld.Proofs.Store.Consistency

/-!
# Identities are given out once

A generation begins with a new store, with a store that has been cleared, or with a snapshot that
has been loaded, and lasts until the store is cleared or another snapshot is accepted. Within it no
identity is given out twice, and none that the snapshot brought along: not after the element has
been deleted, and whatever texts the identities of the snapshot are.

The reason is that the numbering only moves on. `Generation` says that it is past every identity
that was loaded or has been given out, whether or not something is stored under it still;
`Generation.step` shows that a step keeps this, and `Generation.run` that a run does. A scope whose
greatest ordinal is among those identities is spent, and nothing is allocated in it any more.

`issued_fresh` is the statement about all runs within a generation.
-/

set_option autoImplicit false

namespace StoryWorld

/-- The identity that a reply tells of when something has been added. -/
def Reply.added? : Reply → Option ElementId
  | .added id => some id
  | _ => none

theorem Reply.eq_added_of_added? {reply : Reply} {id : ElementId}
    (told : reply.added? = some id) : reply = .added id := by
  cases reply <;> cases told
  rfl

namespace Operation

/-- The scope that the new identity of an operation is taken from. -/
def scope? : Operation → Option IdScope
  | .addNode .. | .addSublocation .. => some .node
  | .addEdge .. | .connect .. | .requestEdge .. => some .edge
  | _ => none

/-- The operation does not begin another generation: it neither clears the store nor brings a
snapshot that is accepted. -/
def Continues : Operation → Prop
  | .clear => False
  | .load world => world.validate ≠ .ok ()
  | _ => True

end Operation

namespace Store

/-- The identities that a run gives out, in order. -/
def issued (store : Store) : List Operation → List ElementId
  | [] => []
  | operation :: rest =>
    (store.step operation).2.added?.toList ++ (store.step operation).1.issued rest

/-- A store at the beginning of a generation, with the identities that it begins with. -/
inductive Begins : Store → List ElementId → Prop where
  | new (settings : GraphSettings) : Begins (.empty settings) []
  | cleared (store : Store) : Begins store.clear []
  | loaded (store after : Store) (world : Snapshot) (accepted : store.load world = .ok after) :
      Begins after world.ids

/-- One element with a given identity stands at the end of one of the two tables; what was stored
stands before it as it was. -/
inductive Appended (before after : Store) (id : ElementId) : IdScope → Prop where
  | node (node : Node) (own : node.id = id)
      (nodes : after.nodes.entries = before.nodes.entries ++ [(id, node)])
      (edges : after.edges = before.edges) : Appended before after id .node
  | edge (edge : Edge) (own : edge.id = id)
      (edges : after.edges.entries = before.edges.entries ++ [(id, edge)])
      (nodes : after.nodes = before.nodes) : Appended before after id .edge

/-- An operation is refused because a scope is spent, or for a reason that has nothing to do with
the numbering. -/
def RefusesSpent (store : Store) (operation : Operation) (scope : IdScope) : Prop :=
  ∃ why, (store.step operation).2 = .refused why ∧
    (why = .idsExhausted scope ∨
      ∀ numbering,
        (({ store with numbering := numbering } : Store).step operation).2 = .refused why)

variable {store after : Store} {id : ElementId}

/-! ## What an addition does -/

/-- An addition takes a new identity and binds an element to it. -/
inductive Adds (store : Store) : Store → ElementId → IdScope → Prop where
  | node (type : NodeType) (id : ElementId) (numbering : Numbering) (node : Node)
      (allocated : store.numbering.allocate (.node type) = .ok (id, numbering))
      (own : node.id = id) :
      Adds store { store with nodes := store.nodes.insert id node, numbering := numbering } id .node
  | edge (id : ElementId) (numbering : Numbering) (edge : Edge)
      (allocated : store.numbering.allocate .edge = .ok (id, numbering)) (own : edge.id = id) :
      Adds store { store with edges := store.edges.insert id edge, numbering := numbering } id .edge

theorem addNode_adds {type : NodeType} {position : Option Position}
    (added : store.addNode type position = .ok (after, id)) : Adds store after id .node := by
  obtain ⟨kind, -, added⟩ := bind_eq_ok_iff.1 added
  obtain ⟨⟨fresh, numbering⟩, allocated, added⟩ := bind_eq_ok_iff.1 added
  cases pure_eq_ok_iff.1 added
  exact .node type id numbering _ allocated rfl

theorem addSublocation_adds {parent : ElementId} {name : String}
    (added : store.addSublocation parent name = .ok (after, id)) : Adds store after id .node := by
  obtain ⟨location, -, added⟩ := bind_eq_ok_iff.1 added
  by_cases typed : location.type = .location
  · rw [if_neg (not_not_intro typed)] at added
    obtain ⟨⟨fresh, numbering⟩, allocated, added⟩ := bind_eq_ok_iff.1 added
    cases pure_eq_ok_iff.1 added
    exact .node .sublocation id numbering _ allocated rfl
  · rw [if_pos typed] at added
    cases added

theorem addEdge_adds {source target : ElementId} {kind : EdgeKind}
    (added : store.addEdge source target kind = .ok (after, id)) : Adds store after id .edge := by
  obtain ⟨numbering, allocated, -, -, rfl⟩ := addEdge_eq_ok added
  exact .edge id numbering _ allocated rfl

theorem settle_added {attempt : Except Refusal (Store × ElementId)}
    (replied : (store.settle attempt fun result => (result.1, .added result.2)).2 = .added id) :
    attempt = .ok ((store.settle attempt fun result => (result.1, .added result.2)).1, id) := by
  cases attempt with
  | error why => cases replied
  | ok result =>
    cases replied
    rfl

/-- An operation that draws on no scope tells of no new identity. -/
theorem added?_eq_none_of_scope? {operation : Operation} (draws : operation.scope? = none) :
    (store.step operation).2.added? = none := by
  have settled {α : Type} (attempt : Except Refusal α) {accept : α → Store × Reply}
      (accepts : ∀ result, (accept result).2.added? = none) :
      (store.settle attempt accept).2.added? = none := by
    cases attempt with
    | error why => rfl
    | ok result => exact accepts result
  cases operation with
  | addNode | addSublocation | addEdge | connect | requestEdge => cases draws
  | clear | clearSelection => rfl
  | _ => exact settled _ fun _ => rfl

/-- An operation that tells of a new identity has added an element in the scope that it draws on. -/
theorem step_adds {operation : Operation} (replied : (store.step operation).2 = .added id) :
    ∃ scope, operation.scope? = some scope ∧ Adds store (store.step operation).1 id scope := by
  cases operation with
  | addNode type position => exact ⟨.node, rfl, addNode_adds (settle_added replied)⟩
  | addSublocation parent name => exact ⟨.node, rfl, addSublocation_adds (settle_added replied)⟩
  | addEdge source target kind => exact ⟨.edge, rfl, addEdge_adds (settle_added replied)⟩
  | connect source target kind =>
    exact ⟨.edge, rfl, addEdge_adds (connect_eq_ok (settle_added replied))⟩
  | requestEdge source target =>
    obtain ⟨type, joined⟩ := requestEdge_eq_ok (settle_added replied)
    exact ⟨.edge, rfl, addEdge_adds (connect_eq_ok joined)⟩
  | _ =>
    have silent := congrArg Reply.added? replied
    rw [added?_eq_none_of_scope? rfl] at silent
    cases silent

theorem settle_numbering {α : Type} {attempt : Except Refusal α} {accept : α → Store × Reply}
    (accepts : ∀ result, attempt = .ok result → (accept result).1.numbering = store.numbering) :
    (store.settle attempt accept).1.numbering = store.numbering := by
  cases attempt with
  | error why => rfl
  | ok result => exact accepts result rfl

/-- Within a generation the numbering moves only when an identity is given out. -/
theorem step_numbering {operation : Operation} (continues : operation.Continues)
    (silent : (store.step operation).2.added? = none) :
    (store.step operation).1.numbering = store.numbering := by
  cases operation with
  | addNode | addSublocation | addEdge | connect | requestEdge =>
    refine settle_numbering fun result made => ?_
    rw [step, made] at silent
    cases silent
  | patchNode id patch =>
    refine settle_numbering fun result made => ?_
    unfold patchNode at made
    split at made
    · cases made
    · obtain ⟨_, -, made⟩ := bind_eq_ok_iff.1 made
      cases pure_eq_ok_iff.1 made
      rfl
  | patchEdge id patch =>
    refine settle_numbering fun result made => ?_
    unfold patchEdge at made
    split at made
    · cases made
    · obtain ⟨_, -, made⟩ := bind_eq_ok_iff.1 made
      cases pure_eq_ok_iff.1 made
      rfl
  | rename id name =>
    refine settle_numbering fun result made => ?_
    obtain ⟨_, -, made⟩ := bind_eq_ok_iff.1 made
    cases pure_eq_ok_iff.1 made
    rfl
  | setBody id field body =>
    refine settle_numbering fun result made => ?_
    obtain ⟨_, -, made⟩ := bind_eq_ok_iff.1 made
    split at made
    · cases pure_eq_ok_iff.1 made
      rfl
    · cases made
  | delete id =>
    refine settle_numbering fun result made => ?_
    obtain ⟨_, -, made⟩ := bind_eq_ok_iff.1 made
    cases pure_eq_ok_iff.1 made
    rfl
  | clear => exact continues.elim
  | load world =>
    refine settle_numbering fun result made => ?_
    obtain ⟨_, valid, -⟩ := bind_eq_ok_iff.1 made
    exact absurd valid continues
  | select id =>
    refine settle_numbering fun result made => ?_
    unfold select at made
    split at made <;> cases made
    rfl
  | clearSelection => rfl

/-! ## Generations -/

/-- The numbering is past the identities that a generation has used: those that it began with and
those that it has given out, stored or not. -/
structure Generation (store : Store) (used : List ElementId) : Prop where
  sound : store.Sound
  past : ∀ id ∈ used, store.numbering.Past id

theorem Begins.generation {loaded : List ElementId} (begins : Begins store loaded) :
    Generation store loaded := by
  cases begins with
  | new settings => exact ⟨.empty settings, fun _ member => by cases member⟩
  | cleared store => exact ⟨.empty store.settings, fun _ member => by cases member⟩
  | loaded before after world accepted =>
    obtain ⟨_, valid, accepted⟩ := bind_eq_ok_iff.1 accepted
    cases pure_eq_ok_iff.1 accepted
    exact ⟨sound_of_valid (Snapshot.validate_eq_ok_iff.1 valid) before.settings,
      fun _ member => Numbering.past_pastAll member⟩

namespace Generation

variable {used : List ElementId} {operation : Operation} {scope : IdScope}

/-- A new identity was not used before, and the numbering is past it from then on. -/
theorem allocate (generation : Generation store used) {kind : IdKind} {numbering : Numbering}
    (allocated : store.numbering.allocate kind = .ok (id, numbering)) :
    id ∉ used ∧ ∀ other ∈ id :: used, numbering.Past other := by
  have bounded := generation.sound.bounded
  refine ⟨fun member => (generation.past id member).ne_of_allocate bounded allocated rfl, ?_⟩
  intro other member
  rcases List.mem_cons.1 member with rfl | member
  · exact Numbering.past_of_allocate bounded allocated
  · exact (generation.past other member).allocate allocated

theorem adds (generation : Generation store used) (adds : Adds store after id scope) :
    Appended store after id scope ∧ id ∉ used ∧
      ∀ other ∈ id :: used, after.numbering.Past other := by
  cases adds with
  | node type id numbering node allocated own =>
    have fresh := generation.sound.not_holds allocated
    exact ⟨.node node own (Table.entries_insert_of_not_mem fun bound => fresh (Or.inl bound)) rfl,
      generation.allocate allocated⟩
  | edge id numbering edge allocated own =>
    have fresh := generation.sound.not_holds allocated
    exact ⟨.edge edge own (Table.entries_insert_of_not_mem fun bound => fresh (Or.inr bound)) rfl,
      generation.allocate allocated⟩

/-- **A step keeps the numbering past all that was used**, with what it gives out itself. -/
theorem step (generation : Generation store used) (continues : operation.Continues) :
    Generation (store.step operation).1 (used ++ (store.step operation).2.added?.toList) where
  sound := generation.sound.change (store.step_change operation)
  past := by
    intro id member
    cases told : (store.step operation).2.added? with
    | none =>
      rw [told] at member
      rw [step_numbering continues told]
      exact generation.past id (by simpa using member)
    | some given =>
      obtain ⟨scope, -, added⟩ := step_adds (Reply.eq_added_of_added? told)
      rw [told] at member
      exact (generation.adds added).2.2 id (by simpa [or_comm] using member)

/-- **A run keeps the numbering past all that was used**, with what it gives out itself. -/
theorem run (generation : Generation store used) {operations : List Operation}
    (continues : ∀ operation ∈ operations, operation.Continues) :
    Generation (store.run operations) (used ++ store.issued operations) := by
  induction operations generalizing store used with
  | nil => simpa [Store.run, issued] using generation
  | cons operation rest ih =>
    rw [List.forall_mem_cons] at continues
    have later := ih (generation.step continues.1) continues.2
    rwa [List.append_assoc] at later

/-- What a run gives out is new each time, and nothing that was used before. -/
theorem nodup_issued (generation : Generation store used) {operations : List Operation}
    (continues : ∀ operation ∈ operations, operation.Continues) :
    (store.issued operations).Nodup ∧ ∀ id ∈ store.issued operations, id ∉ used := by
  induction operations generalizing store used with
  | nil => exact ⟨List.nodup_nil, fun _ member => by cases member⟩
  | cons operation rest ih =>
    rw [List.forall_mem_cons] at continues
    obtain ⟨distinct, later⟩ := ih (generation.step continues.1) continues.2
    unfold issued
    cases told : (store.step operation).2.added? with
    | none =>
      rw [told, Option.toList_none, List.append_nil] at later
      exact ⟨distinct, later⟩
    | some given =>
      rw [told, Option.toList_some] at later
      obtain ⟨scope, -, added⟩ := step_adds (Reply.eq_added_of_added? told)
      refine ⟨List.nodup_cons.2 ⟨fun again => ?_, distinct⟩, ?_⟩
      · exact later given again (List.mem_append_right _ (List.mem_singleton_self given))
      · intro id member
        rcases List.mem_cons.1 member with rfl | member
        · exact (generation.adds added).2.1
        · exact fun before => later id member (List.mem_append_left _ before)

/-- A scope is spent once its greatest ordinal has been used. -/
theorem spent (generation : Generation store used) {last : ElementId} (member : last ∈ used)
    (greatest : last.ordinal = some ElementId.maxOrdinal) :
    store.numbering.next? last.scope = none := by
  cases found : store.numbering.next? last.scope with
  | none => rfl
  | some next =>
    have below := generation.past last member _ next greatest found
    have within := generation.sound.bounded last.scope next found
    omega

end Generation

/-! ## Spent scopes -/

section Spent

variable {β γ : Type} {scope : IdScope}

/-- An attempt that depends on the numbering fails, because a scope is spent or whatever the
numbering is. -/
def FailsSpent (attempt : Numbering → Except Refusal β) (numbering : Numbering)
    (scope : IdScope) : Prop :=
  ∃ why, attempt numbering = .error why ∧
    (why = .idsExhausted scope ∨ ∀ other, attempt other = .error why)

variable {numbering : Numbering}

theorem failsSpent_bind (first : Except Refusal γ) {next : γ → Numbering → Except Refusal β}
    (later : ∀ value, FailsSpent (next value) numbering scope) :
    FailsSpent (fun numbering => first >>= fun value => next value numbering) numbering scope := by
  cases first with
  | error why => exact ⟨why, rfl, Or.inr fun _ => rfl⟩
  | ok value => exact later value

theorem failsSpent_error (why : Refusal) :
    FailsSpent (fun _ => (.error why : Except Refusal β)) numbering scope :=
  ⟨why, rfl, Or.inr fun _ => rfl⟩

theorem failsSpent_allocate (kind : IdKind)
    {more : Numbering → ElementId × Numbering → Except Refusal β}
    (spent : numbering.next? kind.scope = none) :
    FailsSpent (fun numbering => numbering.allocate kind >>= more numbering) numbering
      kind.scope := by
  refine ⟨.idsExhausted kind.scope, ?_, Or.inl rfl⟩
  dsimp only
  rw [Numbering.allocate_of_spent spent]
  rfl

theorem failsSpent_addNode (type : NodeType) (position : Option Position)
    (spent : numbering.next? .node = none) :
    FailsSpent (fun numbering => ({ store with numbering := numbering } : Store).addNode type
      position) numbering .node := by
  unfold addNode
  exact failsSpent_bind (newKind store.settings type) fun _ =>
    failsSpent_allocate (.node type) spent

theorem failsSpent_addSublocation (parent : ElementId) (name : String)
    (spent : numbering.next? .node = none) :
    FailsSpent (fun numbering => ({ store with numbering := numbering } : Store).addSublocation
      parent name) numbering .node := by
  unfold addSublocation
  refine failsSpent_bind (store.requireNode parent) fun location => ?_
  by_cases typed : location.type = .location
  · simp only [if_neg (not_not_intro typed)]
    exact failsSpent_allocate (.node .sublocation) spent
  · simp only [if_pos typed]
    exact failsSpent_error (.notALocation parent)

theorem failsSpent_addEdge (source target : ElementId) (kind : EdgeKind)
    (spent : numbering.next? .edge = none) :
    FailsSpent (fun numbering => ({ store with numbering := numbering } : Store).addEdge source
      target kind) numbering .edge := by
  unfold addEdge
  refine failsSpent_bind (store.requireNode source) fun _ => ?_
  refine failsSpent_bind (store.requireNode target) fun _ => ?_
  exact failsSpent_allocate .edge spent

theorem failsSpent_connect (source target : ElementId) (kind : EdgeKind)
    (spent : numbering.next? .edge = none) :
    FailsSpent (fun numbering => ({ store with numbering := numbering } : Store).connect source
      target kind) numbering .edge := by
  unfold connect
  refine failsSpent_bind (store.requireNode source) fun _ => ?_
  refine failsSpent_bind (store.requireNode target) fun _ => ?_
  exact failsSpent_bind _ fun _ => failsSpent_addEdge source target kind spent

theorem failsSpent_requestEdge (source target : ElementId)
    (spent : numbering.next? .edge = none) :
    FailsSpent (fun numbering => ({ store with numbering := numbering } : Store).requestEdge source
      target) numbering .edge := by
  unfold requestEdge
  refine failsSpent_bind (store.requireNode source) fun sourceNode => ?_
  refine failsSpent_bind (store.requireNode target) fun targetNode => ?_
  dsimp only
  cases connectionType sourceNode.type targetNode.type with
  | none => exact failsSpent_error (.unconnectable sourceNode.type targetNode.type)
  | some type => exact failsSpent_connect source target _ spent

theorem refusesSpent_of_failsSpent {attempt : Numbering → Except Refusal (Store × ElementId)}
    {operation : Operation}
    (settled : ∀ numbering, (({ store with numbering := numbering } : Store).step operation).2 =
      (({ store with numbering := numbering } : Store).settle (attempt numbering) fun result =>
        (result.1, .added result.2)).2)
    (fails : FailsSpent attempt store.numbering scope) : RefusesSpent store operation scope := by
  obtain ⟨why, failed, reason⟩ := fails
  refine ⟨why, ?_, reason.imp_right fun always numbering => ?_⟩
  · have here := settled store.numbering
    rw [failed] at here
    exact here
  · rw [settled, always numbering]
    rfl

/-- Every operation that draws on a spent scope is refused. -/
theorem refusesSpent {operation : Operation} (draws : operation.scope? = some scope)
    (spent : store.numbering.next? scope = none) : RefusesSpent store operation scope := by
  cases operation with
  | addNode type position =>
    cases draws
    exact refusesSpent_of_failsSpent (fun _ => rfl) (failsSpent_addNode type position spent)
  | addSublocation parent name =>
    cases draws
    exact refusesSpent_of_failsSpent (fun _ => rfl) (failsSpent_addSublocation parent name spent)
  | addEdge source target kind =>
    cases draws
    exact refusesSpent_of_failsSpent (fun _ => rfl) (failsSpent_addEdge source target kind spent)
  | connect source target kind =>
    cases draws
    exact refusesSpent_of_failsSpent (fun _ => rfl) (failsSpent_connect source target kind spent)
  | requestEdge source target =>
    cases draws
    exact refusesSpent_of_failsSpent (fun _ => rfl) (failsSpent_requestEdge source target spent)
  | _ => cases draws

end Spent

/-! ## Whole generations -/

/-- **Identities are given out once.** In a run within one generation, whatever it consists of and
whatever is refused:

* the identities that are given out are pairwise different and none of them was loaded;
* each addition puts one element under its new identity at the end of the table that the operation
  draws on, and leaves all that is stored as it was and where it was;
* once the greatest ordinal of a scope was loaded or given out, nothing is allocated in that scope,
  and every operation that draws on it is refused. -/
theorem issued_fresh {start : Store} {loaded : List ElementId} (begins : start.Begins loaded)
    (operations : List Operation) (continues : ∀ operation ∈ operations, operation.Continues) :
    (start.issued operations).Nodup ∧
      (∀ id ∈ start.issued operations, id ∉ loaded) ∧
      (∀ before operation rest id, operations = before ++ operation :: rest →
        ((start.run before).step operation).2 = .added id →
        ∃ scope, operation.scope? = some scope ∧
          Appended (start.run before) ((start.run before).step operation).1 id scope) ∧
      ∀ before rest last, operations = before ++ rest → last ∈ loaded ++ start.issued before →
        last.ordinal = some ElementId.maxOrdinal →
        (∀ kind : IdKind, kind.scope = last.scope →
          (start.run before).numbering.allocate kind = .error (.idsExhausted last.scope)) ∧
        ∀ operation : Operation, operation.scope? = some last.scope →
          RefusesSpent (start.run before) operation last.scope := by
  have generation := begins.generation
  obtain ⟨distinct, unloaded⟩ := generation.nodup_issued continues
  have reached : ∀ before rest, operations = before ++ rest →
      Generation (start.run before) (loaded ++ start.issued before) := by
    rintro before rest rfl
    exact generation.run fun operation member => continues operation (List.mem_append_left _ member)
  refine ⟨distinct, unloaded, ?_, ?_⟩
  · intro before operation rest id split replied
    obtain ⟨scope, draws, added⟩ := step_adds replied
    exact ⟨scope, draws, ((reached before _ split).adds added).1⟩
  · intro before rest last split member greatest
    have spent := (reached before rest split).spent member greatest
    exact ⟨fun kind same => same ▸ Numbering.allocate_of_spent (same ▸ spent),
      fun operation draws => refusesSpent draws spent⟩

/-- A world whose identities do not say what they belong to: a location that is called like an edge,
an edge that is called like a location, and an edge with the greatest ordinal there is. -/
def lighthouse : Snapshot where
  nodes := [Node.blank ⟨"tower"⟩ "Tower" .location, Node.blank ⟨"edge_5"⟩ "Pier" .location]
  edges := [⟨⟨"loc_+007"⟩, ⟨"tower"⟩, ⟨"edge_5"⟩, .adjacent⟩,
    ⟨⟨"edge_18446744073709551615"⟩, ⟨"edge_5"⟩, ⟨"tower"⟩, .adjacent⟩]

/-- A keeper comes and goes and another one comes. -/
def keepers : List Operation :=
  [.addNode .character none, .delete ⟨"char_8"⟩, .requestEdge ⟨"tower"⟩ ⟨"edge_5"⟩,
    .addNode .character none]

/-- Two keepers have two identities past all others, the first of them is appended, and no further
edge can be added. -/
theorem issued_fresh_lighthouse :
    ∃ start, (Store.empty {}).load lighthouse = .ok start ∧
      start.issued keepers = [⟨"char_8"⟩, ⟨"char_9"⟩] ∧
      (∀ id ∈ start.issued keepers, id ∉ lighthouse.ids) ∧
      (∃ scope, Appended start (start.step (.addNode .character none)).1 ⟨"char_8"⟩ scope) ∧
      RefusesSpent (start.run keepers) (.requestEdge ⟨"tower"⟩ ⟨"edge_5"⟩) .edge := by
  refine ⟨_, rfl, rfl, ?_⟩
  have continues : ∀ operation ∈ keepers, operation.Continues := by
    simp [keepers, Operation.Continues]
  obtain ⟨-, unloaded, appended, exhausted⟩ :=
    issued_fresh (.loaded (.empty {}) _ lighthouse rfl) keepers continues
  obtain ⟨scope, -, added⟩ := appended [] _ _ ⟨"char_8"⟩ rfl rfl
  have full := exhausted keepers [] ⟨"edge_18446744073709551615"⟩ rfl (by decide +kernel)
    (by decide +kernel)
  exact ⟨unloaded, ⟨scope, added⟩, full.2 (.requestEdge ⟨"tower"⟩ ⟨"edge_5"⟩) rfl⟩

end Store

end StoryWorld
