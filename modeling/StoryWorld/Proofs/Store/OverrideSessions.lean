import StoryWorld.Proofs.Store.Generations
import StoryWorld.Proofs.Store.Overrides
import StoryWorld.Proofs.Store.Sessions

/-!
# Overrides in editing sessions

Overrides stay current in a store only as long as those who edit the world take care of it
(`Store.Spares`): an edge must be made with current overrides, and a sublocation may lose its name
only if the name can be spared. That overrides are patched with names of current sublocations, and
that edges are made by connecting nodes only, is taken for granted here (`Store.Connects`).

`Store.current_step_iff` says for one step that this care is just what is needed, and
`run_overridesCurrent` says so for whole editing sessions. Without it a session can leave names
behind that an import does not find (`cellar_overrides_stale`).
-/

set_option autoImplicit false

namespace StoryWorld

namespace Store

/-- Edges are made by connecting nodes only, and overrides are patched with names of sublocations
that the target has. -/
def Connects (store : Store) : Operation → Prop
  | .addEdge .. => False
  | .load world => world.edges = []
  | .patchEdge id patch =>
    ∀ edge ∈ store.edges.get? id, ∀ overrides ∈ patch.sublocationProbabilities,
      ∀ name ∈ overrides.keys, store.HasRoom edge.target name
  | _ => True

/-- Edges are made with names of sublocations that the target has, and no sublocation loses a name
that an edge needs. -/
def Spares (store : Store) : Operation → Prop
  | .connect _ target kind => store.NamesRooms target kind.overrides
  | .patchNode id patch =>
    ∀ name ∈ patch.name, (∀ node ∈ store.nodes.get? id, name = node.name) ∨ store.Dispensable id
  | .rename id name => (∀ node ∈ store.nodes.get? id, name = node.name) ∨ store.Dispensable id
  | .delete id => store.Dispensable id
  | _ => True

instance (store : Store) : ∀ operation, Decidable (store.Connects operation)
  | .addEdge .. => .isFalse False.elim
  | .load world => inferInstanceAs (Decidable (world.edges = []))
  | .patchEdge id _ => inferInstanceAs (Decidable (∀ edge ∈ store.edges.get? id, _))
  | .addNode .. | .addSublocation .. | .connect .. | .requestEdge .. | .patchNode .. | .rename ..
  | .setBody .. | .delete _ | .clear | .select _ | .clearSelection => .isTrue trivial

instance (store : Store) : ∀ operation, Decidable (store.Spares operation)
  | .connect _ target kind =>
    inferInstanceAs (Decidable (store.NamesRooms target kind.overrides))
  | .patchNode _ patch => inferInstanceAs (Decidable (∀ name ∈ patch.name, _ ∨ _))
  | .rename _ _ => inferInstanceAs (Decidable (_ ∨ _))
  | .delete gone => inferInstanceAs (Decidable (store.Dispensable gone))
  | .addNode .. | .addSublocation .. | .addEdge .. | .requestEdge .. | .patchEdge .. | .setBody ..
  | .clear | .load _ | .select _ | .clearSelection => .isTrue trivial

variable {store after : Store}

/-! ## Steps -/

/-- A sound store in which spawn edges lead to locations. -/
structure Wired (store : Store) : Prop where
  sound : store.Sound
  ends : store.SpawnEnds

theorem Wired.empty (settings : GraphSettings) : (Store.empty settings).Wired where
  sound := Sound.empty settings
  ends := fun _ member => by cases member

theorem Adds.current {id : ElementId} (adds : Adds store after id .node) (sound : store.Sound)
    (current : store.Current) : after.Current := by
  cases adds with
  | node type id numbering node allocated own =>
    exact current.nodeAdded node numbering fun stored => sound.not_holds allocated (Or.inl stored)

theorem Adds.spawnEnds {id : ElementId} (adds : Adds store after id .node) (sound : store.Sound)
    (ends : store.SpawnEnds) : after.SpawnEnds := by
  cases adds with
  | node type id numbering node allocated own =>
    exact ends.nodeAdded node numbering fun stored => sound.not_holds allocated (Or.inl stored)

/-- A spawn edge that is made by connecting nodes leads to a location. -/
theorem SpawnEnds.connect (ends : store.SpawnEnds) {source target id : ElementId} {kind : EdgeKind}
    (made : store.connect source target kind = .ok (after, id)) : after.SpawnEnds := by
  obtain ⟨sourceNode, targetNode, sourceFound, targetFound, allowed⟩ := connect_joins made
  obtain ⟨numbering, -, -, -, rfl⟩ := addEdge_eq_ok (connect_eq_ok made)
  refine ends.edgeBound id _ numbering fun own => ?_
  change kind.type = .spawn at own
  rw [own] at allowed
  obtain ⟨fromHere, toThere⟩ :=
    connectionType_eq_spawn_iff.1 (validateConnection_eq_ok_iff.1 allowed).2.1
  refine ⟨⟨sourceNode, sourceFound, ?_⟩, targetNode, targetFound, toThere⟩
  rcases fromHere with type | type <;> rw [type] <;> exact NodeType.noConfusion

/-- Permitted operations keep a store wired. -/
theorem Wired.step (wired : store.Wired) {operation : Operation}
    (connects : (store.step operation).2.isAccepted = true → store.Connects operation) :
    (store.step operation).1.Wired := by
  refine ⟨wired.sound.change (store.step_change operation), ?_⟩
  have ends := wired.ends
  cases operation with
  | addNode type position =>
    exact settle_invariant ends fun _ made => (addNode_adds made).spawnEnds wired.sound ends
  | addSublocation parent name =>
    exact settle_invariant ends fun _ made => (addSublocation_adds made).spawnEnds wired.sound ends
  | addEdge source target kind =>
    exact settle_invariant ends fun _ made => (connects (isAccepted_settle made rfl)).elim
  | connect source target kind => exact settle_invariant ends fun _ made => ends.connect made
  | requestEdge source target =>
    refine settle_invariant ends fun _ made => ?_
    obtain ⟨type, joined⟩ := requestEdge_eq_ok made
    exact ends.connect joined
  | patchNode id patch =>
    refine settle_invariant ends fun _ made => ?_
    obtain ⟨old, found, rfl⟩ := patchNode_eq_ok made
    exact ends.nodeReplaced found (patch.type_onNode old)
  | patchEdge id patch =>
    refine settle_invariant ends fun _ made => ?_
    obtain ⟨old, found, rfl⟩ := patchEdge_eq_ok made
    refine ends.edgeBound id _ store.numbering fun own => ?_
    exact ends old (Table.mem_values_iff.2 ⟨id, found⟩) ((patch.type_onEdge old).symm.trans own)
  | rename id name =>
    refine settle_invariant ends fun _ made => ?_
    obtain ⟨old, found, rfl⟩ := rename_eq_ok made
    exact ends.nodeReplaced found rfl
  | setBody id field body =>
    refine settle_invariant ends fun _ made => ?_
    obtain ⟨old, found, rfl⟩ := setBody_eq_ok made
    refine ends.nodeReplaced found ?_
    cases field <;> rfl
  | delete id =>
    refine settle_invariant ends fun _ made => ?_
    obtain ⟨gone, found, made⟩ := bind_eq_ok_iff.1 made
    cases pure_eq_ok_iff.1 made
    exact ends.removed wired.sound found
  | clear => exact (Wired.empty store.settings).ends
  | load world =>
    refine settle_invariant ends fun _ made => ?_
    have none : world.edges = [] := connects (isAccepted_settle made rfl)
    obtain ⟨⟨⟩, -, made⟩ := bind_eq_ok_iff.1 made
    cases pure_eq_ok_iff.1 made
    rw [none]
    exact fun _ member => by cases member
  | select id =>
    refine settle_invariant ends fun _ made => ?_
    unfold Store.select at made
    split at made <;> cases made
    exact ends
  | clearSelection => exact ends

/-- What a change that may be refused keeps is kept just if care is taken where it is accepted. -/
theorem settle_iff {α : Type} {attempt : Except Refusal α} {accept : α → Store × Reply}
    {kept : Store → Prop} {careful : Prop} (start : kept store)
    (answers : ∀ result, (accept result).2.isAccepted = true)
    (accepted : ∀ result, attempt = .ok result → (kept (accept result).1 ↔ careful)) :
    kept (store.settle attempt accept).1 ↔
      ((store.settle attempt accept).2.isAccepted = true → careful) := by
  cases attempt with
  | error why =>
    refine iff_of_true start fun answered => ?_
    cases answered
  | ok result =>
    refine (accepted result rfl).trans ⟨fun careful _ => careful, fun careful => ?_⟩
    exact careful (answers result)

/-- **One step keeps overrides current just if it spares the names that edges need.** -/
theorem current_step_iff (wired : store.Wired) (current : store.Current) {operation : Operation}
    (connects : (store.step operation).2.isAccepted = true → store.Connects operation) :
    (store.step operation).1.Current ↔
      ((store.step operation).2.isAccepted = true → store.Spares operation) := by
  have consistent := wired.sound.consistent
  cases operation with
  | addNode type position =>
    refine settle_iff current (fun _ => rfl) fun _ made => iff_of_true ?_ trivial
    exact (addNode_adds made).current wired.sound current
  | addSublocation parent name =>
    refine settle_iff current (fun _ => rfl) fun _ made => iff_of_true ?_ trivial
    exact (addSublocation_adds made).current wired.sound current
  | addEdge source target kind =>
    refine settle_iff current (fun _ => rfl) fun _ made => ?_
    exact (connects (isAccepted_settle made rfl)).elim
  | connect source target kind =>
    refine settle_iff current (fun _ => rfl) ?_
    rintro ⟨after, id⟩ made
    obtain ⟨numbering, -, -, -, rfl⟩ := addEdge_eq_ok (connect_eq_ok made)
    exact current.edgeBound_iff id ⟨id, source, target, kind⟩ numbering
  | requestEdge source target =>
    refine settle_iff current (fun _ => rfl) ?_
    rintro ⟨after, id⟩ made
    obtain ⟨type, joined⟩ := requestEdge_eq_ok made
    obtain ⟨numbering, -, -, -, rfl⟩ := addEdge_eq_ok (connect_eq_ok joined)
    refine iff_of_true ((current.edgeBound_iff id _ numbering).2 fun override listed => ?_) trivial
    cases type <;> cases listed
  | patchNode id patch =>
    refine settle_iff current (fun _ => rfl) fun _ made => ?_
    obtain ⟨old, found, rfl⟩ := patchNode_eq_ok made
    rw [consistent.current_nodeReplaced_iff current found (patch.parent_onNode old), Spares, found]
    change patch.name.getD old.name = old.name ∨ _ ↔ _
    cases patch.name with
    | none => simp
    | some name => simp
  | patchEdge id patch =>
    refine settle_iff current (fun _ => rfl) fun _ made => iff_of_true ?_ trivial
    have names : store.Connects (.patchEdge id patch) := connects (isAccepted_settle made rfl)
    obtain ⟨old, found, rfl⟩ := patchEdge_eq_ok made
    refine (current.edgeBound_iff id (patch.onEdge old) store.numbering).2 ?_
    change store.NamesRooms old.target (patch.onKind old.kind).overrides
    rcases overrides_onKind_cases patch old.kind with same | given
    · rw [same]
      exact current old (Table.mem_values_iff.2 ⟨id, found⟩)
    · intro override listed _
      exact names old found _ given override.1 (List.mem_map_of_mem listed)
  | rename id name =>
    refine settle_iff current (fun _ => rfl) fun _ made => ?_
    obtain ⟨old, found, rfl⟩ := rename_eq_ok made
    have placed : (renamed old name).parent = old.parent := rfl
    rw [consistent.current_nodeReplaced_iff current found placed, Spares, found]
    simp [renamed]
  | setBody id field body =>
    refine settle_iff current (fun _ => rfl) fun _ made => iff_of_true ?_ trivial
    obtain ⟨old, found, rfl⟩ := setBody_eq_ok made
    have shape : (withBody old field body).parent = old.parent ∧
        (withBody old field body).name = old.name := by
      cases field <;> exact ⟨rfl, rfl⟩
    exact (consistent.current_nodeReplaced_iff current found shape.1).2 (Or.inl shape.2)
  | delete id =>
    refine settle_iff current (fun _ => rfl) fun _ made => ?_
    obtain ⟨gone, found, made⟩ := bind_eq_ok_iff.1 made
    cases pure_eq_ok_iff.1 made
    exact Current.removed_iff wired.sound found current wired.ends
  | clear => exact iff_of_true (fun _ member => by cases member) fun _ => trivial
  | load world =>
    refine settle_iff current (fun _ => rfl) fun _ made => iff_of_true ?_ trivial
    have none : world.edges = [] := connects (isAccepted_settle made rfl)
    obtain ⟨⟨⟩, -, made⟩ := bind_eq_ok_iff.1 made
    cases pure_eq_ok_iff.1 made
    rw [none]
    exact fun _ member => by cases member
  | select id =>
    refine settle_iff current (fun _ => rfl) fun _ made => iff_of_true ?_ trivial
    unfold Store.select at made
    split at made <;> cases made
    exact current
  | clearSelection => exact iff_of_true current fun _ => trivial

/-! ## Editing sessions -/

/-- The snapshot of a wired store says whether its overrides are current. -/
theorem Wired.overridesCurrent_iff (wired : store.Wired) :
    store.snapshot.OverridesCurrent ↔ store.Current := by
  constructor
  · intro world edge member override listed positive
    have spawns : edge ∈ store.snapshot.edgesOf .spawn :=
      Snapshot.mem_edgesOf.2 ⟨member, type_of_override listed⟩
    exact (world edge spawns).2 override listed positive
  · intro current edge member
    obtain ⟨stored, own⟩ := Snapshot.mem_edgesOf.1 member
    obtain ⟨place, found, typed⟩ := (wired.ends edge stored own).2
    refine ⟨⟨place, Snapshot.mem_nodesOf.2 ⟨Table.mem_values_iff.2 ⟨_, found⟩, typed⟩, ?_⟩,
      current edge stored⟩
    exact wired.sound.consistent.node_id _ place found

theorem Wired.run (wired : store.Wired) {operations : List Operation}
    (connects : Along Connects store operations) : (store.run operations).Wired := by
  induction operations generalizing store with
  | nil => exact wired
  | cons operation rest ih => exact ih (wired.step connects.1) connects.2

/-- Overrides are current all along a run just if each step spares the names that edges need. -/
theorem Current.run_iff (wired : store.Wired) (current : store.Current)
    {operations : List Operation} (connects : Along Connects store operations) :
    (∀ count, (store.run (operations.take count)).Current) ↔ Along Spares store operations := by
  induction operations generalizing store with
  | nil =>
    refine iff_of_true (fun count => ?_) trivial
    rw [List.take_nil]
    exact current
  | cons operation rest ih =>
    have next := wired.step connects.1
    constructor
    · intro always
      have after : (store.step operation).1.Current := always 1
      refine ⟨(current_step_iff wired current connects.1).1 after, ?_⟩
      exact (ih next after connects.2).1 fun count => always (count + 1)
    · rintro ⟨spares, later⟩ count
      have after := (current_step_iff wired current connects.1).2 spares
      cases count with
      | zero => exact current
      | succ count => exact (ih next after connects.2).2 later count

/-- **Overrides in editing sessions.** Where edges are made by connecting nodes only and overrides
are patched with names of sublocations that the target has, every store that a session reaches has
current overrides just if the session spares the names that edges need. Then each of these stores
has a valid snapshot, and an import of its entries finds every place that the spawn tables refer to,
unless there are not enough ordinals. -/
theorem run_overridesCurrent (settings : GraphSettings) {operations : List Operation}
    (connects : Along Connects (.empty settings) operations) :
    ((∀ count, ((Store.empty settings).run (operations.take count)).snapshot.OverridesCurrent) ↔
        Along Spares (.empty settings) operations) ∧
      (Along Spares (.empty settings) operations → ∀ (count : Nat) (config : Config),
        let world := ((Store.empty settings).run (operations.take count)).snapshot
        world.validate = .ok () ∧
          ((∃ outcome, importEntries config world.entries = .ok outcome ∧
              ∀ name key, .unresolvedReference name .canSpawnAt key ∉ outcome.report.findings) ∨
            (importEntries config world.entries = .error (.refused (.idsExhausted .node)) ∧
              ElementId.maxOrdinal < (importDraft config world.entries).nodes.length) ∨
            (importEntries config world.entries = .error (.refused (.idsExhausted .edge)) ∧
              ElementId.maxOrdinal < (importDraft config world.entries).edges.length))) := by
  have start := Wired.empty settings
  have wired : ∀ count, ((Store.empty settings).run (operations.take count)).Wired := by
    intro count
    exact start.run (connects.take count)
  have whole : (∀ count,
      ((Store.empty settings).run (operations.take count)).snapshot.OverridesCurrent) ↔
        Along Spares (.empty settings) operations := by
    rw [← Current.run_iff start (fun _ member => by cases member) connects]
    exact forall_congr' fun count => (wired count).overridesCurrent_iff
  refine ⟨whole, fun spares count config => ?_⟩
  have valid := (wired count).sound.consistent.valid_snapshot
  exact ⟨Snapshot.validate_eq_ok_iff.2 valid,
    importEntries_findsPlaces valid (whole.2 spares count) config⟩

/-- An inn with a cellar, and a guest who may turn up in the cellar. -/
def cellarEvening : List Operation :=
  [.addNode .location none,
    .addSublocation (.numbered (.node .location) 1) "Cellar",
    .addNode .character none,
    .connect (.numbered (.node .character) 3) (.numbered (.node .location) 1) (.spawn 0.5 .empty),
    .patchEdge (.numbered .edge 1)
      { sublocationProbabilities := some (.ofList [("Cellar", 0.25)]) }]

/-- The cellar may be deleted once there is another one. -/
def secondCellar : List Operation :=
  cellarEvening ++
    [.addSublocation (.numbered (.node .location) 1) "Cellar",
      .delete (.numbered (.node .sublocation) 2)]

theorem secondCellar_overridesCurrent :
    Along Connects (.empty {}) secondCellar ∧ Along Spares (.empty {}) secondCellar ∧
      ∀ count, ((Store.empty {}).run (secondCellar.take count)).snapshot.OverridesCurrent := by
  have connects : Along Connects (.empty {}) secondCellar := by decide +kernel
  have spares : Along Spares (.empty {}) secondCellar := by decide +kernel
  exact ⟨connects, spares, (run_overridesCurrent {} connects).1.2 spares⟩

/-- After this last operation an override has no sublocation of its name, and an import does not
find what the override is named after. -/
def LeavesStale (last : Operation) (name : String) : Prop :=
  let operations := cellarEvening ++ [last]
  let store := (Store.empty {}).run operations
  Along Connects (.empty {}) operations ∧ ¬ store.Current ∧
    ((importEntries {} store.snapshot.entries).toOption.map fun outcome =>
        outcome.report.unresolved) =
      some [.unresolvedReference "New Character" .canSpawnAt name]

instance (last : Operation) (name : String) : Decidable (LeavesStale last name) :=
  inferInstanceAs (Decidable (_ ∧ _ ∧ _))

/-- Overrides go stale when the only cellar is deleted, renamed or patched with another name, and
when the guest is connected with a chance for a place that the inn does not have. -/
theorem cellar_overrides_stale :
    LeavesStale (.delete (.numbered (.node .sublocation) 2)) "Cellar" ∧
      LeavesStale (.rename (.numbered (.node .sublocation) 2) "Vault") "Cellar" ∧
      LeavesStale (.patchNode (.numbered (.node .sublocation) 2) { name := some "Vault" })
        "Cellar" ∧
      LeavesStale (.connect (.numbered (.node .character) 3) (.numbered (.node .location) 1)
        (.spawn 0.5 (.ofList [("Attic", 0.25)]))) "Attic" := by
  decide +kernel

end Store

end StoryWorld
