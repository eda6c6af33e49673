import StoryWorld.Proofs.Store.Change
import StoryWorld.Proofs.Table
import StoryWorld.Store.InPlace

/-!
# Failed changes write nothing

Editing in place could leave a store half changed: an operation that fails after its first write
has already touched the store. No operation does. Each of them is put together from three shapes of
edits: those that write nothing (`Edit.ReadOnly`), those that cannot fail (`Edit.Unfailing`), and
those that write nothing when they fail (`Edit.Atomic`). What comes before the first write is read
only, what comes after it is unfailing, and so the whole is atomic (`Edit.ReadOnly.bind_atomic`,
`Edit.Atomic.bind_unfailing`); an operation that is carried out within another comes last there.

That editing in place is the same as computing a new store and keeping it unless the operation is
refused, reply for reply, is `Store.perform_eq_step`. That no refused operation changes the store is
`Store.perform_refused`; it is read off the order of checks and writes alone.
-/

set_option autoImplicit false

namespace StoryWorld

/-- The fields of a patch, one after another, make of a node what the patch makes of it. -/
theorem NodePatch.foldl_parts (patch : NodePatch) (node : Node) :
    patch.parts.foldl (fun node part => part.onNode node) node = patch.onNode node := by
  obtain ⟨_, _, _, _, _, _, _, _, kind⟩ := node
  cases kind <;> rfl

/-- The fields of a patch, one after another, make of an edge what the patch makes of it. -/
theorem EdgePatch.foldl_parts (patch : EdgePatch) (edge : Edge) :
    patch.parts.foldl (fun edge part => part.onEdge edge) edge = patch.onEdge edge := by
  obtain ⟨_, _, _, kind⟩ := edge
  cases kind <;> rfl

namespace Edit

variable {α β : Type}

/-! ## Running one step after another -/

theorem get_bind_apply (next : Store → Edit β) (store : Store) :
    ((get : Edit Store) >>= next) store = next store store := rfl

theorem bind_apply_ok {first : Edit α} {next : α → Edit β} {store after : Store} {result : α}
    (ran : first store = (.ok result, after)) : (first >>= next) store = next result after := by
  simp only [bind, ExceptT.bind, ExceptT.mk, StateT.bind, ran, ExceptT.bindCont]

theorem bind_apply_error {first : Edit α} {next : α → Edit β} {store after : Store} {why : Refusal}
    (ran : first store = (.error why, after)) : (first >>= next) store = (.error why, after) := by
  simp only [bind, ExceptT.bind, ExceptT.mk, StateT.bind, ran, ExceptT.bindCont]
  rfl

theorem allocate_apply_ok {kind : IdKind} {store : Store} {id : ElementId} {numbering : Numbering}
    (allocated : store.numbering.allocate kind = .ok (id, numbering)) :
    allocate kind store = (.ok id, { store with numbering := numbering }) := by
  obtain ⟨ordinal, next, rfl, rfl⟩ := Numbering.allocate_eq_ok allocated
  rw [allocate, get_bind_apply, next]
  rfl

theorem allocate_apply_error {kind : IdKind} {store : Store} {why : Refusal}
    (refused : store.numbering.allocate kind = .error why) :
    allocate kind store = (.error why, store) := by
  rw [allocate, get_bind_apply]
  unfold Numbering.allocate at refused
  split at refused
  · rename_i spent
    cases refused
    rw [spent]
    rfl
  · cases refused

/-! ## Shapes of edits -/

/-- The edit writes nothing. -/
def ReadOnly (edit : Edit α) : Prop := ∀ store, (edit store).2 = store

/-- The edit cannot fail. -/
def Unfailing (edit : Edit α) : Prop :=
  ∀ store, ∃ result after, edit store = (.ok result, after)

/-- The edit writes nothing when it fails. -/
def Atomic (edit : Edit α) : Prop :=
  ∀ store why after, edit store = (.error why, after) → after = store

theorem readOnly_get : ReadOnly (get : Edit Store) := fun _ => rfl

theorem readOnly_check (outcome : Except Refusal α) : ReadOnly (check outcome) := fun _ => rfl

theorem readOnly_throw (why : Refusal) : ReadOnly (throw why : Edit α) := fun _ => rfl

theorem unfailing_pure (value : α) : Unfailing (pure value : Edit α) :=
  fun store => ⟨value, store, rfl⟩

theorem unfailing_write (change : Store → Store) : Unfailing (write change) :=
  fun store => ⟨(), change store, rfl⟩

theorem Unfailing.bind {first : Edit α} {next : α → Edit β} (sure : Unfailing first)
    (later : ∀ value, Unfailing (next value)) : Unfailing (first >>= next) := by
  intro store
  obtain ⟨value, between, ran⟩ := sure store
  obtain ⟨result, after, ended⟩ := later value between
  exact ⟨result, after, (bind_apply_ok ran).trans ended⟩

theorem unfailing_forM {items : List α} {each : α → Edit Unit}
    (sure : ∀ item, Unfailing (each item)) : Unfailing (items.forM each) := by
  induction items with
  | nil => exact unfailing_pure ()
  | cons item rest ih => exact (sure item).bind fun _ => ih

theorem ReadOnly.atomic {edit : Edit α} (look : ReadOnly edit) : Atomic edit := by
  intro store why after failed
  rw [← look store, failed]

theorem Unfailing.atomic {edit : Edit α} (sure : Unfailing edit) : Atomic edit := by
  intro store why after failed
  obtain ⟨result, other, ran⟩ := sure store
  rw [ran] at failed
  cases failed

/-- Nothing is written before an edit that fails without writing. -/
theorem ReadOnly.bind_atomic {first : Edit α} {next : α → Edit β} (look : ReadOnly first)
    (later : ∀ value, Atomic (next value)) : Atomic (first >>= next) := by
  intro store why after failed
  have unchanged := look store
  cases ran : first store with
  | mk outcome between =>
    rw [ran] at unchanged
    subst unchanged
    cases outcome with
    | error other =>
      rw [bind_apply_error ran] at failed
      cases failed
      rfl
    | ok value =>
      rw [bind_apply_ok ran] at failed
      exact later value _ why after failed

/-- Nothing can fail once the first part has gone through. -/
theorem Atomic.bind_unfailing {first : Edit α} {next : α → Edit β} (atomic : Atomic first)
    (later : ∀ value, Unfailing (next value)) : Atomic (first >>= next) := by
  intro store why after failed
  cases ran : first store with
  | mk outcome between =>
    cases outcome with
    | error other =>
      rw [bind_apply_error ran] at failed
      cases failed
      exact atomic store why after ran
    | ok value =>
      obtain ⟨result, other, ended⟩ := later value between
      rw [bind_apply_ok ran, ended] at failed
      cases failed

/-! ## Each operation is atomic -/

theorem atomic_allocate (kind : IdKind) : Atomic (allocate kind) := by
  refine readOnly_get.bind_atomic fun store => ?_
  split
  · exact (readOnly_throw _).atomic
  · exact ((unfailing_write _).bind fun _ => unfailing_pure _).atomic

theorem atomic_addNode (type : NodeType) (position : Option Position) :
    Atomic (addNode type position) :=
  readOnly_get.bind_atomic fun _ =>
    (readOnly_check _).bind_atomic fun _ =>
      (atomic_allocate _).bind_unfailing fun _ =>
        (unfailing_write _).bind fun _ => unfailing_pure _

theorem atomic_addSublocation (parent : ElementId) (name : String) :
    Atomic (addSublocation parent name) :=
  readOnly_get.bind_atomic fun _ =>
    (readOnly_check _).bind_atomic fun _ =>
      (readOnly_check _).bind_atomic fun _ =>
        (atomic_allocate _).bind_unfailing fun _ =>
          (unfailing_write _).bind fun _ => unfailing_pure _

theorem atomic_addEdge (source target : ElementId) (kind : EdgeKind) :
    Atomic (addEdge source target kind) :=
  readOnly_get.bind_atomic fun _ =>
    (readOnly_check _).bind_atomic fun _ =>
      (readOnly_check _).bind_atomic fun _ =>
        (atomic_allocate _).bind_unfailing fun _ =>
          (unfailing_write _).bind fun _ => unfailing_pure _

theorem atomic_connect (source target : ElementId) (kind : EdgeKind) :
    Atomic (connect source target kind) :=
  readOnly_get.bind_atomic fun _ =>
    (readOnly_check _).bind_atomic fun _ =>
      (readOnly_check _).bind_atomic fun _ =>
        (readOnly_check _).bind_atomic fun _ => atomic_addEdge source target kind

theorem atomic_requestEdge (source target : ElementId) : Atomic (requestEdge source target) :=
  readOnly_get.bind_atomic fun _ =>
    (readOnly_check _).bind_atomic fun _ =>
      (readOnly_check _).bind_atomic fun _ =>
        (readOnly_check _).bind_atomic fun _ => atomic_connect source target _

theorem atomic_patchNode (id : ElementId) (patch : NodePatch) : Atomic (patchNode id patch) :=
  readOnly_get.bind_atomic fun _ =>
    (readOnly_check _).bind_atomic fun _ =>
      (readOnly_check _).bind_atomic fun _ =>
        (unfailing_forM fun _ => unfailing_write _).atomic

theorem atomic_patchEdge (id : ElementId) (patch : EdgePatch) : Atomic (patchEdge id patch) :=
  readOnly_get.bind_atomic fun _ =>
    (readOnly_check _).bind_atomic fun _ =>
      (readOnly_check _).bind_atomic fun _ =>
        (unfailing_forM fun _ => unfailing_write _).atomic

theorem atomic_rename (id : ElementId) (name : String) : Atomic (rename id name) :=
  readOnly_get.bind_atomic fun _ =>
    (readOnly_check _).bind_atomic fun _ =>
      ((unfailing_write _).bind fun _ =>
        (unfailing_write _).bind fun _ => unfailing_write _).atomic

theorem atomic_setBody (id : ElementId) (field : ContentField) (body : String) :
    Atomic (setBody id field body) := by
  refine readOnly_get.bind_atomic fun _ => (readOnly_check _).bind_atomic fun _ =>
    (readOnly_check _).bind_atomic fun _ => ?_
  cases field <;> exact (unfailing_write _).atomic

theorem unfailing_takeNode (id : ElementId) : Unfailing (takeNode id) := by
  intro store
  exact ⟨_, _, rfl⟩

theorem atomic_takeOut (id : ElementId) : Atomic (takeOut id) := by
  refine readOnly_get.bind_atomic fun store => ?_
  split
  · exact ((unfailing_write _).bind fun _ => unfailing_pure _).atomic
  · split
    · exact (unfailing_takeNode id).atomic
    · exact (readOnly_throw _).atomic

theorem atomic_delete (id : ElementId) : Atomic (delete id) :=
  (atomic_takeOut id).bind_unfailing fun _ => (unfailing_write _).bind fun _ => unfailing_pure _

theorem unfailing_clear : Unfailing clear :=
  (unfailing_write _).bind fun _ => (unfailing_write _).bind fun _ =>
    (unfailing_write _).bind fun _ => unfailing_write _

theorem atomic_load (world : Snapshot) : Atomic (load world) :=
  (readOnly_check _).bind_atomic fun _ =>
    ((unfailing_write _).bind fun _ => (unfailing_write _).bind fun _ =>
      (unfailing_write _).bind fun _ => unfailing_write _).atomic

theorem atomic_select (id : ElementId) : Atomic (select id) :=
  readOnly_get.bind_atomic fun _ =>
    (readOnly_check _).bind_atomic fun _ => (unfailing_write _).atomic

/-- A refusal is the reply of a failed edit only, and an atomic edit has then written nothing. -/
theorem Atomic.answer {edit : Edit α} (atomic : Atomic edit) {accept : α → Reply} {store : Store}
    {why : Refusal} (refused : (edit.answer accept store).2 = .refused why)
    (accepts : ∀ result why, accept result ≠ .refused why) :
    (edit.answer accept store).1 = store := by
  unfold Edit.answer at refused ⊢
  cases ran : edit store with
  | mk outcome after =>
    rw [ran] at refused
    cases outcome with
    | ok result => exact absurd refused (accepts result why)
    | error other => exact atomic store other after ran

/-! ## Editing in place follows the computed store -/

/-- The edit leaves behind what an attempt yields, and the store as it was if that is refused. -/
def Follows (edit : Edit α) (store : Store) (attempt : Except Refusal β) (yields : β → Store × α) :
    Prop :=
  edit store =
    match attempt with
    | .ok value => (.ok (yields value).2, (yields value).1)
    | .error why => (.error why, store)

variable {γ : Type} {store : Store} {yields : β → Store × α}

theorem follows_get {next : Store → Edit α} {attempt : Except Refusal β}
    (later : Follows (next store) store attempt yields) :
    Follows ((get : Edit Store) >>= next) store attempt yields :=
  later

theorem follows_check {outcome : Except Refusal γ} {next : γ → Edit α} {more : γ → Except Refusal β}
    (later : ∀ value, outcome = .ok value → Follows (next value) store (more value) yields) :
    Follows (check outcome >>= next) store (outcome >>= more) yields := by
  cases outcome with
  | error why => rfl
  | ok value => exact later value rfl

theorem follows_allocate {kind : IdKind} {next : ElementId → Edit α}
    {more : ElementId × Numbering → Except Refusal β}
    (later : ∀ id numbering, next id { store with numbering := numbering } =
      match more (id, numbering) with
      | .ok value => (.ok (yields value).2, (yields value).1)
      | .error why => (.error why, store)) :
    Follows (allocate kind >>= next) store (store.numbering.allocate kind >>= more) yields := by
  cases allocated : store.numbering.allocate kind with
  | error why => exact bind_apply_error (allocate_apply_error allocated)
  | ok given => exact (bind_apply_ok (allocate_apply_ok allocated)).trans (later given.1 given.2)

theorem Follows.answer {edit : Edit α} {attempt : Except Refusal β}
    (follows : Follows edit store attempt yields) (accept : α → Reply) :
    edit.answer accept store =
      store.settle attempt fun value => ((yields value).1, accept (yields value).2) := by
  unfold Edit.answer Store.settle
  rw [follows]
  cases attempt <;> rfl

theorem follows_addNode (type : NodeType) (position : Option Position) :
    Follows (addNode type position) store (store.addNode type position) id := by
  unfold addNode Store.addNode
  exact follows_get (follows_check fun _ _ => follows_allocate fun _ _ => rfl)

theorem follows_addEdge (source target : ElementId) (kind : EdgeKind) :
    Follows (addEdge source target kind) store (store.addEdge source target kind) id := by
  unfold addEdge Store.addEdge
  exact follows_get (follows_check fun _ _ => follows_check fun _ _ =>
    follows_allocate fun _ _ => rfl)

theorem follows_addSublocation (parent : ElementId) (name : String) :
    Follows (addSublocation parent name) store (store.addSublocation parent name) id := by
  unfold addSublocation Store.addSublocation
  refine follows_get (follows_check fun location _ => ?_)
  by_cases typed : location.type = .location
  · rw [requireLocation, if_pos typed, if_neg (not_not_intro typed)]
    exact follows_allocate fun _ _ => rfl
  · rw [requireLocation, if_neg typed, if_pos typed]
    rfl

theorem follows_connect (source target : ElementId) (kind : EdgeKind) :
    Follows (connect source target kind) store (store.connect source target kind) id := by
  unfold connect Store.connect
  exact follows_get (follows_check fun _ _ => follows_check fun _ _ => follows_check fun _ _ =>
    follows_addEdge source target kind)

theorem follows_requestEdge (source target : ElementId) :
    Follows (requestEdge source target) store (store.requestEdge source target) id := by
  unfold requestEdge Store.requestEdge
  refine follows_get (follows_check fun sourceNode _ => follows_check fun targetNode _ => ?_)
  dsimp only
  rw [requireConnection]
  cases connectionType sourceNode.type targetNode.type with
  | none => rfl
  | some type => exact follows_connect source target _

/-- The store with another node under an identity. -/
def withNode (store : Store) (id : ElementId) (node : Node) : Store :=
  { store with nodes := store.nodes.insert id node }

/-- The store with another edge under an identity. -/
def withEdge (store : Store) (id : ElementId) (edge : Edge) : Store :=
  { store with edges := store.edges.insert id edge }

theorem withNode_of_get? {id : ElementId} {node : Node} (found : store.nodes.get? id = some node) :
    withNode store id node = store := by
  rw [withNode, Table.insert_of_get? found]

theorem withEdge_of_get? {id : ElementId} {edge : Edge} (found : store.edges.get? id = some edge) :
    withEdge store id edge = store := by
  rw [withEdge, Table.insert_of_get? found]

theorem writeNode_apply (store : Store) (id : ElementId) (node : Node) (change : Node → Node) :
    writeNode id change (withNode store id node) = (.ok (), withNode store id (change node)) := by
  show (Except.ok (), { store with nodes := (store.nodes.insert id node).adjust id change }) = _
  rw [Table.adjust_insert]
  rfl

theorem writeEdge_apply (store : Store) (id : ElementId) (edge : Edge) (change : Edge → Edge) :
    writeEdge id change (withEdge store id edge) = (.ok (), withEdge store id (change edge)) := by
  show (Except.ok (), { store with edges := (store.edges.insert id edge).adjust id change }) = _
  rw [Table.adjust_insert]
  rfl

theorem forM_writeNode_apply (store : Store) (id : ElementId) (change : γ → Node → Node)
    (items : List γ) (node : Node) :
    (items.forM fun item => writeNode id (change item)) (withNode store id node) =
      (.ok (), withNode store id (items.foldl (fun node item => change item node) node)) := by
  induction items generalizing node with
  | nil => rfl
  | cons item rest ih => exact (bind_apply_ok (writeNode_apply ..)).trans (ih _)

theorem forM_writeEdge_apply (store : Store) (id : ElementId) (change : γ → Edge → Edge)
    (items : List γ) (edge : Edge) :
    (items.forM fun item => writeEdge id (change item)) (withEdge store id edge) =
      (.ok (), withEdge store id (items.foldl (fun edge item => change item edge) edge)) := by
  induction items generalizing edge with
  | nil => rfl
  | cons item rest ih => exact (bind_apply_ok (writeEdge_apply ..)).trans (ih _)

theorem apply_eq_checkNodePatch (patch : NodePatch) (node : Node) :
    patch.apply node = checkNodePatch patch node >>= fun _ => pure (patch.onNode node) := by
  unfold NodePatch.apply checkNodePatch
  cases patch.offending? node.type <;> rfl

theorem apply_eq_checkEdgePatch (patch : EdgePatch) (edge : Edge) :
    patch.apply edge = checkEdgePatch patch edge >>= fun _ => pure (patch.onEdge edge) := by
  unfold EdgePatch.apply checkEdgePatch
  cases patch.offending? edge.type <;> rfl

theorem follows_patchNode (id : ElementId) (patch : NodePatch) :
    Follows (patchNode id patch) store (store.patchNode id patch) fun after => (after, ()) := by
  unfold patchNode Store.patchNode
  refine follows_get ?_
  rw [nodeToPatch]
  cases found : store.nodes.get? id with
  | none => rfl
  | some node =>
    show Follows (check (checkNodePatch patch node) >>= _) store (patch.apply node >>= _) _
    rw [apply_eq_checkNodePatch, bind_assoc]
    refine follows_check fun _ _ => ?_
    have written := forM_writeNode_apply store id NodePatch.onNode patch.parts node
    rw [withNode_of_get? found, patch.foldl_parts] at written
    exact written

theorem follows_patchEdge (id : ElementId) (patch : EdgePatch) :
    Follows (patchEdge id patch) store (store.patchEdge id patch) fun after => (after, ()) := by
  unfold patchEdge Store.patchEdge
  refine follows_get ?_
  rw [edgeToPatch]
  cases found : store.edges.get? id with
  | none => rfl
  | some edge =>
    show Follows (check (checkEdgePatch patch edge) >>= _) store (patch.apply edge >>= _) _
    rw [apply_eq_checkEdgePatch, bind_assoc]
    refine follows_check fun _ _ => ?_
    have written := forM_writeEdge_apply store id EdgePatch.onEdge patch.parts edge
    rw [withEdge_of_get? found, patch.foldl_parts] at written
    exact written

theorem follows_rename (id : ElementId) (name : String) :
    Follows (rename id name) store (store.rename id name) fun after => (after, ()) := by
  unfold rename Store.rename
  refine follows_get (follows_check fun node found => ?_)
  have here := withNode_of_get? (Store.requireNode_eq_ok_iff.1 found)
  unfold Follows
  conv_lhs => rw [← here]
  rw [bind_apply_ok (writeNode_apply ..), bind_apply_ok (writeNode_apply ..), writeNode_apply]
  rfl

theorem follows_setBody (id : ElementId) (field : ContentField) (body : String) :
    Follows (setBody id field body) store (store.setBody id field body) fun after =>
      (after, ()) := by
  unfold setBody Store.setBody
  refine follows_get (follows_check fun node found => ?_)
  have here := withNode_of_get? (Store.requireNode_eq_ok_iff.1 found)
  dsimp only
  rw [requireField]
  split
  · have written (change : Node → Node) := writeNode_apply store id node change
    rw [here] at written
    cases field <;> exact written _
  · rfl

theorem follows_load (world : Snapshot) :
    Follows (load world) store (store.load world) fun after => (after, ()) := by
  unfold load Store.load
  exact follows_check fun _ _ => rfl

theorem follows_select (id : ElementId) :
    Follows (select id) store (store.select id) fun after => (after, ()) := by
  unfold select Store.select
  refine follows_get ?_
  rw [requireElement]
  split <;> rfl

/-- The identities that are dropped may be listed with others or as the keys among them. -/
theorem filter_doomed (table : Table ElementId γ) (doomed : List ElementId) :
    (table.filter fun key _ => decide (key ∉ doomed)) =
      table.filter fun key _ =>
        decide (key ∉ table.keys.filter fun key => decide (key ∈ doomed)) :=
  Table.filter_congr_keys fun key member => by simp [member]

theorem follows_takeOut (store : Store) (id : ElementId) :
    Follows (takeOut id) store (store.removal id) fun gone =>
      ({ store with
        nodes := store.nodes.filter fun key _ => decide (key ∉ gone.nodes)
        edges := store.edges.filter fun key _ => decide (key ∉ gone.edges) }, gone) := by
  unfold takeOut Store.removal
  refine follows_get ?_
  split
  · have erased : store.edges.erase id = store.edges.filter fun key _ => decide (key ∉ [id]) :=
      Table.filter_congr_keys fun key _ => by simp
    have kept : store.nodes =
        store.nodes.filter fun key _ => decide (key ∉ ([] : List ElementId)) :=
      (Table.filter_keys_eq_self fun key _ => by simp).symm
    show (Except.ok (Removal.mk [] [id]), { store with edges := store.edges.erase id }) = _
    rw [erased]
    conv_lhs => rw [kept]
  · split
    · show Follows (takeNode id) _ _ _
      unfold takeNode
      refine follows_get ?_
      have nodes := filter_doomed store.nodes (store.doomedNodes id)
      have edges := filter_doomed store.edges (store.doomedEdges (store.doomedNodes id))
      exact congrArg (fun after => (Except.ok _, after))
        (congrArg₂ (fun nodes edges => { store with nodes := nodes, edges := edges }) nodes edges)
    · rfl

theorem follows_delete (id : ElementId) :
    Follows (delete id) store (store.delete id) fun result => result := by
  unfold delete Store.delete
  have taken := follows_takeOut store id
  unfold Follows at taken ⊢
  cases found : store.removal id with
  | error why =>
    rw [found] at taken
    exact bind_apply_error taken
  | ok gone =>
    rw [found] at taken
    exact bind_apply_ok taken

end Edit

namespace Store

/-- **Editing in place is computing the new store.** Carried out on the store itself, every
operation leaves the same store and gives the same reply. -/
theorem perform_eq_step (store : Store) (operation : Operation) :
    store.perform operation = store.step operation := by
  cases operation with
  | addNode type position => exact (Edit.follows_addNode type position).answer .added
  | addSublocation parent name => exact (Edit.follows_addSublocation parent name).answer .added
  | addEdge source target kind => exact (Edit.follows_addEdge source target kind).answer .added
  | connect source target kind => exact (Edit.follows_connect source target kind).answer .added
  | requestEdge source target => exact (Edit.follows_requestEdge source target).answer .added
  | patchNode id patch => exact (Edit.follows_patchNode id patch).answer fun _ => .done
  | patchEdge id patch => exact (Edit.follows_patchEdge id patch).answer fun _ => .done
  | rename id name => exact (Edit.follows_rename id name).answer fun _ => .done
  | setBody id field body => exact (Edit.follows_setBody id field body).answer fun _ => .done
  | delete id => exact (Edit.follows_delete id).answer .removed
  | clear => rfl
  | load world => exact (Edit.follows_load world).answer fun _ => .done
  | select id => exact (Edit.follows_select id).answer fun _ => .done
  | clearSelection => rfl

/-- **A refused operation changes nothing.** Whatever is asked of whatever store, if the reply is a
refusal, all of the store is as it was: nodes and edges with their order, numbering, settings and
selection. -/
theorem perform_refused (store : Store) (operation : Operation) (why : Refusal)
    (refused : (store.perform operation).2 = .refused why) :
    (store.perform operation).1 = store := by
  cases operation with
  | addNode type position =>
    exact (Edit.atomic_addNode type position).answer refused nofun
  | addSublocation parent name =>
    exact (Edit.atomic_addSublocation parent name).answer refused nofun
  | addEdge source target kind =>
    exact (Edit.atomic_addEdge source target kind).answer refused nofun
  | connect source target kind =>
    exact (Edit.atomic_connect source target kind).answer refused nofun
  | requestEdge source target =>
    exact (Edit.atomic_requestEdge source target).answer refused nofun
  | patchNode id patch => exact (Edit.atomic_patchNode id patch).answer refused nofun
  | patchEdge id patch => exact (Edit.atomic_patchEdge id patch).answer refused nofun
  | rename id name => exact (Edit.atomic_rename id name).answer refused nofun
  | setBody id field body =>
    exact (Edit.atomic_setBody id field body).answer refused nofun
  | delete id => exact (Edit.atomic_delete id).answer refused nofun
  | clear => exact Edit.unfailing_clear.atomic.answer refused nofun
  | load world => exact (Edit.atomic_load world).answer refused nofun
  | select id => exact (Edit.atomic_select id).answer refused nofun
  | clearSelection =>
    exact (Edit.unfailing_write _).atomic.answer refused nofun

/-- A festival that is patched with a new name and, against its kind, with a short text keeps its
old name. -/
theorem perform_refused_patch :
    let festival : Node := Node.blank ⟨"event_1"⟩ "Festival" (.event [] false 0)
    let store : Store :=
      { Store.empty {} with nodes := Table.ofList [(festival.id, festival)] }
    let patch : NodePatch := { name := some "Fair", contentShort := some "A fair." }
    (store.perform (.patchNode festival.id patch)).2 =
        .refused (.inapplicableField festival.id .event .contentShort) ∧
      (store.perform (.patchNode festival.id patch)).1 = store := by
  intro festival store patch
  have refused : (store.perform (.patchNode festival.id patch)).2 =
      .refused (.inapplicableField festival.id .event .contentShort) := rfl
  exact ⟨refused, perform_refused store (.patchNode festival.id patch) _ refused⟩

end Store

end StoryWorld
