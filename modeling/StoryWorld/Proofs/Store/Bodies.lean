import StoryWorld.Proofs.Graph.KeyedBodies
import StoryWorld.Proofs.Store.Generations
import StoryWorld.Proofs.Store.Sessions

/-!
# Bodies in editing sessions

What has been written as the body of a text is what is read, until another body is written there or
the stored text is taken away by other means. A node shows a body in a field (`Node.Shows`) if the
body is read from the stored text and the texts of the node are stored under a key that is found
again. Writing a body, renaming and patching other fields each keep the node so; a step of the store
does if it does none of the things that `Store.KeepsBodies` leaves out (`Store.Shows.step`), and
with it a run (`Store.Shows.run`).

Renaming decodes under the old key and encodes under the new one (`Store.rekeyed_eq`). So it keeps
bodies whatever the stored text is, and nothing is left of a name once there is another one
(`Store.rename_keepsBodies`).
-/

set_option autoImplicit false

namespace StoryWorld

/-! ## Nodes -/

/-- The stored text of a field of a node; a short text may be absent. -/
def ContentField.stored? (field : ContentField) (node : Node) : Option String :=
  match field with
  | .content => some node.content
  | .contentShort => node.contentShort

namespace Node

/-- The body in a text of a node. -/
def body? (node : Node) (field : ContentField) : Option String :=
  (field.stored? node).map fun stored => Body.decode stored node.name node.type

/-- A node carries a text, its body is the given one, and its key is found again. -/
structure Shows (node : Node) (field : ContentField) (body : String) : Prop where
  carried : node.type.carries field.field = true
  keyable : Body.Keyable node.name node.type
  body : node.body? field = some body

end Node

namespace Store

variable {node : Node} {field : ContentField} {body : String}

theorem type_withBody (node : Node) (field : ContentField) (body : String) :
    (withBody node field body).type = node.type := by
  cases field <;> rfl

theorem name_withBody (node : Node) (field : ContentField) (body : String) :
    (withBody node field body).name = node.name := by
  cases field <;> rfl

/-- A body that is written is read again, and the other text is left alone. -/
theorem body?_withBody (keyable : Body.Keyable node.name node.type) (written : ContentField) :
    (withBody node written body).body? field =
      if written = field then some body else node.body? field := by
  have same := congrArg some (Body.decode_encode keyable body)
  cases written <;> cases field <;> first | exact same | rfl

/-- A text is put under a new key by taking off the old one; that empty texts are left alone makes
no difference. -/
theorem rekeyed_eq (stored oldName newName : String) (type : NodeType) :
    rekeyed stored oldName newName type =
      Body.encode (Body.decode stored oldName type) newName type := by
  by_cases empty : stored = ""
  · rw [rekeyed, if_pos empty, empty, Body.decode_empty]
    rfl
  · rw [rekeyed, if_neg empty]

/-- A text under a new key has the body that it had. -/
theorem decode_rekeyed {name : String} {type : NodeType} (keyable : Body.Keyable name type)
    (stored oldName : String) :
    Body.decode (rekeyed stored oldName name type) name type =
      Body.decode stored oldName type := by
  rw [rekeyed_eq, Body.decode_encode keyable]

/-- Renaming keeps the bodies of both texts, whatever is stored. -/
theorem body?_renamed {name : String} (keyable : Body.Keyable name node.type) :
    (renamed node name).body? field = node.body? field := by
  cases field with
  | content => exact congrArg some (decode_rekeyed keyable node.content node.name)
  | contentShort =>
    obtain ⟨id, oldName, keywords, content, contentShort, images, filters, position, kind⟩ := node
    cases contentShort with
    | none => rfl
    | some stored => exact congrArg some (decode_rekeyed keyable stored oldName)

/-- What stood under a key for a while is under a later key what it would have been at once. -/
theorem rekeyed_rekeyed {name : String} {type : NodeType} (keyable : Body.Keyable name type)
    (stored oldName last : String) :
    rekeyed (rekeyed stored oldName name type) name last type =
      rekeyed stored oldName last type :=
  calc
    rekeyed (rekeyed stored oldName name type) name last type =
        Body.encode (Body.decode (rekeyed stored oldName name type) name type) last type :=
      rekeyed_eq ..
    _ = Body.encode (Body.decode stored oldName type) last type := by
      rw [decode_rekeyed keyable]
    _ = rekeyed stored oldName last type := (rekeyed_eq ..).symm

/-- A name that a node has had for a while leaves no trace. -/
theorem renamed_renamed {name : String} (keyable : Body.Keyable name node.type) (last : String) :
    renamed (renamed node name) last = renamed node last := by
  obtain ⟨id, oldName, keywords, content, contentShort, images, filters, position, kind⟩ := node
  have text := rekeyed_rekeyed keyable content oldName last
  cases contentShort with
  | none => simp only [renamed, Option.map_none, Node.mk.injEq, true_and, and_true]; exact text
  | some stored =>
    have short := rekeyed_rekeyed keyable stored oldName last
    simp only [renamed, Option.map_some, Node.mk.injEq, true_and, and_true]
    exact ⟨text, congrArg some short⟩

end Store

namespace Node.Shows

variable {node : Node} {field : ContentField} {body : String} (shows : node.Shows field body)

include shows

theorem withBody (written : ContentField) (new : String) :
    (Store.withBody node written new).Shows field (if written = field then new else body) where
  carried := by
    rw [Store.type_withBody]
    exact shows.carried
  keyable := by
    rw [Store.type_withBody, Store.name_withBody]
    exact shows.keyable
  body := by
    rw [Store.body?_withBody shows.keyable, shows.body]
    split <;> rfl

theorem renamed {name : String} (keyable : Body.Keyable name node.type) :
    (Store.renamed node name).Shows field body where
  carried := shows.carried
  keyable := keyable
  body := (Store.body?_renamed keyable).trans shows.body

/-- Patching other fields than the name and the texts. -/
theorem patched {patch : NodePatch} (name : patch.name = none) (content : patch.content = none)
    (contentShort : patch.contentShort = none) : (patch.onNode node).Shows field body := by
  have type := patch.type_onNode node
  have sameName : (patch.onNode node).name = node.name := by rw [NodePatch.onNode, name]; rfl
  have stored : field.stored? (patch.onNode node) = field.stored? node := by
    cases field with
    | content => simp [ContentField.stored?, NodePatch.onNode, content]
    | contentShort => simp [ContentField.stored?, NodePatch.onNode, contentShort]
  refine ⟨type.symm ▸ shows.carried, ?_, ?_⟩
  · rw [sameName, type]
    exact shows.keyable
  · rw [body?, stored, sameName, type]
    exact shows.body

end Node.Shows

/-! ## Steps -/

/-- The body in a field after an operation that is carried out. -/
def Operation.bodyAfter (id : ElementId) (field : ContentField) (body : String) :
    Operation → String
  | .setBody other written new => if other = id ∧ written = field then new else body
  | _ => body

namespace Store

/-- The node is not deleted, its name and its texts are not patched, and it gets no name that begins
with a blank, unless it is an event. Nothing is said of bodies that are written. -/
def KeepsBodies (id : ElementId) (store : Store) : Operation → Prop
  | .delete other => other ≠ id
  | .clear | .load _ => False
  | .patchNode other patch =>
    other = id → patch.name = none ∧ patch.content = none ∧ patch.contentShort = none
  | .rename other name =>
    other = id → ∀ node ∈ store.nodes.get? id, Body.Keyable name node.type
  | _ => True

instance (id : ElementId) (store : Store) : ∀ operation, Decidable (store.KeepsBodies id operation)
  | .delete _ => inferInstanceAs (Decidable (_ ≠ _))
  | .clear | .load _ => .isFalse False.elim
  | .patchNode _ _ => inferInstanceAs (Decidable (_ → _))
  | .rename _ _ => inferInstanceAs (Decidable (_ → ∀ node ∈ store.nodes.get? id, _))
  | .addNode .. | .addSublocation .. | .addEdge .. | .connect .. | .requestEdge .. | .patchEdge ..
  | .setBody .. | .select _ | .clearSelection => .isTrue trivial

/-- A store has a node that shows a body in a field. -/
def Shows (id : ElementId) (field : ContentField) (body : String) (store : Store) : Prop :=
  ∃ node, store.nodes.get? id = some node ∧ node.Shows field body

variable {store after : Store} {id : ElementId} {field : ContentField} {body : String}

theorem contentBody?_eq :
    store.contentBody? id field = (store.nodes.get? id).bind fun node => node.body? field := by
  unfold contentBody?
  cases store.nodes.get? id with
  | none => rfl
  | some node =>
    cases field with
    | content => rfl
    | contentShort =>
      cases short : node.contentShort <;> simp [Node.body?, ContentField.stored?, short]

/-- Where a field is carried, a body can be written. -/
theorem setBody_eq_of_carries {node : Node} (body : String)
    (found : store.nodes.get? id = some node) (carried : node.type.carries field.field = true) :
    store.setBody id field body =
      .ok { store with nodes := store.nodes.insert id (withBody node field body) } := by
  refine bind_eq_ok_iff.2 ⟨node, requireNode_eq_ok_iff.2 found, ?_⟩
  rw [if_pos carried]
  rfl

/-- A body is only written where the field is carried. -/
theorem carries_of_setBody (written : store.setBody id field body = .ok after) {node : Node}
    (found : store.nodes.get? id = some node) : node.type.carries field.field = true := by
  obtain ⟨other, required, written⟩ := bind_eq_ok_iff.1 written
  rw [requireNode_eq_ok_iff.1 required] at found
  cases found
  by_contra not
  rw [if_neg not] at written
  cases written

namespace Shows

/-- What a store shows depends on the node alone. -/
theorem of_get?_eq (shows : store.Shows id field body)
    (same : after.nodes.get? id = store.nodes.get? id) : after.Shows id field body := by
  obtain ⟨node, found, own⟩ := shows
  exact ⟨node, same.trans found, own⟩

/-- Another node may be bound under another identity. -/
theorem nodeBound {other : ElementId} (shows : store.Shows id field body) (differ : id ≠ other)
    (node : Node) (numbering : Numbering) :
    Shows id field body
      { store with nodes := store.nodes.insert other node, numbering := numbering } :=
  shows.of_get?_eq (by rw [Table.get?_insert, if_neg differ])

theorem of_nodeBound {node : Node} (own : node.Shows field body) :
    Shows id field body { store with nodes := store.nodes.insert id node } :=
  ⟨node, by rw [Table.get?_insert, if_pos rfl], own⟩

theorem adds {other : ElementId} {scope : IdScope} (shows : store.Shows id field body)
    (sound : store.Sound) (adds : Adds store after other scope) : after.Shows id field body := by
  cases adds with
  | node type other numbering node allocated own =>
    refine shows.nodeBound (fun same => ?_) node numbering
    obtain ⟨shown, found, -⟩ := shows
    exact sound.not_holds allocated (Or.inl (same ▸ mem_keys_of_get? found))
  | edge other numbering edge allocated own => exact shows

/-- Deleting another element leaves a node that is no sublocation. -/
theorem removed {other : ElementId} {gone : Removal} (shows : store.Shows id field body)
    (sound : store.Sound) (found : store.removal other = .ok gone) (differ : other ≠ id) :
    (store.without gone).Shows id field body := by
  obtain ⟨node, here, own⟩ := shows
  refine ⟨node, get?_nodes_without.2 ⟨here, fun taken => ?_⟩, own⟩
  rcases removal_cases found with ⟨-, none⟩ | ⟨-, nodes, -⟩
  · rw [none] at taken
    cases taken
  · have doomed := ((nodes id).1 taken).2
    rcases (sound.consistent.mem_doomedNodes_iff here).1 doomed with same | inside
    · exact differ same.symm
    · have carried := own.carried
      rw [Node.type_of_parent inside] at carried
      cases field <;> cases carried

/-- **A step that keeps bodies shows what was shown, or the body that it has written.** -/
theorem step (shows : store.Shows id field body) (sound : store.Sound) {operation : Operation}
    (keeps : (store.step operation).2.isAccepted = true → store.KeepsBodies id operation) :
    (store.step operation).1.Shows id field (operation.bodyAfter id field body) := by
  cases operation with
  | addNode type position =>
    exact settle_invariant shows fun _ made => shows.adds sound (addNode_adds made)
  | addSublocation parent name =>
    exact settle_invariant shows fun _ made => shows.adds sound (addSublocation_adds made)
  | addEdge source target kind =>
    exact settle_invariant shows fun _ made => shows.adds sound (addEdge_adds made)
  | connect source target kind =>
    exact settle_invariant shows fun _ made => shows.adds sound (addEdge_adds (connect_eq_ok made))
  | requestEdge source target =>
    refine settle_invariant shows fun _ made => ?_
    obtain ⟨type, joined⟩ := requestEdge_eq_ok made
    exact shows.adds sound (addEdge_adds (connect_eq_ok joined))
  | patchNode other patch =>
    refine settle_invariant shows fun _ made => ?_
    have spared : store.KeepsBodies id (.patchNode other patch) :=
      keeps (isAccepted_settle made rfl)
    obtain ⟨old, found, rfl⟩ := patchNode_eq_ok made
    by_cases same : id = other
    · subst same
      obtain ⟨node, here, own⟩ := shows
      rw [found] at here
      cases here
      obtain ⟨name, content, contentShort⟩ := spared rfl
      exact of_nodeBound (own.patched name content contentShort)
    · exact shows.nodeBound same _ _
  | patchEdge other patch =>
    refine settle_invariant shows fun _ made => ?_
    obtain ⟨old, found, rfl⟩ := patchEdge_eq_ok made
    exact shows
  | rename other name =>
    refine settle_invariant shows fun _ made => ?_
    have spared : store.KeepsBodies id (.rename other name) := keeps (isAccepted_settle made rfl)
    obtain ⟨old, found, rfl⟩ := rename_eq_ok made
    by_cases same : id = other
    · subst same
      obtain ⟨node, here, own⟩ := shows
      rw [found] at here
      cases here
      exact of_nodeBound (own.renamed (spared rfl old found))
    · exact shows.nodeBound same _ _
  | setBody other written new =>
    by_cases here : other = id ∧ written = field
    · -- The field is carried, so this body is written.
      obtain ⟨rfl, rfl⟩ := here
      obtain ⟨node, found, own⟩ := shows
      have made := setBody_eq_of_carries new found own.carried
      have wrote := own.withBody written new
      rw [if_pos rfl] at wrote
      simp only [Store.step, settle, made, Operation.bodyAfter, and_self, if_true]
      exact of_nodeBound wrote
    · have unsaid : (Operation.setBody other written new).bodyAfter id field body = body :=
        if_neg here
      rw [unsaid]
      refine settle_invariant shows fun _ made => ?_
      obtain ⟨old, found, rfl⟩ := setBody_eq_ok made
      by_cases same : id = other
      · subst same
        obtain ⟨node, stored, own⟩ := shows
        rw [found] at stored
        cases stored
        have wrote := own.withBody written new
        rw [if_neg fun field => here ⟨rfl, field⟩] at wrote
        exact of_nodeBound wrote
      · exact shows.nodeBound same _ _
  | delete other =>
    refine settle_invariant shows fun _ made => ?_
    have spared : other ≠ id := keeps (isAccepted_settle made rfl)
    obtain ⟨gone, found, made⟩ := bind_eq_ok_iff.1 made
    cases pure_eq_ok_iff.1 made
    exact shows.removed sound found spared
  | clear => exact (keeps rfl).elim
  | load world =>
    refine settle_invariant shows fun _ made => ?_
    exact (keeps (isAccepted_settle made rfl)).elim
  | select other =>
    refine settle_invariant shows fun _ made => ?_
    unfold select at made
    split at made <;> cases made
    exact shows
  | clearSelection => exact shows

end Shows

/-! ## Editing sessions -/

/-- The last body that a run writes to a field, or the given one if it writes none. -/
def lastBody (id : ElementId) (field : ContentField) (body : String)
    (operations : List Operation) : String :=
  operations.foldl (fun body operation => operation.bodyAfter id field body) body

/-- **A run that keeps bodies shows the last one written.** -/
theorem Shows.run (shows : store.Shows id field body) (sound : store.Sound)
    {operations : List Operation} (keeps : Along (KeepsBodies id) store operations) :
    (store.run operations).Shows id field (lastBody id field body operations) := by
  induction operations generalizing store body with
  | nil => exact shows
  | cons operation rest ih =>
    exact ih (shows.step sound keeps.1) (sound.change (store.step_change operation)) keeps.2

theorem Shows.contentBody?_eq (shows : store.Shows id field body) :
    store.contentBody? id field = some body := by
  obtain ⟨node, found, own⟩ := shows
  rw [Store.contentBody?_eq, found]
  exact own.body

/-- A body that has been written under a key that is found again is shown. -/
theorem shows_of_setBody {node : Node} (found : store.nodes.get? id = some node)
    (keyable : Body.Keyable node.name node.type)
    (written : store.setBody id field body = .ok after) : after.Shows id field body := by
  have carried := carries_of_setBody written found
  rw [setBody_eq_of_carries body found carried] at written
  cases written
  refine Shows.of_nodeBound ⟨?_, ?_, ?_⟩
  · rwa [type_withBody]
  · rwa [type_withBody, name_withBody]
  · rw [body?_withBody keyable, if_pos rfl]

theorem rename_eq {node : Node} (found : store.nodes.get? id = some node) (name : String) :
    store.rename id name =
      .ok { store with nodes := store.nodes.insert id (renamed node name) } :=
  bind_eq_ok_iff.2 ⟨node, requireNode_eq_ok_iff.2 found, rfl⟩

/-- Renaming keeps the bodies of both texts, however they are stored, and nothing is left of a name
once there is another one. -/
theorem rename_keepsBodies {node : Node} (found : store.nodes.get? id = some node) {name : String}
    (keyable : Body.Keyable name node.type) :
    ∃ named, store.rename id name = .ok named ∧
      (∀ field, named.contentBody? id field = store.contentBody? id field) ∧
      ∀ last, named.rename id last = store.rename id last := by
  have here : ((store.nodes.insert id (renamed node name)).get? id) = some (renamed node name) := by
    rw [Table.get?_insert, if_pos rfl]
  refine ⟨_, rename_eq found name, fun field => ?_, fun last => ?_⟩
  · rw [contentBody?_eq, contentBody?_eq, here, found]
    exact body?_renamed keyable
  · rw [rename_eq here, rename_eq found, renamed_renamed keyable, Table.insert_insert]

/-- **What was written last is what is read.** Once a body has been written under a key that is
found again, in whatever store a run has reached, the last body written to that text is read from
it as long as the node is not deleted, its name and its texts are not patched, and it is given no
name that begins with a blank. A renaming to any other name keeps the bodies of both texts, however
they are stored, and nothing is left of it once the node is renamed again. -/
theorem contentBody?_readsBack (id : ElementId) :
    (∀ (settings : GraphSettings) (before operations : List Operation) (field : ContentField)
        (body : String) (node : Node) (written : Store),
      ((Store.empty settings).run before).nodes.get? id = some node →
      Body.Keyable node.name node.type →
      ((Store.empty settings).run before).setBody id field body = .ok written →
      Along (KeepsBodies id) written operations →
      (written.run operations).contentBody? id field =
        some (lastBody id field body operations)) ∧
    ∀ (store : Store) (node : Node) (name : String), store.nodes.get? id = some node →
      Body.Keyable name node.type →
      ∃ named, store.rename id name = .ok named ∧
        (∀ field, named.contentBody? id field = store.contentBody? id field) ∧
        ∀ last, named.rename id last = store.rename id last := by
  refine ⟨?_, fun store node name found keyable => rename_keepsBodies found keyable⟩
  intro settings before operations field body node written found keyable made keeps
  have sound := (Sound.empty settings).run before
  have after : written.Sound := sound.change (setBody_change made)
  exact ((shows_of_setBody found keyable made).run after keeps).contentBody?_eq

/-- A character who is not named yet. -/
def ada : ElementId := .numbered (.node .character) 1

/-- She comes to an inn. -/
def arrival : List Operation := [.addNode .character none, .addNode .location none]

/-- Her names and texts have brackets and equals signs in them, and the inn is deleted. -/
def makeover : List Operation :=
  let inn : ElementId := .numbered (.node .location) 2
  [.rename ada "Ada=[", .setBody ada .contentShort "[", .setBody ada .content "",
    .connect ada inn (.spawn 0.5 .empty), .rename ada "", .setBody ada .content "]=[\n=",
    .patchNode ada { keywords := some ["ada"] }, .rename inn " Inn", .delete inn,
    .rename ada "Ada=["]

theorem makeover_readsBack :
    let store := (Store.empty {}).run arrival
    let written := store.run [.setBody ada .content "first"]
    ∃ node, store.nodes.get? ada = some node ∧ Body.Keyable node.name node.type ∧
      store.setBody ada .content "first" = .ok written ∧
      Along (KeepsBodies ada) written makeover ∧
      (written.run makeover).contentBody? ada .content = some "]=[\n=" ∧
      (written.run makeover).contentBody? ada .contentShort = some "[" ∧
      ∃ named, store.rename ada "Ada" = .ok named ∧
        (∀ field, named.contentBody? ada field = store.contentBody? ada field) ∧
        ∀ last, named.rename ada last = store.rename ada last := by
  intro store written
  have stored : (store.nodes.get? ada).isSome = true := by decide +kernel
  have keyables : ∀ node ∈ store.nodes.get? ada,
      Body.Keyable node.name node.type ∧ Body.Keyable "Ada" node.type := by decide +kernel
  obtain ⟨node, found⟩ := Option.isSome_iff_exists.1 stored
  obtain ⟨keyable, later⟩ := keyables node found
  have made : store.setBody ada .content "first" = .ok written := by decide +kernel
  have keeps : Along (KeepsBodies ada) written makeover := by decide +kernel
  obtain ⟨reads, renames⟩ := contentBody?_readsBack ada
  exact ⟨node, found, keyable, made, keeps,
    reads {} arrival makeover .content "first" node written found keyable made keeps,
    by decide +kernel, renames store node "Ada" found later⟩

/-- Under a name that begins with a blank the body is not found. -/
example :
    let store := (Store.empty {}).run arrival
    (store.run [.setBody ada .content "first", .rename ada " Ada"]).contentBody? ada .content =
      some "\n Ada=[first]" := by
  decide +kernel

end Store

end StoryWorld
