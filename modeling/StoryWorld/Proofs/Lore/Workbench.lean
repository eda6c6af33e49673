import StoryWorld.Lore.Workbench
import StoryWorld.Proofs.Lore.Links
import StoryWorld.Proofs.Store.Requests

/-!
# What a workbench stands for

Two things that are told from a draft are kept by a workbench on its own: the ordinals that come
next, and the pairs that have been linked. After every step they agree with the draft
(`Workbench.Holds`). The next ordinals are the numbers of nodes and edges plus one, and a pair is
noted under a kind of edge exactly if an edge of this kind joins it.

A piece of work makes one draft of another (`Work.Makes`) if it keeps this agreement, or is refused
because there are no more ordinals; in that case the draft that it should make has more elements
than there are ordinals. Pieces of this kind can be put one after another (`Work.Makes.bind`) and
into loops (`Work.makes_forM`, `Work.makes_foldlM`).

Where two nodes are linked once, the pair is noted before the edge is added. The agreement would be
lost if the rules of connection rejected the edge, so it is a hypothesis that they allow it
(`Work.makes_linkOnce`).
-/

set_option autoImplicit false

namespace StoryWorld

/-! ## Unordered pairs -/

theorem unordered_comm (a b : ElementId) : unordered a b = unordered b a := by
  unfold unordered
  by_cases before : a.text ≤ b.text
  · by_cases after : b.text ≤ a.text
    · obtain ⟨_⟩ := a
      obtain ⟨_⟩ := b
      cases String.le_antisymm before after
      rfl
    · rw [if_pos before, if_neg after]
  · rw [if_neg before, if_pos ((String.le_total a.text b.text).resolve_left before)]

theorem unordered_cases (a b : ElementId) : unordered a b = (a, b) ∨ unordered a b = (b, a) := by
  unfold unordered
  split
  · exact Or.inl rfl
  · exact Or.inr rfl

/-- A link joins two nodes exactly if its ends are the same unordered pair. -/
theorem Link.joins_iff_unordered {link : Link} {a b : ElementId} :
    link.Joins a b ↔ unordered a b = unordered link.source link.target := by
  constructor
  · rintro (⟨rfl, rfl⟩ | ⟨rfl, rfl⟩)
    · rfl
    · exact unordered_comm _ _
  · intro same
    rcases unordered_cases a b with given | given <;>
      rcases unordered_cases link.source link.target with own | own <;>
        rw [given, own, Prod.mk.injEq] at same
    · exact Or.inl ⟨same.1.symm, same.2.symm⟩
    · exact Or.inr ⟨same.2.symm, same.1.symm⟩
    · exact Or.inr ⟨same.1.symm, same.2.symm⟩
    · exact Or.inl ⟨same.2.symm, same.1.symm⟩

/-! ## What a bench stands for -/

namespace Draft

/-- How many elements a draft has in a scope. -/
def count (draft : Draft) : IdScope → Nat
  | .node => draft.nodes.length
  | .edge => draft.edges.length

theorem count_congr {draft other : Draft} (nodes : other.nodes = draft.nodes)
    (edges : other.edges = draft.edges) : other.count = draft.count := by
  funext scope
  cases scope
  · exact congrArg List.length nodes
  · exact congrArg List.length edges

/-- Another element of a scope leaves none of the scopes with fewer. -/
theorem count_le_of_more {draft after : Draft} {kind : IdKind}
    (more : after.count = fun scope => draft.count scope + if kind.scope = scope then 1 else 0)
    (scope : IdScope) : draft.count scope ≤ after.count scope := by
  rw [more]
  exact Nat.le_add_right _ _

theorem count_addNode (draft : Draft) (type : NodeType) (node : Node) :
    (draft.addNode node).count =
      fun scope => draft.count scope + if (IdKind.node type).scope = scope then 1 else 0 := by
  funext scope
  cases scope <;> simp [count, addNode, IdKind.scope]

theorem count_addLink (draft : Draft) (link : Link) :
    (draft.addLinks [link]).count =
      fun scope => draft.count scope + if IdKind.edge.scope = scope then 1 else 0 := by
  funext scope
  cases scope <;> simp [count, addLinks, IdKind.scope]

theorem areJoined_addLink (draft : Draft) (link : Link) (type : EdgeType) (a b : ElementId) :
    (draft.addLinks [link]).areJoined type a b = true ↔
      draft.areJoined type a b = true ∨ link.kind.type = type ∧ link.Joins a b := by
  simp only [areJoined, addLinks, numberedEdges, List.any_append, List.any_cons, List.any_nil,
    Bool.or_false, Bool.or_eq_true, Bool.and_eq_true, decide_eq_true_eq, Edge.joins]
  rfl

end Draft

/-- So many ordinals of each scope have been given out: the next one follows them, if there is one
more. -/
structure Numbering.HasGiven (numbering : Numbering) (given : IdScope → Nat) : Prop where
  within : ∀ scope, given scope ≤ ElementId.maxOrdinal
  goesOn : numbering.GoesOnFrom given

namespace Workbench

/-- The pairs noted on the bench are those that edges of the draft join. Spawn edges are not
noted. -/
def Notes (bench : Workbench) (draft : Draft) : Prop :=
  ∀ type, type ≠ EdgeType.spawn → ∀ a b,
    (type, unordered a b) ∈ bench.pairs ↔ draft.areJoined type a b = true

/-- The bench has this draft on it. As many ordinals have been given out as there are nodes and
edges, so the next ones are these numbers plus one, and the notes are about the edges. -/
structure Holds (bench : Workbench) (draft : Draft) : Prop where
  same : bench.draft = draft
  ordinals : bench.numbering.HasGiven draft.count
  pairs : bench.Notes draft

theorem holds_start (findings : List Finding) :
    (start findings).Holds (.start findings) where
  same := rfl
  ordinals := by
    constructor
    · intro scope
      cases scope <;> exact Nat.zero_le _
    · intro scope
      cases scope <;> rfl
  pairs := by
    intro type _ a b
    exact ⟨fun noted => (List.not_mem_nil noted).elim, fun joined => by cases joined⟩

end Workbench

namespace Work

variable {α β : Type}

/-! ## Running one step after another -/

theorem get_bind_apply (next : Workbench → Work β) (bench : Workbench) :
    ((get : Work Workbench) >>= next) bench = next bench bench := rfl

theorem bind_apply_ok {first : Work α} {next : α → Work β} {bench between : Workbench} {value : α}
    (ran : first bench = .ok (value, between)) : (first >>= next) bench = next value between := by
  simp only [bind, StateT.bind, ran, Except.bind]

theorem bind_apply_error {first : Work α} {next : α → Work β} {bench : Workbench} {why : Refusal}
    (refused : first bench = .error why) : (first >>= next) bench = .error why := by
  simp only [bind, StateT.bind, refused, Except.bind]

/-- On this bench the work tells the value and leaves a bench that holds the draft, unless it is
refused for want of ordinals for the elements of the draft. -/
def Runs (work : Work α) (bench : Workbench) (value : α) (after : Draft) : Prop :=
  (∃ next, work bench = .ok (value, next) ∧ next.Holds after) ∨
    ∃ scope, work bench = .error (.idsExhausted scope) ∧ ElementId.maxOrdinal < after.count scope

/-- The work makes one draft of another and tells a value. -/
structure Makes (work : Work α) (before : Draft) (value : α) (after : Draft) : Prop where
  grows : ∀ scope, before.count scope ≤ after.count scope
  runs : ∀ bench : Workbench, bench.Holds before → work.Runs bench value after

variable {before middle after : Draft} {value : α} {other : β}

/-- One piece of work after another. Ordinals that the first one lacks are not to be had later. -/
theorem Runs.bind {first : Work α} {next : α → Work β} {bench : Workbench}
    (sooner : first.Runs bench value middle) (later : (next value).Makes middle other after) :
    (first >>= next).Runs bench other after := by
  rcases sooner with ⟨between, ran, held⟩ | ⟨scope, refused, few⟩
  · rw [Runs, bind_apply_ok ran]
    exact later.runs between held
  · exact Or.inr ⟨scope, bind_apply_error refused, Nat.lt_of_lt_of_le few (later.grows scope)⟩

theorem Makes.bind {first : Work α} {next : α → Work β}
    (sooner : first.Makes before value middle) (later : (next value).Makes middle other after) :
    (first >>= next).Makes before other after where
  grows := fun scope => Nat.le_trans (sooner.grows scope) (later.grows scope)
  runs := fun bench holds => (sooner.runs bench holds).bind later

theorem Makes.pure (value : α) (draft : Draft) :
    (Pure.pure value : Work α).Makes draft value draft where
  grows := fun _ => Nat.le_refl _
  runs := fun bench holds => Or.inl ⟨bench, rfl, holds⟩

/-- A loop over items, with what holds of the drafts in between. -/
theorem makes_forM_of (P : Draft → Prop) {work : β → Work Unit} {step : Draft → β → Draft}
    {items : List β}
    (each : ∀ item ∈ items, ∀ draft, P draft →
      (work item).Makes draft () (step draft item) ∧ P (step draft item))
    {draft : Draft} (holds : P draft) :
    (items.forM work).Makes draft () (items.foldl step draft) ∧ P (items.foldl step draft) := by
  induction items generalizing draft with
  | nil => exact ⟨.pure () draft, holds⟩
  | cons item rest ih =>
    obtain ⟨first, kept⟩ := each item (List.mem_cons_self ..) draft holds
    have later := fun other member => each other (List.mem_cons_of_mem item member)
    obtain ⟨others, last⟩ := ih later kept
    exact ⟨first.bind others, last⟩

/-- A loop over items, whatever holds of the drafts in between. -/
theorem makes_forM {work : β → Work Unit} {step : Draft → β → Draft}
    (each : ∀ item draft, (work item).Makes draft () (step draft item)) (items : List β)
    (draft : Draft) : (items.forM work).Makes draft () (items.foldl step draft) :=
  (makes_forM_of (fun _ => True) (fun item _ draft _ => ⟨each item draft, trivial⟩) trivial).1

/-- A loop over items that collects what nodes have been made of. -/
theorem makes_foldlM {work : List (ElementId × Entry) → β → Work (List (ElementId × Entry))}
    {step : Draft.Pass → β → Draft.Pass}
    (each : ∀ (pass : Draft.Pass) (item : β),
      (work pass.made item).Makes pass.draft (step pass item).made (step pass item).draft)
    (items : List β) (pass : Draft.Pass) :
    (items.foldlM work pass.made).Makes pass.draft (items.foldl step pass).made
      (items.foldl step pass).draft := by
  induction items generalizing pass with
  | nil => exact .pure pass.made pass.draft
  | cons item rest ih =>
    rw [List.foldlM_cons]
    exact (each pass item).bind (ih (step pass item))

/-! ## Single steps -/

theorem makes_draft (draft : Draft) : Work.draft.Makes draft draft draft where
  grows := fun _ => Nat.le_refl _
  runs := by
    intro bench holds
    refine Or.inl ⟨bench, ?_, holds⟩
    rw [← holds.same]
    rfl

/-- A change of the draft that leaves its elements alone. -/
theorem makes_revise {change : Draft → Draft} {draft : Draft}
    (nodes : (change draft).nodes = draft.nodes) (edges : (change draft).edges = draft.edges) :
    (revise change).Makes draft () (change draft) where
  grows := by
    intro scope
    rw [Draft.count_congr nodes edges]
  runs := by
    intro bench holds
    refine Or.inl ⟨_, rfl, congrArg change holds.same, ?_, ?_⟩
    · rw [Draft.count_congr nodes edges]
      exact holds.ordinals
    · intro type noted a b
      rw [Draft.areJoined, edges]
      exact holds.pairs type noted a b

theorem makes_report (findings : List Finding) (draft : Draft) :
    (report findings).Makes draft () (draft.report findings) :=
  makes_revise rfl rfl

theorem allocate_apply_ok {bench : Workbench} {kind : IdKind} {id : ElementId} {next : Numbering}
    (given : bench.numbering.allocate kind = .ok (id, next)) :
    allocate kind bench = .ok (id, { bench with numbering := next }) := by
  rw [allocate, get_bind_apply, given]
  rfl

theorem allocate_apply_error {bench : Workbench} {kind : IdKind} {why : Refusal}
    (refused : bench.numbering.allocate kind = .error why) : allocate kind bench = .error why := by
  rw [allocate, get_bind_apply, refused]
  rfl

/-- The next identity has the ordinal after those given out, as long as there is one. -/
theorem allocate_cases {bench : Workbench} {given : IdScope → Nat}
    (ordinals : bench.numbering.HasGiven given) (kind : IdKind) :
    (∃ after : Workbench, allocate kind bench = .ok (.numbered kind (given kind.scope + 1), after) ∧
        after.draft = bench.draft ∧ after.pairs = bench.pairs ∧
        after.numbering.HasGiven fun scope => given scope + if kind.scope = scope then 1 else 0) ∨
      (allocate kind bench = .error (.idsExhausted kind.scope) ∧
        ElementId.maxOrdinal < given kind.scope + 1) := by
  obtain ⟨told, later⟩ := ordinals.goesOn.request kind
  unfold Numbering.request at told later
  cases result : bench.numbering.allocate kind with
  | ok answer =>
    obtain ⟨id, next⟩ := answer
    rw [result] at told later
    obtain ⟨within, rfl⟩ := Numbering.answer_eq_ok told.symm
    refine Or.inl ⟨_, allocate_apply_ok result, rfl, rfl, fun scope => ?_, later⟩
    by_cases here : kind.scope = scope
    · rw [if_pos here, ← here]
      exact within
    · rw [if_neg here]
      exact ordinals.within scope
  | error why =>
    rw [result] at told
    obtain ⟨beyond, rfl⟩ := Numbering.answer_eq_error told.symm
    exact Or.inr ⟨allocate_apply_error result, beyond⟩

/-- What is added for the next identity. The notes may already be about what is added, so this is
said of benches whose notes are those after the step. -/
theorem runs_add {bench : Workbench} {after : Draft} {kind : IdKind}
    {change : ElementId → Draft → Draft} (ordinals : bench.numbering.HasGiven bench.draft.count)
    (made : change (.numbered kind (bench.draft.count kind.scope + 1)) bench.draft = after)
    (more : after.count =
      fun scope => bench.draft.count scope + if kind.scope = scope then 1 else 0)
    (notes : bench.Notes after) :
    (add kind change).Runs bench (.numbered kind (bench.draft.count kind.scope + 1)) after := by
  obtain ⟨next, ran, same, pairs, given⟩ | ⟨refused, few⟩ := allocate_cases ordinals kind
  · refine Or.inl ⟨_, (bind_apply_ok ran).trans rfl, ?_, ?_, ?_⟩
    · exact (congrArg _ same).trans made
    · rw [more]
      exact given
    · intro type noted a b
      rw [← notes type noted a b, ← pairs]
  · refine Or.inr ⟨kind.scope, bind_apply_error refused, ?_⟩
    rw [more]
    simpa using few

/-- A new node has the identity that follows from the number of nodes. -/
theorem makes_addNode (type : NodeType) (make : ElementId → Node) (draft : Draft) :
    (addNode type make).Makes draft (draft.nextNodeId type)
      (draft.addNode (make (draft.nextNodeId type))) := by
  have more := draft.count_addNode type (make (draft.nextNodeId type))
  refine ⟨Draft.count_le_of_more more, ?_⟩
  rintro bench ⟨rfl, ordinals, pairs⟩
  exact runs_add ordinals rfl more pairs

/-! ## Links -/

/-- A new edge has the identity that follows from the number of edges. -/
theorem runs_addEdge {bench : Workbench} {link : Link}
    (ordinals : bench.numbering.HasGiven bench.draft.count)
    (notes : bench.Notes (bench.draft.addLinks [link])) :
    (addEdge link.source link.target link.kind).Runs bench () (bench.draft.addLinks [link]) :=
  (runs_add ordinals rfl (Draft.count_addLink _ _) notes).bind (.pure () _)

/-- A spawn edge is added, left out or rejected, and no pair is noted for it. -/
theorem makes_link {kind : EdgeKind} (spawns : kind.type = .spawn) (source target : ElementId)
    (draft : Draft) :
    (link source target kind).Makes draft () (draft.link source target kind) := by
  refine (makes_draft draft).bind ?_
  unfold Draft.link
  cases draft.node? source with
  | none => exact .pure () draft
  | some sourceNode =>
    cases draft.node? target with
    | none => exact .pure () draft
    | some targetNode =>
      dsimp only
      cases validateConnection sourceNode targetNode kind.type with
      | error reason => exact makes_report _ draft
      | ok accepted =>
        refine ⟨Draft.count_le_of_more (draft.count_addLink ⟨source, target, kind⟩), ?_⟩
        rintro bench ⟨rfl, ordinals, pairs⟩
        refine @runs_addEdge bench ⟨source, target, kind⟩ ordinals fun type noted a b => ?_
        rw [Draft.areJoined_addLink, pairs type noted a b]
        exact ⟨Or.inl, fun joined => joined.resolve_right fun here =>
          noted (here.1.symm.trans spawns)⟩

/-- Where the rules of connection allow an edge, linking adds it. -/
theorem runs_link {bench : Workbench} {link : Link}
    (distinct : (bench.draft.nodes.map Node.id).Nodup) (admitted : bench.draft.Admits link)
    (ordinals : bench.numbering.HasGiven bench.draft.count)
    (notes : bench.Notes (bench.draft.addLinks [link])) :
    (Work.link link.source link.target link.kind).Runs bench () (bench.draft.addLinks [link]) := by
  obtain ⟨source, target, sourceFound, targetFound, allowed⟩ :=
    Draft.ends_of_admits bench.draft distinct admitted
  have looked : Work.draft bench = .ok (bench.draft, bench) := rfl
  rw [Runs, Work.link, bind_apply_ok looked, sourceFound, targetFound]
  simp only [allowed]
  exact runs_addEdge ordinals notes

theorem note_apply_known {bench : Workbench} {type : EdgeType} {a b : ElementId}
    (known : (type, unordered a b) ∈ bench.pairs) : note type a b bench = .ok (false, bench) := by
  rw [note, get_bind_apply, if_pos known]
  rfl

theorem note_apply_new {bench : Workbench} {type : EdgeType} {a b : ElementId}
    (fresh : (type, unordered a b) ∉ bench.pairs) :
    note type a b bench =
      .ok (true, { bench with pairs := bench.pairs ++ [(type, unordered a b)] }) := by
  rw [note, get_bind_apply, if_neg fresh]
  rfl

/-- With the pair of its edge, the notes are those of the draft with the edge. -/
theorem notes_addLink {bench : Workbench} {draft : Draft} (holds : bench.Notes draft)
    (link : Link) :
    Workbench.Notes { bench with
      pairs := bench.pairs ++ [(link.kind.type, unordered link.source link.target)] }
      (draft.addLinks [link]) := by
  intro type noted a b
  rw [Draft.areJoined_addLink, ← holds type noted a b, List.mem_append, List.mem_singleton,
    Prod.mk.injEq, Link.joins_iff_unordered]
  exact or_congr_right (and_congr_left fun _ => eq_comm)

/-- **One edge for each pair.** Linking two nodes once, by the notes, is linking them unless an edge
joins them. -/
theorem makes_linkOnce {draft : Draft} {link : Link} (distinct : (draft.nodes.map Node.id).Nodup)
    (noted : link.kind.type ≠ .spawn)
    (admitted : link.target ≠ link.source → draft.Admits link) :
    (linkOnce link.source link.target link.kind).Makes draft () (draft.follow (.inr link)) := by
  unfold linkOnce
  rw [Draft.follow]
  by_cases itself : link.target = link.source
  · rw [if_neg (not_not_intro itself), if_pos (Or.inl itself)]
    exact .pure () draft
  rw [if_pos itself]
  by_cases joined : draft.areJoined link.kind.type link.source link.target = true
  · rw [if_pos (Or.inr joined)]
    refine ⟨fun _ => Nat.le_refl _, fun bench holds => Or.inl ⟨bench, ?_, holds⟩⟩
    exact bind_apply_ok (note_apply_known ((holds.pairs _ noted _ _).2 joined))
  · rw [if_neg (not_or_intro itself joined), Draft.link_of_admits draft distinct (admitted itself)]
    refine ⟨Draft.count_le_of_more (draft.count_addLink link), ?_⟩
    rintro bench ⟨rfl, ordinals, pairs⟩
    have fresh := mt (pairs _ noted link.source link.target).1 joined
    rw [Runs, bind_apply_ok (note_apply_new fresh), if_pos rfl]
    exact runs_link distinct (admitted itself) ordinals (notes_addLink pairs link)

end Work

end StoryWorld
