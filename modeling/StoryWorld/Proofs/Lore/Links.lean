import StoryWorld.Lore.Draft
import StoryWorld.Proofs.Graph.NumberedIds
import StoryWorld.Proofs.Graph.Validity

/-!
# Links

A draft numbers its edges in order, so an edge is known from its place and from its link: the two
ends and the kind. Linking two nodes that the rules allow adds just this edge (`foldl_link`).

References between entries of one category are symmetric: each of the two sides may mention the
other, once or several times, and the first mention makes the edge. `linksOnce` says this of a list
of links, and `foldl_follow` says that following references one after another makes those edges and
reports the references that lead nowhere.
-/

set_option autoImplicit false

namespace StoryWorld

/-- An edge without its identity. -/
structure Link where
  source : ElementId
  target : ElementId
  kind : EdgeKind
  deriving DecidableEq

/-- What an edge joins, and how. -/
def Edge.link (edge : Edge) : Link := ⟨edge.source, edge.target, edge.kind⟩

/-- The link joins two nodes, in either direction. -/
def Link.Joins (link : Link) (a b : ElementId) : Prop :=
  (link.source = a ∧ link.target = b) ∨ (link.source = b ∧ link.target = a)

instance (link : Link) (a b : ElementId) : Decidable (link.Joins a b) :=
  inferInstanceAs (Decidable (_ ∨ _))

theorem Link.Joins.symm {link : Link} {a b : ElementId} (joined : link.Joins a b) :
    link.Joins b a :=
  Or.symm joined

/-- Two links that join the same nodes as a third one join the same nodes. -/
theorem Link.Joins.trans {link other : Link} {a b : ElementId} (joined : link.Joins a b)
    (same : other.Joins link.source link.target) : other.Joins a b := by
  rcases joined with ⟨rfl, rfl⟩ | ⟨rfl, rfl⟩
  · exact same
  · exact same.symm

/-! ## Edges in order -/

/-- The edges of links, numbered in order after those that are there already. -/
def numberedEdges : Nat → List Link → List Edge
  | _, [] => []
  | count, link :: rest =>
    ⟨.numbered .edge (count + 1), link.source, link.target, link.kind⟩ ::
      numberedEdges (count + 1) rest

@[simp] theorem length_numberedEdges (count : Nat) (links : List Link) :
    (numberedEdges count links).length = links.length := by
  induction links generalizing count with
  | nil => rfl
  | cons link rest ih => simp only [numberedEdges, List.length_cons, ih]

theorem numberedEdges_append (count : Nat) (links more : List Link) :
    numberedEdges count (links ++ more) =
      numberedEdges count links ++ numberedEdges (count + links.length) more := by
  induction links generalizing count with
  | nil => rfl
  | cons link rest ih =>
    simp only [List.cons_append, numberedEdges, ih, List.length_cons, List.cons.injEq, true_and]
    rw [Nat.add_assoc, Nat.add_comm 1]

/-- Edges numbered after others continue them. -/
theorem numberedEdges_append_zero (links more : List Link) :
    numberedEdges 0 (links ++ more) =
      numberedEdges 0 links ++ numberedEdges links.length more := by
  rw [numberedEdges_append, Nat.zero_add]

@[simp] theorem map_link_numberedEdges (count : Nat) (links : List Link) :
    (numberedEdges count links).map Edge.link = links := by
  induction links generalizing count with
  | nil => rfl
  | cons link rest ih => simp only [numberedEdges, List.map_cons, ih, Edge.link]

/-- The links of edges are those that they are numbered for. -/
theorem link_mem_of_mem_numberedEdges {count : Nat} {links : List Link} {edge : Edge}
    (member : edge ∈ numberedEdges count links) : edge.link ∈ links := by
  rw [← map_link_numberedEdges count links]
  exact List.mem_map_of_mem member

/-- Each edge has the number of its place. -/
theorem id_of_getElem?_numberedEdges {count i : Nat} {links : List Link} {edge : Edge}
    (found : (numberedEdges count links)[i]? = some edge) :
    edge.id = .numbered .edge (count + i + 1) := by
  induction links generalizing count i with
  | nil => cases found
  | cons link rest ih =>
    cases i with
    | zero =>
      cases found
      rfl
    | succ i =>
      rw [numberedEdges, List.getElem?_cons_succ] at found
      rw [ih found, Nat.add_right_comm count 1 i, Nat.add_assoc count i 1]

/-- Edges that are numbered in order are those of their links. -/
theorem numberedEdges_map_link {count : Nat} {edges : List Edge}
    (numbered : ∀ (i : Nat) (edge : Edge), edges[i]? = some edge →
      edge.id = .numbered .edge (count + i + 1)) :
    numberedEdges count (edges.map Edge.link) = edges := by
  induction edges generalizing count with
  | nil => rfl
  | cons edge rest ih =>
    have first : edge.id = .numbered .edge (count + 1) := numbered 0 edge rfl
    rw [List.map_cons, numberedEdges, ih fun i other found => ?_, ← first]
    · rfl
    · rw [numbered (i + 1) other found, Nat.add_right_comm count 1 i, Nat.add_assoc count i 1]

namespace Draft

/-- The draft with an edge for each link. -/
def addLinks (draft : Draft) (links : List Link) : Draft :=
  { draft with edges := draft.edges ++ numberedEdges draft.edges.length links }

@[simp] theorem addLinks_nil (draft : Draft) : draft.addLinks [] = draft := by
  simp only [addLinks, numberedEdges, List.append_nil]

theorem addLinks_addLinks (draft : Draft) (links more : List Link) :
    (draft.addLinks links).addLinks more = draft.addLinks (links ++ more) := by
  simp only [addLinks, numberedEdges_append, List.append_assoc, List.length_append,
    length_numberedEdges]

/-- The rules of connection allow the link between two nodes of the draft. -/
def Admits (draft : Draft) (link : Link) : Prop :=
  ∃ source ∈ draft.nodes, ∃ target ∈ draft.nodes, source.id = link.source ∧
    target.id = link.target ∧ validateConnection source target link.kind.type = .ok ()

section Linking

variable (draft : Draft) (distinct : (draft.nodes.map Node.id).Nodup)

include distinct

/-- The ends of what may be linked are found, and pass the rules of connection. -/
theorem ends_of_admits {link : Link} (admitted : draft.Admits link) :
    ∃ source target, draft.node? link.source = some source ∧
      draft.node? link.target = some target ∧
      validateConnection source target link.kind.type = .ok () := by
  obtain ⟨source, sourceMember, target, targetMember, fromHere, toThere, allowed⟩ := admitted
  have sourceFound : draft.node? link.source = some source :=
    fromHere ▸ find?_id_of_mem distinct sourceMember
  have targetFound : draft.node? link.target = some target :=
    toThere ▸ find?_id_of_mem distinct targetMember
  exact ⟨source, target, sourceFound, targetFound, allowed⟩

/-- Linking what may be linked adds an edge. -/
theorem link_of_admits {link : Link} (admitted : draft.Admits link) :
    draft.link link.source link.target link.kind = draft.addLinks [link] := by
  obtain ⟨source, target, sourceFound, targetFound, allowed⟩ :=
    ends_of_admits draft distinct admitted
  unfold Draft.link
  rw [sourceFound, targetFound]
  simp only [allowed]
  rfl

/-- Linking one after another what may be linked adds an edge for each. -/
theorem foldl_link {links : List Link} (admitted : ∀ link ∈ links, draft.Admits link) :
    links.foldl (fun draft link => draft.link link.source link.target link.kind) draft =
      draft.addLinks links := by
  induction links generalizing draft with
  | nil => rw [List.foldl_nil, addLinks_nil]
  | cons link rest ih =>
    have here := link_of_admits draft distinct (admitted link (List.mem_cons_self ..))
    have later : ∀ other ∈ rest, (draft.addLinks [link]).Admits other :=
      fun other member => admitted other (List.mem_cons_of_mem _ member)
    have after := ih (draft.addLinks [link]) distinct later
    rw [List.foldl_cons, here, after, addLinks_addLinks, List.singleton_append]

end Linking

end Draft

/-! ## One edge for each pair -/

/-- The links that are the first to join their two different nodes, after those kept already. -/
def linksOnce (kept : List Link) : List Link → List Link
  | [] => []
  | link :: rest =>
    if link.target = link.source ∨ ∃ old ∈ kept, old.Joins link.source link.target then
      linksOnce kept rest
    else link :: linksOnce (kept ++ [link]) rest

theorem linksOnce_sublist (kept links : List Link) : (linksOnce kept links).Sublist links := by
  induction links generalizing kept with
  | nil => exact List.Sublist.slnil
  | cons link rest ih =>
    unfold linksOnce
    split
    · exact (ih kept).cons link
    · exact (ih _).cons_cons link

/-- A link that is kept joins two different nodes that none of the earlier ones joins. -/
theorem fresh_of_mem_linksOnce {kept links : List Link} {link : Link}
    (member : link ∈ linksOnce kept links) :
    link.target ≠ link.source ∧ ∀ old ∈ kept, ¬ old.Joins link.source link.target := by
  induction links generalizing kept with
  | nil => cases member
  | cons first rest ih =>
    unfold linksOnce at member
    split at member
    · exact ih member
    · rename_i unjoined
      rw [not_or] at unjoined
      rcases List.mem_cons.1 member with rfl | member
      · exact ⟨unjoined.1, fun old known joined => unjoined.2 ⟨old, known, joined⟩⟩
      · obtain ⟨differ, fresh⟩ := ih member
        exact ⟨differ, fun old known => fresh old (List.mem_append_left _ known)⟩

/-- No two of the links that are kept join the same nodes. -/
theorem pairwise_linksOnce (kept links : List Link) :
    (linksOnce kept links).Pairwise fun old new => ¬ old.Joins new.source new.target := by
  induction links generalizing kept with
  | nil => exact List.Pairwise.nil
  | cons link rest ih =>
    unfold linksOnce
    split
    · exact ih kept
    · refine List.Pairwise.cons (fun new member => ?_) (ih _)
      exact (fresh_of_mem_linksOnce member).2 link (by simp)

/-- Every link between different nodes finds them joined in the end. -/
theorem joined_of_mem (kept : List Link) {links : List Link} {link : Link} (member : link ∈ links)
    (differ : link.target ≠ link.source) :
    ∃ one ∈ kept ++ linksOnce kept links, one.Joins link.source link.target := by
  induction links generalizing kept with
  | nil => cases member
  | cons first rest ih =>
    unfold linksOnce
    rcases List.mem_cons.1 member with rfl | member
    · split
      · rename_i known
        obtain ⟨old, inside, joined⟩ := known.resolve_left differ
        exact ⟨old, List.mem_append_left _ inside, joined⟩
      · exact ⟨link, by simp, Or.inl ⟨rfl, rfl⟩⟩
    · split
      · exact ih kept member
      · obtain ⟨one, inside, joined⟩ := ih (kept ++ [first]) member
        exact ⟨one, by simpa using inside, joined⟩

/-! ## Following references -/

/-- A reference to another entry: what is found where it leads nowhere, else what it links. -/
abbrev Reference := Finding ⊕ Link

namespace Draft

/-- Follows one symmetric reference. -/
def follow (draft : Draft) : Reference → Draft
  | .inl finding => draft.report [finding]
  | .inr link =>
    if link.target = link.source ∨
        draft.areJoined link.kind.type link.source link.target = true then draft
    else draft.link link.source link.target link.kind

variable {draft : Draft} {type : EdgeType}

/-- Where a draft has no edges of a kind, two nodes are joined by the edges added since. -/
theorem areJoined_addLinks (none : ∀ edge ∈ draft.edges, edge.type ≠ type) {kept : List Link}
    (kinds : ∀ link ∈ kept, link.kind.type = type) (a b : ElementId) :
    (draft.addLinks kept).areJoined type a b = true ↔ ∃ old ∈ kept, old.Joins a b := by
  simp only [areJoined, addLinks, List.any_append, Bool.or_eq_true, List.any_eq_true,
    Bool.and_eq_true, decide_eq_true_eq, Edge.joins]
  constructor
  · rintro (⟨edge, member, typed, -⟩ | ⟨edge, member, -, joined⟩)
    · exact absurd typed (none edge member)
    · exact ⟨edge.link, link_mem_of_mem_numberedEdges member, joined⟩
  · rintro ⟨old, member, joined⟩
    have listed : old ∈ (numberedEdges draft.edges.length kept).map Edge.link := by
      rwa [map_link_numberedEdges]
    obtain ⟨edge, inside, rfl⟩ := List.mem_map.1 listed
    exact Or.inr ⟨edge, inside, kinds edge.link member, joined⟩

/-- **Each pair is joined once.** Following references to nodes that may be linked makes an edge of
each first one, and reports those that lead nowhere. -/
theorem foldl_follow (distinct : (draft.nodes.map Node.id).Nodup)
    (none : ∀ edge ∈ draft.edges, edge.type ≠ type) {references : List Reference}
    (kinds : ∀ link, .inr link ∈ references → link.kind.type = type)
    (admitted : ∀ link, .inr link ∈ references → link.target ≠ link.source → draft.Admits link) :
    references.foldl follow draft =
      (draft.addLinks (linksOnce [] (references.filterMap Sum.getRight?))).report
        (references.filterMap Sum.getLeft?) := by
  suffices general : ∀ (findings : List Finding) (kept : List Link),
      (∀ link ∈ kept, link.kind.type = type) →
      references.foldl follow ((draft.addLinks kept).report findings) =
        (draft.addLinks (kept ++ linksOnce kept (references.filterMap Sum.getRight?))).report
          (findings ++ references.filterMap Sum.getLeft?) by
    have whole := general [] [] (by simp)
    simpa [report] using whole
  induction references with
  | nil =>
    intro findings kept _
    simp [linksOnce]
  | cons reference rest ih =>
    have ih := ih (fun link member => kinds link (List.mem_cons_of_mem _ member))
      (fun link member => admitted link (List.mem_cons_of_mem _ member))
    intro findings kept known
    cases reference with
    | inl finding =>
      have step : follow ((draft.addLinks kept).report findings) (.inl finding) =
          (draft.addLinks kept).report (findings ++ [finding]) := by
        simp [follow, report]
      rw [List.foldl_cons, step, ih _ _ known, List.filterMap_cons_none (f := Sum.getRight?) rfl,
        List.filterMap_cons_some (f := Sum.getLeft?) rfl, List.append_assoc, List.singleton_append]
    | inr link =>
      have typed : link.kind.type = type := kinds link (List.mem_cons_self ..)
      have joined : ((draft.addLinks kept).report findings).areJoined link.kind.type link.source
          link.target = true ↔ ∃ old ∈ kept, old.Joins link.source link.target :=
        typed ▸ areJoined_addLinks none known link.source link.target
      rw [List.foldl_cons, List.filterMap_cons_some (f := Sum.getRight?) rfl,
        List.filterMap_cons_none (f := Sum.getLeft?) rfl, linksOnce, follow]
      by_cases skipped : link.target = link.source ∨
          ∃ old ∈ kept, old.Joins link.source link.target
      · rw [if_pos (skipped.imp_right joined.2), if_pos skipped, ih _ _ known]
      · have admits : ((draft.addLinks kept).report findings).Admits link :=
          admitted link (List.mem_cons_self ..) fun same => skipped (Or.inl same)
        have step : ((draft.addLinks kept).report findings).link link.source link.target link.kind =
            (draft.addLinks (kept ++ [link])).report findings := by
          rw [link_of_admits ((draft.addLinks kept).report findings) distinct admits,
            ← addLinks_addLinks]
          rfl
        have typedNow : ∀ other ∈ kept ++ [link], other.kind.type = type := by
          intro other member
          rcases List.mem_append.1 member with before | last
          · exact known other before
          · rw [List.mem_singleton.1 last]
            exact typed
        rw [if_neg fun either => skipped (either.imp_right joined.1), if_neg skipped, step,
          ih _ _ typedNow, List.append_assoc, List.singleton_append]

end Draft

end StoryWorld
