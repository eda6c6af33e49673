import StoryWorld.Proofs.Lore.ImportedWords
import StoryWorld.Proofs.Lore.SecondExport

/-!
# One import is enough

Entries may refer to each other in many ways: from one side only, in any letters, by any keyword, to
nothing. An import changes the lorebook where they do, since its edges say the same from both sides
and under first keywords. But it does so once. Where no words collide, the entries of the imported
world import without a finding, and come out alike (`Entry.Alike`): as they were field by field, and
with the same relations.

For the imported world is valid, keeps to the rules of connection, and has unambiguous words, and
the entries of such a world come back as `Reimport` says. Of the fields that do not refer to others
only the name of an event could still change, and in an imported world every event has one.

The main statement is `importEntries_normalises`.
-/

set_option autoImplicit false

namespace StoryWorld

/-- Two entries say the same of what they are about. -/
structure Entry.SameFields (entry other : Entry) : Prop where
  keywords : entry.keywords = other.keywords
  name : entry.name = other.name
  content : entry.content = other.content
  contentShort : entry.contentShort = other.contentShort
  timeFilter : entry.timeFilter = other.timeFilter
  images : entry.images = other.images
  filters : entry.filters = other.filters
  disabledFor : entry.disabledFor = other.disabledFor
  enabled : entry.enabled = other.enabled

/-- Two entries differ in nothing but the order of their triggers and tables. -/
structure Entry.Alike (entry other : Entry) : Prop where
  fields : entry.SameFields other
  relations : entry.SameRelations other

/-! ## Entries of copies -/

namespace Node.CarriedTo

variable {settings : GraphSettings} {rename : ElementId → ElementId} {node copy : Node}
  (carried : node.CarriedTo settings rename copy) (world other : Snapshot)

include carried

theorem sameFields_locationEntry (typed : node.type = .location) :
    (world.locationEntry node).SameFields (other.locationEntry copy) := by
  have whole := carried.trans (Node.carried_location _ _ _ (Node.kind_of_location typed))
  exact {
    keywords := (congrArg Node.keywords whole).symm
    name := (congrArg Node.name whole).symm
    content := (congrArg Node.content whole).symm
    contentShort := (congrArg (fun node => node.contentShort.getD "") whole).symm
    timeFilter := rfl
    images := ((congrArg Images.cleaned carried.images_eq).trans node.images.cleaned_cleaned).symm
    filters := (congrArg Node.filters whole).symm
    disabledFor := rfl
    enabled := rfl }

theorem sameFields_characterEntry (typed : node.type = .character) :
    (world.characterEntry node).SameFields (other.characterEntry copy) := by
  obtain ⟨disabledFor, kind⟩ := Node.kind_of_character typed
  have whole := carried.trans (Node.carried_character _ _ _ kind)
  have copyKind : copy.kind = .character disabledFor := congrArg Node.kind whole
  exact {
    keywords := (congrArg Node.keywords whole).symm
    name := (congrArg Node.name whole).symm
    content := (congrArg Node.content whole).symm
    contentShort := (congrArg (fun node => node.contentShort.getD "") whole).symm
    timeFilter := rfl
    images := ((congrArg Images.cleaned carried.images_eq).trans node.images.cleaned_cleaned).symm
    filters := (congrArg Node.filters whole).symm
    disabledFor := by simp only [Snapshot.characterEntry, kind, copyKind]
    enabled := rfl }

/-- An event keeps its name if it has one. -/
theorem sameFields_eventEntry (typed : node.type = .event) (named : node.name ≠ "") :
    (world.eventEntry node).SameFields (other.eventEntry copy) := by
  obtain ⟨timeFilter, isGlobal, chance, kind⟩ := Node.kind_of_event typed
  have whole := carried.trans (Node.carried_event _ _ _ kind)
  have copyKind : copy.kind = .event timeFilter isGlobal _ := congrArg Node.kind whole
  exact {
    keywords := (congrArg Node.keywords whole).symm
    name := ((congrArg Node.name whole).trans (if_neg named)).symm
    content := (congrArg Node.content whole).symm
    contentShort := rfl
    timeFilter := by simp only [Snapshot.eventEntry, kind, copyKind]
    images := ((congrArg Images.cleaned carried.images_eq).trans node.images.cleaned_cleaned).symm
    filters := (congrArg Node.filters whole).symm
    disabledFor := rfl
    enabled := rfl }

end Node.CarriedTo

/-- Where every event has a name, the entries of the imported world are like those that it was
imported from, one by one. -/
theorem Snapshot.Reimport.forall₂_alike {world : Snapshot} {config : Config} {last : Draft}
    (again : world.Reimport config last)
    (named : ∀ event ∈ world.nodesOf .event, event.name ≠ "") :
    List.Forall₂ Entry.Alike world.entries last.outcome.world.entries := by
  refine again.forall₂_entries (fun node member copy carried => ⟨?_, ?_⟩)
    (fun node member copy carried => ⟨?_, ?_⟩) fun node member copy carried => ⟨?_, ?_⟩
  · exact carried.sameFields_locationEntry _ _ (mem_nodesOf.1 member).2
  · exact again.locationEntry_copy member carried
  · exact carried.sameFields_characterEntry _ _ (mem_nodesOf.1 member).2
  · exact again.characterEntry_copy member carried
  · exact carried.sameFields_eventEntry _ _ (mem_nodesOf.1 member).2 (named node member)
  · exact again.eventEntry_copy member carried

/-! ## The second import -/

/-- **One import normalises a lorebook.** Entries are imported that make fewer nodes and edges than
there are ordinals, and no location or sublocation among them goes by the word for everywhere. If no
words collide, however the entries refer to each other, the entries of the imported world can be
imported without a finding, and the entries of that import are like them, one by one. -/
theorem importEntries_normalises (config : Config) (entries : List Entry)
    (fewNodes : (importDraft config entries).nodes.length < ElementId.maxOrdinal)
    (fewEdges : (importDraft config entries).edges.length < ElementId.maxOrdinal)
    (nowhere : ∀ entry ∈ entries, entry.IsLocation →
      entry.firstKeyword ≠ some anyLocation ∧ anyLocation ∉ entry.sublocationNames) :
    ∃ first, importEntries config entries = .ok first ∧
      (first.report.collisions = [] →
        ∃ second, importEntries config first.world.entries = .ok second ∧
          second.report.findings = [] ∧
          List.Forall₂ Entry.Alike first.world.entries second.world.entries) := by
  have first : importEntries config entries = .ok (importDraft config entries).outcome :=
    Draft.finish_of_le (Nat.le_of_lt fewNodes) (Nat.le_of_lt fewEdges)
  refine ⟨_, first, fun free => ?_⟩
  have whole : Draft.Assembled config entries.length ((List.range entries.length).zip entries)
    (importDraft config entries) [] := Draft.assembled config _ _ []
  have given : ((List.range entries.length).zip entries).map Prod.snd = entries :=
    List.map_snd_zip (by simp)
  have valid : (importDraft config entries).outcome.world.Valid := whole.valid_snapshot
  have clear := whole.unambiguous free (given.symm ▸ nowhere)
  have again := clear.reimport valid whole.typed_outcome config
  have second : importEntries config (importDraft config entries).outcome.world.entries =
      .ok (importDraft config (importDraft config entries).outcome.world.entries).outcome :=
    again.finish_eq fewNodes fewEdges
  refine ⟨_, second, (Draft.findings_outcome _).trans again.findings_eq_nil,
    again.forall₂_alike ?_⟩
  exact fun event member => Draft.name_ne_of_event whole.nodes member

/-- An inn with a trigger for a mill in other letters and one for nothing; Ada, who goes to the inn
under its second keyword and to its taproom, and knows Bob under his second keyword; Bob, who knows
nobody; and an event without a name at a place that is not there. -/
def lopsidedEntries : List Entry :=
  [{ Entry.blank .location "Inn" with
      keywords := ["Inn", "Tavern"], triggers := ["MILL", "moon"] }.withSublocation "Taproom",
    { Entry.blank .location "Mill" with keywords := ["mill"] },
    (({ Entry.blank .character "Ada" with keywords := ["Ada"] }.withAcquaintance "BOB"
      ⟨"friends", "kind"⟩).withSpawn "TAPROOM" 0.5).withSpawn "tavern" 0.25,
    { Entry.blank .character "Bob" with keywords := ["Robert", "Bob"] },
    (Entry.blank .event "").withSpawn "castle" 1]

theorem lopsidedEntries_normalise :
    (importDraft {} lopsidedEntries).nodes.length < ElementId.maxOrdinal ∧
      (importDraft {} lopsidedEntries).edges.length < ElementId.maxOrdinal ∧
      (∀ entry ∈ lopsidedEntries, entry.IsLocation →
        entry.firstKeyword ≠ some anyLocation ∧ anyLocation ∉ entry.sublocationNames) ∧
      ∃ first, importEntries {} lopsidedEntries = .ok first ∧ first.report.collisions = [] ∧
        ∃ second, importEntries {} first.world.entries = .ok second ∧
          second.report.findings = [] ∧
          List.Forall₂ Entry.Alike first.world.entries second.world.entries := by
  have fewNodes : (importDraft {} lopsidedEntries).nodes.length < ElementId.maxOrdinal := by
    decide +kernel
  have fewEdges : (importDraft {} lopsidedEntries).edges.length < ElementId.maxOrdinal := by
    decide +kernel
  have nowhere : ∀ entry ∈ lopsidedEntries, entry.IsLocation →
      entry.firstKeyword ≠ some anyLocation ∧ anyLocation ∉ entry.sublocationNames := by
    decide +kernel
  obtain ⟨first, imported, normal⟩ :=
    importEntries_normalises {} lopsidedEntries fewNodes fewEdges nowhere
  have collisions : (importEntries {} lopsidedEntries).map (fun one => one.report.collisions) =
      .ok [] := by
    decide +kernel
  rw [imported] at collisions
  have free : first.report.collisions = [] := Except.ok.inj collisions
  exact ⟨fewNodes, fewEdges, nowhere, first, imported, free, normal free⟩

end StoryWorld
