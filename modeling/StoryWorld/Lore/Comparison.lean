import StoryWorld.Lore.Import

/-!
# What a lorebook loses in a world

A lorebook is compared with the one that is exported from its own import. Entries are paired by
category and by their place within it. Compared are the fields that are derived from edges:
triggers as sets, spawn tables of characters and events as finite maps, and the names of
sublocations of locations as sets. Every difference is a mismatch, with both sides in a normal
order.
-/

set_option autoImplicit false

namespace StoryWorld

/-- The fields that are compared. -/
inductive DerivedField where
  | triggers
  | canSpawnAt
  | subLocations
  deriving DecidableEq

/-- The key of a compared field. -/
def DerivedField.key : DerivedField → String
  | .triggers => "triggers"
  | .canSpawnAt => "canSpawnAt"
  | .subLocations => "subLocations"

/-- The value of a compared field. -/
inductive DerivedValue where
  | words (texts : List String)
  | chances (table : Table String Float)
  deriving DecidableEq

/-! ## Sameness -/

/-- Whether two lists hold the same texts, whatever their order and repeats. -/
def sameWords (a b : List String) : Bool :=
  a.all (fun text => decide (text ∈ b)) && b.all fun text => decide (text ∈ a)

/-- Whether two tables bind the same keys to the same doubles, whatever their order. -/
def sameChances (a b : Table String Float) : Bool :=
  decide (a.size = b.size) &&
    a.entries.all fun entry => decide (b.get? entry.1 = some entry.2)

/-- Whether two values of a compared field are the same. -/
def DerivedValue.same : DerivedValue → DerivedValue → Bool
  | .words a, .words b => sameWords a b
  | .chances a, .chances b => sameChances a b
  | _, _ => false

/-! ## Texts -/

/-- Whether a text does not come after another one in the order of code points. -/
def notAfter (a b : String) : Bool := !decide (b < a)

/-- Texts between two brackets, with commas. -/
def listed (opening closing : String) (texts : List String) : String :=
  opening ++ ", ".intercalate texts ++ closing

/-- A value of a compared field, as it is shown: sorted, and quoted where it is a text. -/
def DerivedValue.text : DerivedValue → String
  | .words texts =>
    listed Json.openBrace Json.closeBrace (((distinct texts).mergeSort notAfter).map Text.quoted)
  | .chances table =>
    listed "[" "]" ((table.entries.mergeSort fun a b => notAfter a.1 b.1).map fun entry =>
      "(" ++ Text.quoted entry.1 ++ ", " ++ String.ofList (Decimal.Form.plain.render entry.2) ++
        ")")

/-! ## Mismatches -/

/-- A field of an entry that has changed. -/
structure Mismatch where
  category : Category
  name : String
  field : DerivedField
  expected : DerivedValue
  found : DerivedValue
  deriving DecidableEq

/-- The wording of a mismatch. -/
def Mismatch.message (mismatch : Mismatch) : String :=
  mismatch.category.name ++ " '" ++ mismatch.name ++ "': " ++ mismatch.field.key ++ " expected " ++
    mismatch.expected.text ++ " but compiled to " ++ mismatch.found.text

/-- The compared fields of an entry with their values, in order. -/
def Entry.derived (category : Category) (entry : Entry) : List (DerivedField × DerivedValue) :=
  [(.triggers, .words entry.triggers)] ++
    if category = .location then [(.subLocations, .words entry.sublocationNames)]
    else [(.canSpawnAt, .chances entry.spawnTable)]

/-- The fields of an entry that are not the same in its counterpart. -/
def Entry.mismatches (entry counterpart : Entry) : List Mismatch :=
  ((entry.derived entry.category).zip (counterpart.derived entry.category)).filterMap fun pair =>
    if pair.1.2.same pair.2.2 then none
    else some ⟨entry.category, entry.name, pair.1.1, pair.1.2, pair.2.2⟩

/-- The entries of one category. -/
def ofCategory (category : Category) (entries : List Entry) : List Entry :=
  entries.filter fun entry => decide (entry.category = category)

/-- The mismatches between two lorebooks, category by category. -/
def mismatchesBetween (given exported : List Entry) : List Mismatch :=
  [Category.location, .character, .event].flatMap fun category =>
    ((ofCategory category given).zip (ofCategory category exported)).flatMap fun pair =>
      pair.1.mismatches pair.2

/-- What a comparison finds: the mismatches, and what the import reports. -/
structure Comparison where
  mismatches : List Mismatch
  report : Report
  deriving DecidableEq

/-- Whether nothing has changed. -/
def Comparison.isConsistent (comparison : Comparison) : Bool := comparison.mismatches.isEmpty

/-- Compares a lorebook with the one exported from its import. -/
def compareRoundTrip (config : Config) (document : Json) : Except ImportError Comparison := do
  let parsed ← readEntries document
  let given := parsed.items.map Prod.snd
  let outcome ← importEntries config given
  return {
    mismatches := mismatchesBetween given outcome.world.entries
    report := ⟨parsed.findings ++ outcome.report.findings⟩ }

end StoryWorld
