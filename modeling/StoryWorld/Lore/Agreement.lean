import StoryWorld.Lore.Entry

/-!
# Agreement of entries

Two entries agree when they say the same, whatever the order in which their tables and objects list
their keys. Doubles agree when they are equal as numbers: the two zeros do, and what is not a number
agrees with nothing.
-/

set_option autoImplicit false

namespace StoryWorld

/-- Whether two tables bind the same keys to agreeing values. -/
def Table.agrees {α : Type} (same : α → α → Bool) (a b : Table String α) : Bool :=
  decide (a.size = b.size) &&
    a.entries.all fun entry =>
      match b.get? entry.1 with
      | some value => same entry.2 value
      | none => false

namespace Json

mutual
/-- Whether two values agree. -/
def agrees : Json → Json → Bool
  | .null, .null => true
  | .boolean a, .boolean b => a == b
  | .integer a, .integer b => a == b
  | .double a _, .double b _ => a == b
  | .string a, .string b => a == b
  | .array as, .array bs => itemsAgree as bs
  | .object as, .object bs => decide (as.length = bs.length) && membersAgree as bs
  | _, _ => false

/-- Whether two lists hold agreeing values in the same order. -/
def itemsAgree : List Json → List Json → Bool
  | [], [] => true
  | a :: as, b :: bs => agrees a b && itemsAgree as bs
  | _, _ => false

/-- Whether every member of one object has an agreeing one in another. -/
def membersAgree : List (String × Json) → List (String × Json) → Bool
  | [], _ => true
  | (key, a) :: as, bs =>
    (match bs.lookup key with
      | some b => agrees a b
      | none => false) && membersAgree as bs
end

end Json

/-- Whether two optional values are both absent or agree. -/
def optionsAgree {α : Type} (same : α → α → Bool) : Option α → Option α → Bool
  | none, none => true
  | some a, some b => same a b
  | _, _ => false

/-- Whether two collections of images are the same up to order. -/
def Images.agrees (a b : Images) : Bool := Table.agrees (fun x y => decide (x = y)) a b

/-- Whether two filters are the same up to order. -/
def Filters.agrees (a b : Filters) : Bool :=
  decide (a.requiresAny = b.requiresAny) && Table.agrees Json.agrees a.other b.other

/-- Whether two entries agree. -/
def Entry.agrees (a b : Entry) : Bool :=
  decide (a.keywords = b.keywords) && decide (a.category = b.category) &&
    decide (a.name = b.name) && decide (a.content = b.content) &&
    decide (a.contentShort = b.contentShort) && decide (a.triggers = b.triggers) &&
    optionsAgree (Table.agrees fun x y => x == y) a.canSpawnAt b.canSpawnAt &&
    decide (a.timeFilter = b.timeFilter) && a.images.agrees b.images &&
    a.filters.agrees b.filters && decide (a.disabledFor = b.disabledFor) &&
    decide (a.enabled = b.enabled) &&
    optionsAgree (Table.agrees fun x y => x.images.agrees y.images) a.subLocations
      b.subLocations &&
    optionsAgree (Table.agrees fun x y => decide (x = y)) a.knows b.knows

/-- Whether two lorebooks agree entry by entry. -/
def entriesAgree : List Entry → List Entry → Bool
  | [], [] => true
  | a :: as, b :: bs => a.agrees b && entriesAgree as bs
  | _, _ => false

end StoryWorld
