import StoryWorld.Graph.Settings

/-!
# Places of imported nodes

Imported nodes are laid out on a grid that is about as wide as it is high, one cell for each entry
of the lorebook; sublocations lie in a row below their location.
-/

set_option autoImplicit false

namespace StoryWorld

/-- The grid on which imported nodes are laid out. -/
structure LayoutSettings where
  gridOrigin : Position := ⟨150, 150⟩
  columnSpacing : Float := 200
  rowSpacing : Float := 180
  deriving DecidableEq

/-- The number of columns of a grid: the square root of the number of cells rounded up, and at least
one. -/
def gridColumns (total : Nat) : Nat :=
  let root := (Float.ofNat total).sqrt
  let below := root.toUInt64.toNat
  max 1 (if Float.ofNat below < root then below + 1 else below)

/-- The place of one cell of a grid. -/
def LayoutSettings.gridPosition (layout : LayoutSettings) (index total : Nat) : Position :=
  let columns := gridColumns total
  layout.gridOrigin.offset (Float.ofNat (index % columns) * layout.columnSpacing)
    (Float.ofNat (index / columns) * layout.rowSpacing)

/-- The place of one of several sublocations, in a row centred below their location. -/
def GraphSettings.sublocationPosition (settings : GraphSettings) (parent : Position)
    (index count : Nat) : Position :=
  let centred := Float.ofNat index - Float.ofNat (count - 1) / 2
  parent.offset (centred * settings.sublocationSpacing) settings.sublocationDrop

end StoryWorld
