import StoryWorld.Graph.Node

/-!
# Settings of a world

What new elements of a world are given when nothing else is said about them.
-/

set_option autoImplicit false

namespace StoryWorld

/-- Defaults for new nodes and edges. -/
structure GraphSettings where
  /-- The probability of new spawn edges. -/
  defaultSpawnProbability : Float := 0.1
  /-- The chance of new events to happen when they may happen anywhere. -/
  defaultGlobalSpawnChance : Float := 0.1
  /-- The place of the first node that is given none. -/
  nodeOrigin : Position := ⟨300, 200⟩
  /-- The step to the right and down between nodes that are given no place. -/
  nodeStagger : Float := 20
  /-- The horizontal distance between sublocations of one location. -/
  sublocationSpacing : Float := 50
  /-- How far sublocations lie below their location. -/
  sublocationDrop : Float := 20
  deriving DecidableEq

end StoryWorld
