import StoryWorld.Graph.Reading
import StoryWorld.Graph.Writing
import StoryWorld.Lore.Layout

/-!
# Configuration

The settings of a world together with the layout of imports. Every field has a default, so that
nothing at all is a configuration.
-/

set_option autoImplicit false

namespace StoryWorld

open Json

/-- Settings for worlds and for their import. -/
structure Config where
  graph : GraphSettings := {}
  layout : LayoutSettings := {}
  deriving DecidableEq

/-- The fields of a layout. -/
def LayoutSettings.fields : Fields LayoutSettings :=
  let standard : LayoutSettings := {}
  LayoutSettings.mk <$> .withDefault "grid_origin" standard.gridOrigin Position.read
    <*> .withDefault "column_spacing" standard.columnSpacing Reader.double
    <*> .withDefault "row_spacing" standard.rowSpacing Reader.double

/-- Reads a layout. -/
def LayoutSettings.read : Reader LayoutSettings :=
  LayoutSettings.fields.reader "struct LayoutSettings"

/-- The fields of a configuration. -/
def Config.fields : Fields Config :=
  Config.mk <$> .withDefault "graph" {} GraphSettings.read
    <*> .withDefault "layout" {} LayoutSettings.read

/-- Reads a configuration. -/
def Config.read : Reader Config := Config.fields.reader "struct LorebookConfig"

/-- The written form of a layout. -/
def LayoutSettings.toJson (layout : LayoutSettings) : Json :=
  .object [("grid_origin", layout.gridOrigin.toJson),
    ("column_spacing", .ofFloat layout.columnSpacing), ("row_spacing", .ofFloat layout.rowSpacing)]

/-- The written form of a configuration. -/
def Config.toJson (config : Config) : Json :=
  .object [("graph", config.graph.toJson), ("layout", config.layout.toJson)]

end StoryWorld
