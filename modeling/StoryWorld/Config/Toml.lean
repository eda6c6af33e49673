import StoryWorld.Config.Basic
import StoryWorld.Toml.Parser

/-!
# Configurations from TOML

A configuration is read from a TOML document. Every field has a default, and keys that are not
known are left alone. A record may also be given as an array of its fields in order; items beyond
them are left alone as well. Integers stand for doubles, and doubles need not be finite.
-/

set_option autoImplicit false

namespace StoryWorld

namespace Toml

/-- A double, or an integer that stands for one. -/
def double? : Toml → Option Float
  | .float x => some x
  | .integer n => some (Float.ofInt n)
  | _ => none

/-- The values of the fields of a record, by place and key, if the value can be a record. A date has
fields of its own, none of which is known. -/
def record? : Toml → Option (Nat → String → Option Toml)
  | .table _ entries => some fun _ key => entries.lookup key
  | .array items => some fun index _ => items[index]?
  | .tables latestFirst => some fun index _ => latestFirst.reverse[index]?
  | .moment => some fun _ _ => none
  | _ => none

/-- Reads a value that is there, and takes the default for one that is not. -/
def orDefault {α : Type} (default : α) (read : Toml → Option α) : Option Toml → Option α
  | some value => read value
  | none => some default

end Toml

/-- Reads a place; both coordinates have to be there. -/
def Position.ofToml? (value : Toml) : Option Position := do
  let field ← value.record?
  return ⟨← (← field 0 "x").double?, ← (← field 1 "y").double?⟩

/-- Reads the settings of a world. -/
def GraphSettings.ofToml? (value : Toml) : Option GraphSettings := do
  let field ← value.record?
  let standard : GraphSettings := {}
  let double (index : Nat) (key : String) (default : Float) : Option Float :=
    Toml.orDefault default Toml.double? (field index key)
  return {
    defaultSpawnProbability :=
      ← double 0 "default_spawn_probability" standard.defaultSpawnProbability
    defaultGlobalSpawnChance :=
      ← double 1 "default_global_spawn_chance" standard.defaultGlobalSpawnChance
    nodeOrigin := ← Toml.orDefault standard.nodeOrigin Position.ofToml? (field 2 "node_origin")
    nodeStagger := ← double 3 "node_stagger" standard.nodeStagger
    sublocationSpacing := ← double 4 "sublocation_spacing" standard.sublocationSpacing
    sublocationDrop := ← double 5 "sublocation_drop" standard.sublocationDrop }

/-- Reads the layout of imports. -/
def LayoutSettings.ofToml? (value : Toml) : Option LayoutSettings := do
  let field ← value.record?
  let standard : LayoutSettings := {}
  return {
    gridOrigin := ← Toml.orDefault standard.gridOrigin Position.ofToml? (field 0 "grid_origin")
    columnSpacing := ← Toml.orDefault standard.columnSpacing Toml.double? (field 1 "column_spacing")
    rowSpacing := ← Toml.orDefault standard.rowSpacing Toml.double? (field 2 "row_spacing") }

/-- Reads a configuration from a TOML value. -/
def Config.ofToml? (value : Toml) : Option Config := do
  let field ← value.record?
  return {
    graph := ← Toml.orDefault {} GraphSettings.ofToml? (field 0 "graph")
    layout := ← Toml.orDefault {} LayoutSettings.ofToml? (field 1 "layout") }

/-- Reads the text of a configuration. -/
def Config.parse (text : String) : Option Config := do
  Config.ofToml? (← Toml.parse text)

end StoryWorld
