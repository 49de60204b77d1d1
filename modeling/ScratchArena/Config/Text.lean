import ScratchArena.Config.Basic
import ScratchArena.Toml.Library

/-! # Configuration text — reading and writing

    Two sections, one for the arena and one for the log, and a library that
    knows TOML.  Fields are asked for by position and by name, unknown ones
    are ignored and missing ones have defaults; a value of the wrong kind
    anywhere is reported before settings that cannot work. -/

namespace ScratchArena

open Toml

/-- What a program is built with. -/
structure Build where
  /-- The library for TOML. -/
  toml : Library
  /-- Assertions are checked. -/
  assertions : Bool

/-- A field of some kind, with what holds when it is missing. -/
def Toml.Library.field {α : Type} (lib : Library) (fields : lib.Fields)
    (read : lib.Value → Except String α) (i : Nat) (name : String) (missing : α) :
    Except String α :=
  match fields i name with
  | some v => read v
  | none => .ok missing

namespace Settings

/-- The arena settings in a section. -/
def ofFields (b : Build) (fields : b.toml.Fields) : Except String Settings := do
  let missing := Settings.standard b.assertions
  let reserve ← b.toml.field fields b.toml.size 0 "reserve" missing.reserve
  let spare ← b.toml.field fields b.toml.size 1 "spare" missing.spare
  let maxSize ← b.toml.field fields b.toml.size 2 "max_size" missing.maxSize
  let poison ← b.toml.field fields b.toml.truth 3 "poison" missing.poison
  return { reserve, spare, maxSize, poison }

/-- The section for arena settings. -/
def toSection (s : Settings) : List (String × Simple) :=
  [("reserve", .integer s.reserve), ("spare", .integer s.spare),
    ("max_size", .integer s.maxSize), ("poison", .truth s.poison)]

end Settings

namespace LogSettings

/-- The log settings in a section. -/
def ofFields (b : Build) (fields : b.toml.Fields) : Except String LogSettings := do
  let text (v : b.toml.Value) : Except String (Option String) := do
    return some (← b.toml.text v)
  let level ← b.toml.field fields text 0 "level" none
  let file ← b.toml.field fields text 1 "file" none
  let json ← b.toml.field fields b.toml.truth 2 "json" false
  let spans ← b.toml.field fields b.toml.truth 3 "spans" false
  return { level, file, json, spans }

/-- The section for log settings; a text that is missing is left out. -/
def toSection (s : LogSettings) : List (String × Simple) :=
  (s.level.map fun level => ("level", Simple.text level)).toList
    ++ (s.file.map fun file => ("file", Simple.text file)).toList
    ++ [("json", .truth s.json), ("spans", .truth s.spans)]

end LogSettings

namespace Config

/-- The configuration in the fields of a whole text. -/
def ofFields (b : Build) (fields : b.toml.Fields) : Except String Config := do
  let arena ← b.toml.field fields (fun v => b.toml.fields v >>= Settings.ofFields b) 0 "arena"
    (.standard b.assertions)
  let log ← b.toml.field fields (fun v => b.toml.fields v >>= LogSettings.ofFields b) 1 "log" {}
  return { arena, log }

/-- What a text describes, whether it can work or not. -/
def decode (b : Build) (text : String) : Except String Config := do
  let root ← b.toml.parse text
  let fields ← b.toml.fields root
  ofFields b fields

/-- The configuration in a text, if its settings can work. -/
def parse (b : Build) (text : String) : Except ConfigFailure Config :=
  match decode b text with
  | .error reason => .error (.malformed reason)
  | .ok config =>
      match config.arena.validate with
      | .error e => .error e
      | .ok _ => .ok config

/-- The text of a configuration, whether it can work or not. -/
def write (lib : Library) (c : Config) : Except WriteFault String :=
  lib.write [("arena", c.arena.toSection), ("log", c.log.toSection)]

end Config

end ScratchArena
