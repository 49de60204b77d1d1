import ScratchArena.Log.Level

/-! # Log configuration — where lines go and what they look like -/

namespace ScratchArena

/-- How a process logs. -/
structure LogConfig where
  /-- The least severe level that is logged. -/
  level : Level := .info
  /-- The file to log to; standard error without one. -/
  file : Option String := none
  /-- Write objects instead of text. -/
  json : Bool := false
  /-- Report when spans are entered and closed. -/
  spans : Bool := false
deriving DecidableEq, Repr

/-- The variables of a process, by name; values are bytes. -/
abbrev Environment := List (String × List UInt8)

/-- The text of a variable; one that is no text counts as unset. -/
def Environment.text? (env : Environment) (name : String) : Option String :=
  (env.lookup name).bind fun bytes => String.fromUTF8? ⟨bytes.toArray⟩

namespace LogConfig

/-- For watching every allocation. -/
def verbose : LogConfig := { level := .trace, spans := true }

/-- The same with another level. -/
def withLevel (c : LogConfig) (level : Level) : LogConfig := { c with level }

/-- The same with a file to log to. -/
def withFile (c : LogConfig) (file : String) : LogConfig := { c with file := some file }

/-- What the environment asks for; a level that is unknown is no reason to
    log nothing. -/
def ofEnvironment (env : Environment) : LogConfig where
  level := ((env.text? "STORED_ARENA_LOG_LEVEL").bind Level.ofName?).getD .info
  file := env.text? "STORED_ARENA_LOG_FILE"
  json := (env.text? "STORED_ARENA_LOG_JSON").isSome
  spans := (env.text? "STORED_ARENA_LOG_SPANS").isSome

end LogConfig

end ScratchArena
