import ScratchArena.Arena.Failure
import ScratchArena.Arena.Settings
import ScratchArena.Log.Config

/-! # Configuration — arena and log settings together -/

namespace ScratchArena

/-- What a configuration says about the log. -/
structure LogSettings where
  /-- The name of a level. -/
  level : Option String := none
  /-- The file to log to. -/
  file : Option String := none
  /-- Write objects instead of text. -/
  json : Bool := false
  /-- Report when spans are entered and closed. -/
  spans : Bool := false
deriving DecidableEq, Repr

/-- A configuration. -/
structure Config where
  arena : Settings
  log : LogSettings := {}
deriving DecidableEq, Repr

/-- The configuration of a program that finds none. -/
def Config.standard (assertions : Bool) : Config where
  arena := .standard assertions

/-- Why a configuration could not be had. -/
inductive ConfigFailure where
  /-- The file could not be read. -/
  | unreadable (reason : String)
  /-- The text is not well formed, or a value in it has the wrong kind. -/
  | malformed (reason : String)
  /-- The settings cannot work. -/
  | invalid (reason : String)
deriving DecidableEq, Repr

namespace ConfigFailure

/-- The failure in words. -/
def message : ConfigFailure → String
  | .unreadable reason => "Failed to read config: " ++ reason
  | .malformed reason => "Failed to parse config: " ++ reason
  | .invalid reason => "Invalid config: " ++ reason

/-- What lies behind the failure, when it has a cause of its own. -/
def cause? : ConfigFailure → Option String
  | .unreadable reason => some reason
  | .malformed reason => some reason
  | .invalid _ => none

/-- The failure as one to make an arena. -/
def toFailure : ConfigFailure → Failure
  | .invalid reason => .invalidSettings reason
  | other => .invalidSettings other.message

end ConfigFailure

/-- The check of arena settings, as a failure to configure. -/
def Settings.validate (s : Settings) : Except ConfigFailure Unit :=
  match s.flaw? with
  | some flaw => .error (.invalid flaw.reason)
  | none => .ok ()

/-- The log configuration the settings ask for; the level has to be a
    known one. -/
def LogSettings.toLogConfig (s : LogSettings) : Except ConfigFailure LogConfig :=
  match s.level with
  | none => .ok { file := s.file, json := s.json, spans := s.spans }
  | some name =>
      match Level.ofName? name with
      | some level => .ok { level, file := s.file, json := s.json, spans := s.spans }
      | none => .error (.invalid ("unknown log level '" ++ name ++ "'"))

end ScratchArena
