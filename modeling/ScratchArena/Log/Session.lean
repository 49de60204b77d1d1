import ScratchArena.Config.Basic
import ScratchArena.Files.Tree
import ScratchArena.Log.Filter
import ScratchArena.Log.Line

/-! # Log sessions — setting up logging in a process

    Only the first set-up counts, unless it breaks off: because its level
    is unknown, because the filter of the environment cannot even be
    refused, or because its file cannot be opened.  A log file without a
    directory goes where the process stands, one without a name gets a
    name, and missing directories are made.  When something else already
    receives the process's records, a set-up still counts but nothing
    reaches it. -/

namespace ScratchArena.Log

open Files

/-- Where lines go. -/
inductive Sink where
  | standardError
  | file (location : Location)
deriving DecidableEq, Repr

/-- What receives the records of a process. -/
structure Logger where
  filter : Filter
  json : Bool
  sink : Sink

/-- The logging side of a process. -/
structure Session where
  tree : Tree
  cwd : Location
  environment : Environment
  /-- A set-up has counted. -/
  initialized : Bool := false
  /-- Something receives the records of the process already. -/
  taken : Bool := false
  logger : Option Logger := none

/-- A way to set logging up. -/
inductive Setup where
  /-- As the environment says. -/
  | environment
  /-- As settings say. -/
  | settings (settings : LogSettings)
  /-- Something else is to receive the records, and to drop them. -/
  | foreign

/-- What a set-up answers: the configuration it asked for, and whether one
    had counted before and after, unless it breaks off. -/
inductive SetupReply where
  | asked (config : LogConfig) (before after : Bool)
  | brokeOff (after : Bool)

namespace Session

/-- Name of a log file without one. -/
def defaultFileName : String := "stored_arena.log"

/-- The target that all others begin with. -/
def rootTarget : String := "stored_arena"

/-- The filter in force: the environment's if it has a well-formed one;
    nothing when reading that breaks off. -/
def filterFor? (s : Session) (level : Level) : Option Filter :=
  match (s.environment.text? "RUST_LOG").map Filter.parse with
  | some (.ok filter) => some filter
  | some (.error .splitCharacter) => none
  | _ => some (.upTo rootTarget level)

/-- The sink of a configuration, its file opened; no sink when the file
    cannot be opened. -/
def openSink (s : Session) (config : LogConfig) : Tree × Option Sink :=
  match config.file with
  | none => (s.tree, some .standardError)
  | some file =>
      let path := Path.ofString file
      let parent := path.parent?.getD .empty
      let directory := if parent = .empty then ⟨false, [.here]⟩ else parent
      match s.tree.openToAppend s.cwd directory (path.fileName?.getD defaultFileName) with
      | (tree, location) => (tree, location.map .file)

/-- Set logging up with a configuration. -/
def start (s : Session) (config : LogConfig) : SetupReply × Session :=
  if s.initialized then (.asked config true true, s)
  else
    match s.filterFor? config.level with
    | none => (.brokeOff false, s)
    | some filter =>
        match s.openSink config with
        | (tree, none) => (.brokeOff false, { s with tree })
        | (tree, some sink) =>
            (.asked config false true,
              { s with tree, initialized := true, taken := true,
                       logger := if s.taken then s.logger
                                 else some ⟨filter, config.json, sink⟩ })

/-- Set logging up once. -/
def setUp (s : Session) : Setup → SetupReply × Session
  | .environment => s.start (.ofEnvironment s.environment)
  | .settings settings =>
      match settings.toLogConfig with
      | .ok config => s.start config
      | .error _ => (.brokeOff s.initialized, s)
  | .foreign => (.asked {} s.initialized s.initialized, { s with taken := true })

/-- Set logging up several times. -/
def setUpAll (s : Session) : List Setup → List SetupReply × Session
  | [] => ([], s)
  | first :: rest =>
      let (reply, s) := s.setUp first
      let (replies, s) := s.setUpAll rest
      (reply :: replies, s)

/-- The records that reach the sink. -/
def received (s : Session) (events : List Event) : List Record :=
  match s.logger with
  | none => []
  | some logger => (events.map Event.record).filter logger.filter.allows

/-- What a process has logged. -/
structure Output where
  /-- The records are written as objects. -/
  json : Bool
  toError : List Record
  /-- The log file and what is in it, if there is one. -/
  toFile : Option (Location × List Record)

/-- The records in the file at a location. -/
def Output.inFile (o : Output) (l : Location) : List Record :=
  match o.toFile with
  | some (file, records) => if file = l then records else []
  | none => []

/-- What a process has logged after some events. -/
def output (s : Session) (events : List Event) : Output :=
  match s.logger with
  | none => ⟨false, [], none⟩
  | some logger =>
      match logger.sink with
      | .standardError => ⟨logger.json, s.received events, none⟩
      | .file l => ⟨logger.json, [], some (l, s.received events)⟩

end Session

end ScratchArena.Log
