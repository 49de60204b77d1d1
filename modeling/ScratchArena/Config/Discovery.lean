import ScratchArena.Config.Text
import ScratchArena.Files.Tree

/-! # Discovery — the nearest usable configuration file

    The search starts in a directory and climbs through the parents of its
    path.  A file that is missing, unreadable or no configuration is passed
    over; when none is left, the defaults apply. -/

namespace ScratchArena.Config

open Files

/-- The name of a configuration file. -/
def fileName : String := "stored-arena.toml"

/-- The configuration in the file a path leads to. -/
def load (b : Build) (t : Tree) (cwd : Location) (p : Path) : Except ConfigFailure Config :=
  match t.read cwd p with
  | .error fault => .error (.unreadable fault.message)
  | .ok text => parse b text

/-- The configuration of a directory, if its file is there and usable. -/
def usable? (b : Build) (t : Tree) (cwd : Location) (directory : Path) : Option Config :=
  if t.leadsSomewhere cwd (directory.child fileName) then
    (load b t cwd (directory.child fileName)).toOption
  else none

/-- The configuration of the nearest directory that has a usable one. -/
def discoverFrom (b : Build) (t : Tree) (cwd : Location) (start : Path) : Config :=
  (start.chain.findSome? (usable? b t cwd)).getD (.standard b.assertions)

/-- The configuration for where one stands. -/
def discover (b : Build) (t : Tree) (cwd : Location) : Config :=
  discoverFrom b t cwd ⟨true, cwd.map .into⟩

end ScratchArena.Config
