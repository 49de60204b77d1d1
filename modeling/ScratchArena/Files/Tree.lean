import ScratchArena.Files.Path

/-! # File trees — directories and files as data

    A location is the list of names on the way from the root, and a tree
    says what stands there.  Not everything that stands somewhere is for
    everybody: a file may be closed to its reader, for want of permission
    or because the device fails, and a directory to whoever would step
    through it.

    Following a path takes one step at a time: each step needs a directory
    to start from, and a parent step goes to the location's parent, whatever
    the path says before it.  A name and a path that are too long are
    refused, a path before its first step is taken. -/

namespace ScratchArena.Files

/-- Why a file is closed to its reader. -/
inductive Denial where
  | permission
  /-- The device fails. -/
  | device
deriving DecidableEq, Repr

/-- Why a path could not be followed, or its file not read as text. -/
inductive ReadFault where
  | missing
  | isDirectory
  | notDirectory
  | notText
  | tooLong
  /-- The path holds a null character. -/
  | badPath
  | denied (why : Denial)
deriving DecidableEq, Repr

/-- A fault in words. -/
def ReadFault.message : ReadFault → String
  | .missing => "No such file or directory (os error 2)"
  | .isDirectory => "Is a directory (os error 21)"
  | .notDirectory => "Not a directory (os error 20)"
  | .notText => "stream did not contain valid UTF-8"
  | .tooLong => "File name too long (os error 36)"
  | .badPath => "file name contained an unexpected NUL byte"
  | .denied .permission => "Permission denied (os error 13)"
  | .denied .device => "Input/output error (os error 5)"

/-- Most bytes in a name. -/
def longestName : Nat := 255

/-- Most bytes in a path. -/
def longestPath : Nat := 4095

/-- The names on the way from the root. -/
abbrev Location := List String

/-- What stands at a location, and everything below it. -/
inductive Tree where
  | file (content : List UInt8)
  /-- A file that is there, but closed to its reader. -/
  | closed (why : Denial)
  /-- A directory; only one that is open can be stepped through. -/
  | directory (isOpen : Bool) (entries : List (String × Tree))

/-- A directory without entries. -/
def Tree.empty : Tree := .directory true []

/-- The entries of a directory with one of them put there, in the place of
    one with its name. -/
def putEntry (name : String) (t : Tree) : List (String × Tree) → List (String × Tree)
  | [] => [(name, t)]
  | (n, old) :: rest => if n = name then (name, t) :: rest else (n, old) :: putEntry name t rest

namespace Tree

/-- What stands at a location. -/
def get? : Tree → Location → Option Tree
  | t, [] => some t
  | .directory _ es, name :: rest => (es.lookup name).bind fun t => t.get? rest
  | _, _ :: _ => none

/-- Something put at a location, with the directories on the way there;
    nothing can be put below a file. -/
def put (new : Tree) : Tree → Location → Tree
  | _, [] => new
  | .directory isOpen es, name :: rest =>
      .directory isOpen (putEntry name (put new ((es.lookup name).getD .empty) rest) es)
  | t, _ :: _ => t

/-- A directory put at a location, unless something is there. -/
def ensureDirectory (t : Tree) (l : Location) : Tree :=
  match t.get? l with
  | some _ => t
  | none => put .empty t l

/-! ## Following a path -/

/-- The name is not too long. -/
def fits (name : String) : Bool := name.utf8ByteSize ≤ longestName

/-- Nothing keeps one from stepping through a location. -/
def passable (t : Tree) (l : Location) : Except ReadFault Unit :=
  match t.get? l with
  | none => .error .missing
  | some (.directory true _) => .ok ()
  | some (.directory false _) => .error (.denied .permission)
  | some _ => .error .notDirectory

/-- Where an entry stands in a directory, whether it is there or not. -/
def entry (t : Tree) (l : Location) (name : String) : Except ReadFault Location :=
  match t.passable l with
  | .error e => .error e
  | .ok _ => if fits name then .ok (l ++ [name]) else .error .tooLong

/-- Where a step leads. -/
def step (t : Tree) (l : Location) (s : PathStep) : Except ReadFault Location :=
  match s with
  | .into name =>
      match t.entry l name with
      | .error e => .error e
      | .ok l => if (t.get? l).isSome then .ok l else .error .missing
  | .gap =>
      match t.get? l with
      | none => .error .missing
      | some (.directory _ _) => .ok l
      | some _ => .error .notDirectory
  | s =>
      match t.passable l with
      | .error e => .error e
      | .ok _ => .ok (if s = .up then l.dropLast else l)

/-- What keeps a path from being followed at all. -/
def obstacle? (p : Path) : Option ReadFault :=
  if p.text.toList.contains '\x00' then some .badPath
  else if p = Path.empty then some .missing
  else if longestPath < p.text.utf8ByteSize then some .tooLong
  else none

/-- Where a path leads, from the directory one stands in. -/
def resolve (t : Tree) (cwd : Location) (p : Path) : Except ReadFault Location :=
  match obstacle? p with
  | some fault => .error fault
  | none => p.steps.foldlM t.step (if p.absolute then [] else cwd)

/-- Something stands where a path leads. -/
def leadsSomewhere (t : Tree) (cwd : Location) (p : Path) : Bool :=
  match t.resolve cwd p with
  | .ok l => (t.get? l).isSome
  | .error _ => false

/-- The text of the file a path leads to. -/
def read (t : Tree) (cwd : Location) (p : Path) : Except ReadFault String :=
  match t.resolve cwd p with
  | .error e => .error e
  | .ok l =>
      match t.get? l with
      | none => .error .missing
      | some (.directory _ _) => .error .isDirectory
      | some (.closed why) => .error (.denied why)
      | some (.file content) =>
          match String.fromUTF8? ⟨content.toArray⟩ with
          | some text => .ok text
          | none => .error .notText

/-! ## Making directories and files -/

/-- One step from a location, making a directory where there is nothing;
    the second part is where it leads, if it leads anywhere. -/
def stepMaking (state : Tree × Option Location) (s : PathStep) : Tree × Option Location :=
  match state with
  | (t, none) => (t, none)
  | (t, some l) =>
      match s with
      | .into name =>
          match t.entry l name with
          | .error _ => (t, none)
          | .ok l =>
              match t.get? l with
              | some (.directory _ _) => (t, some l)
              | some _ => (t, none)
              | none => (put .empty t l, some l)
      | s => (t, (t.step l s).toOption)

/-- The directory a path leads to, made where there is nothing.  What has
    been made on the way stays when the path leads nowhere. -/
def makeDirectory (t : Tree) (cwd : Location) (p : Path) : Tree × Option Location :=
  match obstacle? p with
  | some _ => (t, none)
  | none => p.steps.foldl stepMaking (t, some (if p.absolute then [] else cwd))

/-- A file to append to, in a directory that is made where there is
    nothing. -/
def openToAppend (t : Tree) (cwd : Location) (directory : Path) (name : String) :
    Tree × Option Location :=
  match t.makeDirectory cwd directory with
  | (t, none) => (t, none)
  | (t, some l) =>
      if (obstacle? (directory.child name)).isSome then (t, none)
      else
        match t.entry l name with
        | .error _ => (t, none)
        | .ok l =>
            match t.get? l with
            | some (.file _) => (t, some l)
            | some _ => (t, none)
            | none => (put (.file []) t l, some l)

/-! ## Comparing trees -/

mutual

/-- Where the files of a tree stand that itself stands at `above`. -/
def files (above : Location) : Tree → List Location
  | .directory _ es => filesOfAll above es
  | _ => [above]

/-- Where the files of several entries stand. -/
def filesOfAll (above : Location) : List (String × Tree) → List Location
  | [] => []
  | (name, t) :: rest => files (above ++ [name]) t ++ filesOfAll above rest

end

/-- The files below a location that were not there before. -/
def newFiles (t before : Tree) (above : Location) : List Location :=
  (t.files []).filter fun l => above.isPrefixOf l && (before.get? l).isNone

end Tree

end ScratchArena.Files
