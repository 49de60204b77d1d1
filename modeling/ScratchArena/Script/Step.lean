import ScratchArena.Arena.Alloc
import ScratchArena.Arena.Guard

/-! # Steps — what a script does, and what it is told

    A script drives one or more arenas through steps and hears after each
    one what came of it.  Pointers and checkpoints are kept under names
    the script chooses. -/

namespace ScratchArena.Script

/-- What one step asks of an arena. -/
inductive Action where
  | alloc (element : Element) (count : Nat) (name : Option String)
  | allocAligned (element : Element) (count align : Nat) (name : Option String)
  | allocBytes (size align : Nat) (name : Option String)
  /-- Copy unsigned integers of a type; those it cannot hold are left out. -/
  | allocCopy (element : Element) (values : List Nat) (name : Option String)
  | allocOrAbort (element : Element) (count : Nat) (name : Option String)
  | reserve (more : Nat)
  | reset
  | shrinkToFit
  | checkpoint (name : String)
  | rollback (checkpoint : String)
  | forget (checkpoint : String)
  | compare (one other : String)
  | rollbackGuard
  | releaseGuard
  | inspectGuard
  | write (pointer : String) (offset : Nat) (data : List UInt8)
  | read (pointer : String) (offset length : Nat)
  | closeHeap (closed : Bool)
  | limitBlock (size : Nat)
  | limitBudget (size : Nat)
  | stats
  | display
  | settings
  /-- Put an arena with other settings in the place of this one. -/
  | replace (change : Settings.Change)
  /-- A request that means nothing. -/
  | unknown

/-- A step of a script: one action, or a body under a guard. -/
inductive Step where
  | act (action : Action)
  /-- Run `body` under a guard; a leaked guard is never dropped. -/
  | guarded (body : List Step) (leaked : Bool)

instance : Inhabited Step := ⟨.act .unknown⟩

/-- A step on the arena of a slot, or something with the slots. -/
inductive Command where
  | on (arena : Nat) (step : Step)
  | swap (one other : Nat)
  | drop (arena : Nat)

/-- Why a step is not carried out at all. -/
inductive Refusal where
  | badStep
  | noArena
  | noCheckpoint
  | noPointer
  | dangling
  | range
deriving DecidableEq, Repr

/-- What a step answers. -/
inductive Reply where
  | done
  | dropped
  | failed (failure : Failure)
  | refused (refusal : Refusal)
  | pointer (pointer : Pointer)
  | copied (pointer : Pointer) (values : List Nat)
  | checkpoint (checkpoint : Checkpoint) (own : Bool)
  | same (equal : Bool)
  | guardInfo (guard : Guard)
  /-- The guard was live at the end of its scope, or not. -/
  | scope (live : Bool)
  | bytes (data : List UInt8)
  | stats (stats : Arena.Stats)
  | text (text : String)
  | settings (settings : Settings)

/-- A reply with the state of the arena after the step, the calls on its
    heap and the events it logged meanwhile.  The entries of a guarded
    body stand inside the entry of its scope. -/
structure Entry where
  reply : Reply
  /-- The counters and the generation of the arena, if there is one. -/
  state : Option (Arena.Stats × UInt64) := none
  calls : List Call := []
  events : List Event := []
  body : List Entry := []

/-- Every event of an entry, those of its body first. -/
def Entry.allEvents : Entry → List Event
  | ⟨_, _, _, events, body⟩ => allEventsOf body ++ events
where
  allEventsOf : List Entry → List Event
    | [] => []
    | entry :: rest => entry.allEvents ++ allEventsOf rest

/-- What a script heard: when the arenas were made, after each step, and
    when they were dropped. -/
structure Report where
  start : List Entry
  steps : List Entry
  finish : List Entry

/-- Every event of a report, in the order of the log. -/
def Report.allEvents (r : Report) : List Event :=
  (r.start ++ r.steps ++ r.finish).flatMap Entry.allEvents

end ScratchArena.Script
