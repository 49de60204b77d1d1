import ScratchArena.Script.Bench

/-! # Runs — carrying out a script

    Arenas are made in order before the script starts and dropped in order
    after it ends.  A step acts on the arena of one slot; inside a guarded
    body it acts on the guard's arena, and the guard itself can be rolled
    back or released there. -/

namespace ScratchArena

/-- The reply to an operation that succeeds or fails. -/
def Script.Reply.ofResult {α : Type} (onOk : α → Script.Reply) :
    Except Failure α → Script.Reply
  | .ok a => onOk a
  | .error e => .failed e

/-- Put an arena with other settings in the place of this one, on the same
    heap.  The new arena is made first; the old one goes away once that
    has succeeded. -/
def Site.replace (s : Site) (settings : Settings) (id : Nat) : Except Failure Unit × Site :=
  match Site.establish settings id s.heap with
  | (.ok _, new) =>
      (.ok (), { new with heap := { s with heap := new.heap }.dispose,
                          events := s.events ++ new.events })
  | (.error e, new) => (.error e, { s with heap := new.heap, events := s.events ++ new.events })

namespace Script

namespace Bench

/-- An allocation on a slot, its pointer kept under a name. -/
def allocated (b : Bench) (i : Nat) (slot : Slot) (name : Option String)
    (outcome : Except Failure Pointer × Site) (reply : Pointer → Site → Reply) :
    Reply × Bench :=
  match outcome with
  | (.ok p, site) =>
      (reply p site, (b.setSlot i { slot with site }).namePointer name slot.heapId p)
  | (.error e, site) => (.failed e, b.setSlot i { slot with site })

/-- Reply with a pointer. -/
def showPointer (p : Pointer) (_ : Site) : Reply := .pointer p

/-- Unsigned integers read back from a block. -/
def readBack (element : Element) (count : Nat) (p : Pointer) (site : Site) : Reply :=
  .copied p ((List.range count).map fun k =>
    Site.ofLittleEndian (site.heap.read p.block (p.offset + k * element.size) element.size))

/-- One action on the arena in slot `i`, under a guard if there is one. -/
def act (b : Bench) (i : Nat) (slot : Slot) (guard : Option Guard) (action : Action) :
    Reply × Bench × Option Guard :=
  let keep (r : Reply × Bench) : Reply × Bench × Option Guard := (r.1, r.2, guard)
  let update (reply : Reply) (site : Site) : Reply × Bench × Option Guard :=
    (reply, b.setSlot i { slot with site }, guard)
  let answer (reply : Reply) : Reply × Bench × Option Guard := (reply, b, guard)
  let s := slot.site
  match action with
  | .alloc element count name =>
      keep (b.allocated i slot name (s.alloc element count) showPointer)
  | .allocAligned element count align name =>
      keep (b.allocated i slot name (s.allocAligned count element.size align) showPointer)
  | .allocBytes size align name =>
      keep (b.allocated i slot name (s.allocBytes size align) showPointer)
  | .allocCopy element values name =>
      let values := values.filter (· < Nat.pow 256 element.size)
      keep (b.allocated i slot name (s.allocCopy element values)
        (readBack element values.length))
  | .allocOrAbort element count name =>
      if b.mayAbort then
        match s.alloc element count with
        | (.error e, site) =>
            (.failed e, { b.setSlot i { slot with site := site.log (.aborting e) } with
                            aborted := true }, guard)
        | outcome => keep (b.allocated i slot name outcome showPointer)
      else answer (.refused .badStep)
  | .reserve more =>
      let (result, site) := s.reserve more
      update (.ofResult (fun _ => .done) result) site
  | .reset => update .done s.reset
  | .shrinkToFit => update .done s.shrinkToFit
  | .checkpoint name =>
      let (c, site) := s.checkpoint
      (.checkpoint c (c.arena == site.arena.id),
        (b.setSlot i { slot with site }).nameCheckpoint name c, guard)
  | .rollback name =>
      match b.takeCheckpoint name with
      | some (c, b) =>
          let (result, site) := s.rollback c
          (.ofResult (fun _ => .done) result, b.setSlot i { slot with site }, guard)
      | none => answer (.refused .noCheckpoint)
  | .forget name =>
      match b.takeCheckpoint name with
      | some (c, b) => (.done, b.setSlot i { slot with site := s.forget c }, guard)
      | none => answer (.refused .noCheckpoint)
  | .compare one other =>
      match b.checkpoints.lookup one, b.checkpoints.lookup other with
      | some c, some d => answer (.same (c == d))
      | _, _ => answer (.refused .noCheckpoint)
  | .rollbackGuard =>
      match guard with
      | some g =>
          let ((result, left), site) := s.rollbackGuard g
          (.ofResult (fun _ => .done) result, b.setSlot i { slot with site }, some left)
      | none => answer (.refused .badStep)
  | .releaseGuard =>
      match guard with
      | some g =>
          let (left, site) := s.releaseGuard g
          (.done, b.setSlot i { slot with site }, some left)
      | none => answer (.refused .badStep)
  | .inspectGuard =>
      match guard with
      | some g => answer (.guardInfo g)
      | none => answer (.refused .badStep)
  | .write pointer offset data =>
      if slot.limits.isNone then answer (.refused .badStep)
      else
        match b.locate pointer offset data.length with
        | .error refusal => answer (.refused refusal)
        | .ok (j, target, p) =>
            (.done,
              b.setSlot j { target with site := { target.site with
                heap := target.site.heap.write p.block p.offset data } },
              guard)
  | .read pointer offset length =>
      if slot.limits.isNone then answer (.refused .badStep)
      else
        match b.locate pointer offset length with
        | .error refusal => answer (.refused refusal)
        | .ok (_, target, p) => answer (.bytes (target.site.heap.read p.block p.offset length))
  | .closeHeap closed =>
      let (reply, slot) := changeLimits slot ({ · with closed })
      (reply, b.setSlot i slot, guard)
  | .limitBlock size =>
      let (reply, slot) := changeLimits slot ({ · with block := size })
      (reply, b.setSlot i slot, guard)
  | .limitBudget size =>
      let (reply, slot) := changeLimits slot ({ · with budget := size })
      (reply, b.setSlot i slot, guard)
  | .stats => answer (.stats s.arena.stats)
  | .display => answer (.text s.arena.display)
  | .settings => answer (.settings s.arena.settings)
  | .replace change =>
      let (result, site) := s.replace (s.arena.settings.apply b.assertions change) b.nextArena
      (.ofResult (fun _ => .done) result,
        { b.setSlot i { slot with site } with nextArena := b.nextArena + 1 }, guard)
  | .unknown => answer (.refused .badStep)

/-- The entry of a step whose arena is in slot `i`. -/
def entry (before after : Bench) (i : Nat) (reply : Reply) : Entry :=
  match before.slot? i, after.slot? i with
  | some old, some new => .between old.site new.site reply
  | _, _ => { reply }

mutual

/-- One step on the arena in slot `i`, under a guard if there is one. -/
def step (b : Bench) (i : Nat) (guard : Option Guard) : Step → Entry × Bench × Option Guard
  | .guarded body leaked =>
      match b.slot? i with
      | none => ({ reply := .refused .noArena }, b, guard)
      | some slot =>
          let (g, site) := slot.site.guarded
          let opened := b.setSlot i { slot with site }
          let first := entry b opened i (.text g.display)
          let (entries, ran, g) := steps opened i g body
          let closed :=
            match ran.slot? i with
            | none => ran
            | some slot =>
                if leaked || ran.aborted then ran
                else ran.setSlot i { slot with site := slot.site.dropGuard g }
          ({ entry ran closed i (.scope g.isLive) with body := first :: entries }, closed, guard)
  | .act action =>
      match b.slot? i with
      | none => ({ reply := .refused .noArena }, b, guard)
      | some slot =>
          let (reply, after, guard) := b.act i slot guard action
          (entry b after i reply, after, guard)

/-- The steps of a guarded body, until one aborts. -/
def steps (b : Bench) (i : Nat) (guard : Guard) : List Step → List Entry × Bench × Guard
  | [] => ([], b, guard)
  | first :: rest =>
      let (entry, b, guard') := step b i (some guard) first
      let guard := guard'.getD guard
      if b.aborted then ([entry], b, guard)
      else
        let (entries, b, guard) := steps b i guard rest
        (entry :: entries, b, guard)

end

/-- Drop the arena of a slot. -/
def dropArena (b : Bench) (i : Nat) (reply : Reply) : Entry × Bench :=
  match b.slot? i with
  | none => ({ reply := .refused .noArena }, b)
  | some slot =>
      let heap := slot.site.dispose
      ({ reply, calls := heap.calls.drop slot.site.heap.calls.length },
        b.setSlot i { slot with alive := false, site := { slot.site with heap } })

/-- Let the arenas of two slots change places. -/
def swap (b : Bench) (i j : Nat) : Entry × Bench :=
  match b.slots[i]?, b.slots[j]? with
  | some one, some other =>
      ({ reply := .done }, { b with slots := (b.slots.set i other).set j one })
  | _, _ => ({ reply := .refused .noArena }, b)

/-- Carry out one command. -/
def command (b : Bench) : Command → Entry × Bench
  | .on i s =>
      let (entry, b, _) := b.step i none s
      (entry, b)
  | .swap i j => b.swap i j
  | .drop i => b.dropArena i .done

/-- Carry out commands until one aborts. -/
def commands (b : Bench) : List Command → List Entry × Bench
  | [] => ([], b)
  | first :: rest =>
      let (entry, b) := b.command first
      if b.aborted then ([entry], b)
      else
        let (entries, b) := b.commands rest
        (entry :: entries, b)

/-- Drop every arena that is left, in order. -/
def dropAll (b : Bench) : List Entry :=
  b.slots.map fun slot =>
    if slot.alive then
      { reply := .dropped
        calls := slot.site.dispose.calls.drop slot.site.heap.calls.length }
    else { reply := .dropped }

/-- Put a new arena in the next slot. -/
def add (b : Bench) (made : Except Failure Unit × Site) (limits : Option Limits) :
    Entry × Bench :=
  let (result, site) := made
  let alive := match result with
    | .ok _ => true
    | .error _ => false
  ({ reply := .ofResult (fun _ => .done) result
     state := if alive then some (site.arena.stats, site.arena.generation) else none
     calls := site.heap.calls
     events := site.events },
    { b with slots := b.slots ++ [⟨b.slots.length, site, limits, alive⟩],
             nextArena := b.nextArena + 1 })

end Bench

/-- Entries with all their events moved to the first one. -/
def gatherEvents : List Entry → List Entry
  | [] => []
  | first :: rest =>
      { first with events := first.events ++ rest.flatMap Entry.events }
        :: rest.map ({ · with events := [] })

/-- Carry out a script on a bench with its arenas made; `none` when it
    aborted, beside everything logged. -/
def run (start : List Entry) (b : Bench) (script : List Command) :
    Option Report × List Event :=
  let (entries, b) := b.commands script
  if b.aborted then
    (none, (start ++ entries).flatMap Entry.allEvents)
  else
    let report : Report := ⟨gatherEvents start, entries, b.dropAll⟩
    (some report, report.allEvents)

/-- An arena of a script: its settings and the limits of its heap. -/
structure ArenaSpec where
  change : Settings.Change := {}
  limits : Limits

/-- A bench of arenas on heaps with limits. -/
def benchOf (assertions : Bool) (specs : List ArenaSpec) (mayAbort : Bool) :
    List Entry × Bench :=
  specs.foldl
    (fun (entries, b) spec =>
      let settings := (Settings.standard assertions).apply assertions spec.change
      let made := Site.establish settings b.nextArena (.fresh spec.limits.policy)
      let (entry, b) := b.add made (some spec.limits)
      (entries ++ [entry], b))
    ([], { assertions, mayAbort })

/-- How an arena on the heap of the platform is made. -/
inductive Origin where
  /-- With standard settings and nothing reserved. -/
  | unreserved
  | withReserve (reserve : Nat)
  | withSettings (change : Settings.Change)

/-- A bench of one arena on the heap of the platform. -/
def platformBench (assertions : Bool) (origin : Origin) : List Entry × Bench :=
  let standard := Settings.standard assertions
  let made : Except Failure Unit × Site :=
    match origin with
    | .unreserved => (.ok (), Site.bare standard 0 Platform.heap)
    | .withReserve reserve => Site.establish { standard with reserve } 0 Platform.heap
    | .withSettings change =>
        Site.establish (standard.apply assertions change) 0 Platform.heap
  let (entry, b) := ({ assertions } : Bench).add made none
  ([entry], b)

end Script

end ScratchArena
