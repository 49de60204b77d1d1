import ScratchArena.Config.Discovery
import ScratchArena.Log.Session
import ScratchArena.Script.Run
import ScratchArena.Proofs.LiveAllocations
import ScratchArena.Proofs.Restoration
import ScratchArena.Proofs.Acceptance
import ScratchArena.Proofs.Replay
import ScratchArena.Proofs.Ledger
import ScratchArena.Proofs.Accounting
import ScratchArena.Proofs.Atomicity
import ScratchArena.Proofs.Brackets
import ScratchArena.Proofs.Tenancy
import ScratchArena.Proofs.Bookkeeping
import ScratchArena.Proofs.Settling
import ScratchArena.Proofs.Faultless
import ScratchArena.Proofs.Chronicle
import ScratchArena.Proofs.Room
import ScratchArena.Proofs.Anticipation
import ScratchArena.Proofs.Coalescing
import ScratchArena.Proofs.Overflow
import ScratchArena.Proofs.Marks
import ScratchArena.Proofs.RoundTrip
import ScratchArena.Proofs.Discovery
