import EraRewards.Failure

/-!
# Writer locks

Only one application at a time may write to a database.  It holds the lock of the database's path;
a second one is refused at once.  Each holder is told apart by a number.
-/

namespace EraRewards

/-- A lock that somebody holds. -/
structure HeldLock where
  /-- What is locked. -/
  path : String
  /-- Who holds the lock. -/
  holder : Int
  deriving DecidableEq, Repr

/-- The locks that are held. -/
structure WriterLocks where
  /-- One entry for each. -/
  held : List HeldLock
  deriving DecidableEq, Repr

namespace WriterLocks

/-- No lock is held. -/
def none : WriterLocks := ⟨[]⟩

instance : Inhabited WriterLocks := ⟨none⟩

/-- Path of the lock of a database. -/
def pathOf (databasePath : String) : String := databasePath ++ ".writer.lock"

/-- Whether somebody holds a lock. -/
def isHeld (locks : WriterLocks) (path : String) : Bool := locks.held.any (·.path == path)

/-- Takes a lock that nobody holds. -/
def acquire (locks : WriterLocks) (path : String) (holder : Int) : Except Failure WriterLocks :=
  if locks.isHeld path then .error .writerLockHeld else .ok ⟨locks.held ++ [⟨path, holder⟩]⟩

/-- Gives a lock back; nothing happens if it is not the holder's. -/
def release (locks : WriterLocks) (path : String) (holder : Int) : WriterLocks :=
  ⟨locks.held.filter fun lock => lock ≠ ⟨path, holder⟩⟩

variable {locks : WriterLocks} {path : String} {holder : Int}

theorem isHeld_iff : locks.isHeld path = true ↔ ∃ holder, ⟨path, holder⟩ ∈ locks.held := by
  rw [isHeld, List.any_eq_true]
  constructor
  · rintro ⟨⟨held, holder⟩, present, same⟩
    obtain rfl : held = path := eq_of_beq same
    exact ⟨holder, present⟩
  · rintro ⟨holder, present⟩
    exact ⟨_, present, beq_self_eq_true path⟩

theorem acquire_of_held (held : locks.isHeld path = true) :
    locks.acquire path holder = .error .writerLockHeld := if_pos held

theorem acquire_of_free (free : locks.isHeld path = false) :
    locks.acquire path holder = .ok ⟨locks.held ++ [⟨path, holder⟩]⟩ :=
  if_neg (ne_true_of_eq_false free)

theorem mem_release {lock : HeldLock} :
    lock ∈ (locks.release path holder).held ↔ lock ∈ locks.held ∧ lock ≠ ⟨path, holder⟩ := by
  simp [release]

/-- A lock that is given back by the one who took it leaves the locks as they were. -/
theorem release_of_free (free : locks.isHeld path = false) :
    release ⟨locks.held ++ [⟨path, holder⟩]⟩ path holder = locks := by
  have kept : locks.held.filter (fun lock => lock ≠ ⟨path, holder⟩) = locks.held := by
    refine List.filter_eq_self.2 fun lock present => decide_eq_true fun same => ?_
    have held : locks.isHeld path = true := isHeld_iff.2 ⟨holder, same ▸ present⟩
    exact Bool.false_ne_true (free.symm.trans held)
  rw [release, List.filter_append, kept]
  simp

/-- Databases with different paths have different locks. -/
theorem pathOf_injective {first second : String} (same : pathOf first = pathOf second) :
    first = second := (String.append_left_inj _).1 same

end WriterLocks
end EraRewards
