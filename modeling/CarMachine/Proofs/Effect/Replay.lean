import CarMachine.Proofs.Effect.Commit
import Mathlib.Data.List.TakeWhile

namespace CarMachine.Effect

/-! What a commit leaves behind.

A commit goes forward through the queued writes, up to the first that misses the register file.
What is pending for a slot is found by going backward through them.  On the writes that are done
both come to the same values.
-/

/-- What can be asked of an effect before it is committed. -/
inductive Request where
  | write (index : Nat) (value : Int32)
  | writeCar (register : CarRegister) (value : Int32)
  | emit (line : String)

/-- The write that a request queues, if any. -/
def Request.write? : Request → Option Write
  | .write index value => some ⟨index, value⟩
  | .writeCar register value => some ⟨register.slot, value⟩
  | .emit _ => none

def serve (effect : Effect) : Request → Effect
  | .write index value => effect.write index value
  | .writeCar register value => effect.writeCar register value
  | .emit line => effect.emit line

/-- The effect that requests build up from nothing. -/
def ofRequests (requests : List Request) : Effect :=
  requests.foldl serve {}

/-- A file differs from an earlier one in that its slots hold what was pending for them. -/
structure Settles (effect : Effect) (before after : Registers) : Prop where
  size : after.size = before.size
  written : ∀ slot value, effect.pending slot = some value → after.read slot = .ok value
  kept : ∀ slot, effect.pending slot = none → after.read slot = before.read slot

/-- The queued writes before the first that misses a register file. -/
def withinReach (effect : Effect) (registers : Registers) : List Write :=
  effect.writes.takeWhile fun write => decide (write.index < registers.size)

variable {effect : Effect} {registers before after other : Registers} {requests : List Request}

theorem writes_foldl_serve : (requests.foldl serve effect).writes =
    effect.writes ++ requests.filterMap Request.write? := by
  induction requests generalizing effect with
  | nil => simp
  | cons request rest ih =>
      rw [List.foldl_cons, ih]
      cases request <;> simp [serve, write, writeCar, emit, Request.write?, List.filterMap_cons]

theorem writes_ofRequests : (ofRequests requests).writes = requests.filterMap Request.write? :=
  writes_foldl_serve

theorem Settles.again (settled : effect.Settles before after) : effect.Settles after after :=
  ⟨rfl, settled.written, fun _ _ => rfl⟩

theorem Settles.unique (settled : effect.Settles before after)
    (alsoSettled : effect.Settles before other) : other = after := by
  refine Registers.ext (alsoSettled.size.trans settled.size.symm) fun slot => ?_
  cases last : effect.pending slot with
  | some value => rw [settled.written slot value last, alsoSettled.written slot value last]
  | none => rw [settled.kept slot last, alsoSettled.kept slot last]

theorem settles_of_commit (done : effect.commit registers = (after, .ok ())) :
    effect.Settles registers after where
  size := size_of_commit done
  written slot value last := by
    rw [read_of_commit done, last]
    rfl
  kept slot last := by
    rw [read_of_commit done, last]
    rfl

theorem commit_exists (inside : ∀ write ∈ effect.writes, write.index < registers.size) :
    ∃ after, effect.commit registers = (after, .ok ()) :=
  ⟨_, Prod.ext rfl (commitWrites_completes inside)⟩

theorem commit_again (inside : ∀ write ∈ effect.writes, write.index < registers.size)
    (done : effect.commit registers = (after, .ok ())) :
    effect.commit after = (after, .ok ()) := by
  have settled := settles_of_commit done
  rw [← settled.size] at inside
  obtain ⟨last, redone⟩ := commit_exists inside
  rw [redone, settled.again.unique (settles_of_commit redone)]

/-- The first write that misses the file ends the commit. -/
theorem commitWrites_missing {first later : List Write} {missed : Write}
    (done : commitWrites first registers = (after, .ok ()))
    (outside : registers.size ≤ missed.index) :
    commitWrites (first ++ missed :: later) registers = (after, .error ⟨missed.index⟩) := by
  induction first generalizing registers with
  | nil =>
      cases done
      simp only [List.nil_append, commitWrites, Registers.write_missing missed.value outside]
  | cons write rest ih =>
      cases written : registers.write write.index write.value with
      | error missing => simp [commitWrites, written] at done
      | ok next =>
          simp only [commitWrites, written] at done
          rw [← Registers.size_of_write written] at outside
          simp only [List.cons_append, commitWrites, written, ih done outside]

theorem index_lt_of_mem_withinReach {write : Write}
    (member : write ∈ effect.withinReach registers) : write.index < registers.size := by
  simpa using List.mem_takeWhile_imp member

theorem exists_first_missing (outside : ∃ write ∈ effect.writes, registers.size ≤ write.index) :
    ∃ missed later, effect.writes = effect.withinReach registers ++ missed :: later ∧
      registers.size ≤ missed.index := by
  let inside (write : Write) : Bool := decide (write.index < registers.size)
  cases rest : effect.writes.dropWhile inside with
  | nil =>
      obtain ⟨write, member, beyond⟩ := outside
      have here := List.dropWhile_eq_nil_iff.mp rest write member
      exact absurd (of_decide_eq_true here) (Nat.not_lt.mpr beyond)
  | cons missed later =>
      refine ⟨missed, later, ?_, ?_⟩
      · rw [← rest]
        exact List.takeWhile_append_dropWhile.symm
      · have first : inside missed = false := by
          have head := List.head?_dropWhile_not inside effect.writes
          simpa only [rest, List.head?_cons] using head
        exact Nat.le_of_not_lt (of_decide_eq_false first)

/-- A commit whose writes all have slots leaves in every slot the value that is pending for it,
and then there is nothing left for a second commit to do.  Otherwise it breaks down at the first
write that has no slot, with exactly the writes before it done. -/
theorem commit_settles (registers : Registers) (requests : List Request) :
    (ofRequests requests).writes = requests.filterMap Request.write? ∧
    ((∀ write ∈ (ofRequests requests).writes, write.index < registers.size) →
      ∃ after, (ofRequests requests).commit registers = (after, .ok ()) ∧
        (ofRequests requests).Settles registers after ∧
        (ofRequests requests).commit after = (after, .ok ())) ∧
    ((∃ write ∈ (ofRequests requests).writes, registers.size ≤ write.index) →
      ∃ missed later after,
        (ofRequests requests).writes =
          (ofRequests requests).withinReach registers ++ missed :: later ∧
        registers.size ≤ missed.index ∧
        (ofRequests requests).commit registers = (after, .error ⟨missed.index⟩) ∧
        Settles { writes := (ofRequests requests).withinReach registers } registers after) := by
  refine ⟨writes_ofRequests, ?_, ?_⟩
  · intro inside
    obtain ⟨after, done⟩ := commit_exists inside
    exact ⟨after, done, settles_of_commit done, commit_again inside done⟩
  · intro outside
    obtain ⟨missed, later, split, beyond⟩ := exists_first_missing outside
    let reached : Effect := { writes := (ofRequests requests).withinReach registers }
    have inside : ∀ write ∈ reached.writes, write.index < registers.size :=
      fun _ => index_lt_of_mem_withinReach
    obtain ⟨after, done⟩ := commit_exists inside
    refine ⟨missed, later, after, split, beyond, ?_, settles_of_commit done⟩
    rw [commit, split]
    exact commitWrites_missing done beyond

/-- The second write to a slot counts, unless a write in between has no slot. -/
theorem commit_settles_twice :
    (∃ after, (ofRequests [.write 8 1, .emit "", .write 8 2, .writeCar .speed 40]).commit
        (.zeroed 27) = (after, .ok ()) ∧
      after.read 8 = .ok 2 ∧ after.readCar .speed = .ok 40 ∧ after.read 9 = .ok 0) ∧
    ∃ after, (ofRequests [.write 8 1, .writeCar .speed 40, .write 27 5, .write 8 2]).commit
        (.zeroed 27) = (after, .error ⟨27⟩) ∧
      after.read 8 = .ok 1 ∧ after.readCar .speed = .ok 40 := by
  constructor
  · obtain ⟨after, done, settled, _⟩ := (commit_settles (.zeroed 27)
      [.write 8 1, .emit "", .write 8 2, .writeCar .speed 40]).2.1 (by decide)
    exact ⟨after, done, settled.written _ _ rfl, settled.written _ _ rfl, settled.kept _ rfl⟩
  · obtain ⟨missed, later, after, split, _, broken, settled⟩ := (commit_settles (.zeroed 27)
      [.write 8 1, .writeCar .speed 40, .write 27 5, .write 8 2]).2.2 (by decide)
    cases split
    exact ⟨after, broken, settled.written _ _ rfl, settled.written _ _ rfl⟩

end CarMachine.Effect
