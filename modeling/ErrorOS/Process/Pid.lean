import ErrorOS.Rust
import Mathlib.Data.List.Range

/-!
# Process ids

`ProcessId::new` draws ids from `NEXT_PID`, a static `AtomicUsize` that starts
at 1 and that only `new` can name.  Each call is one atomic `fetch_add(1)`, so
whatever the rest of the kernel does between calls, and from whichever context
a call comes, the calls see the counter's values one after another; the model
passes the counter from call to call.

`fetch_add` wraps.  The first `usize::MAX` calls return `1, 2, …, usize::MAX`
in order, and the call after them returns the reserved id 0, with the ids
from 1 on coming again after it.
-/

namespace ErrorOS.Process

/-- `ProcessId`. -/
structure ProcessId where
  val : Usize

/-- `ProcessId::as_usize`. -/
def ProcessId.asUsize (pid : ProcessId) : Usize := pid.val

/-- `NEXT_PID`'s initial value. -/
def nextPidInit : Usize := ⟨1, by decide⟩

/-- `ProcessId::new`: the counter's value, which `fetch_add(1)` advances. -/
def ProcessId.new (nextPid : Usize) : ProcessId × Usize :=
  let (pid, next) := nextPid.fetchAdd 1
  (⟨pid⟩, next)

/-- The ids of `count` calls of `ProcessId::new` in call order, and the
counter after them. -/
def newPids : Nat → Usize → List ProcessId × Usize
  | 0, nextPid => ([], nextPid)
  | count + 1, nextPid =>
      let (pid, nextPid) := ProcessId.new nextPid
      let (pids, final) := newPids count nextPid
      (pid :: pids, final)

/-- The `i`-th of `count` calls returns the counter plus `i`, wrapped to 64
bits. -/
theorem newPids_values (count : Nat) (nextPid : Usize) :
    (newPids count nextPid).1.map (·.asUsize.val) =
      (List.range count).map fun i => (nextPid.val + i) % (usizeMax + 1) := by
  induction count generalizing nextPid with
  | zero => rfl
  | succ count induction =>
      simp only [newPids, ProcessId.new, Usize.fetchAdd, List.map_cons, induction,
        List.range_succ_eq_map, List.map_map, Function.comp_def, Nat.mod_add_mod]
      congr 1
      · exact (Nat.mod_eq_of_lt (Nat.lt_succ_of_le nextPid.le_max)).symm
      · exact List.map_congr_left fun i _ => by congr 1; omega

/-- The ids of the first `count` calls are `(i + 1) mod 2^64`; up to
`usize::MAX` calls they are pairwise distinct, strictly increasing and never
the reserved 0. -/
theorem newPids_increasing (count : Nat) :
    (newPids count nextPidInit).1.map (·.asUsize.val) =
        (List.range count).map (fun i => (i + 1) % (usizeMax + 1)) ∧
      (count ≤ usizeMax →
        ((newPids count nextPidInit).1.map (·.asUsize.val)).Pairwise (· < ·) ∧
        ((newPids count nextPidInit).1.map (·.asUsize.val)).Nodup ∧
        0 ∉ (newPids count nextPidInit).1.map (·.asUsize.val)) := by
  have values : (newPids count nextPidInit).1.map (·.asUsize.val) =
      (List.range count).map (fun i => (i + 1) % (usizeMax + 1)) := by
    simp only [newPids_values, nextPidInit, Nat.add_comm 1]
  refine ⟨values, fun bounded => ?_⟩
  have unwrapped : (List.range count).map (fun i => (i + 1) % (usizeMax + 1)) =
      (List.range count).map (· + 1) :=
    List.map_congr_left fun i member =>
      Nat.mod_eq_of_lt (by have := List.mem_range.mp member; omega)
  have increasing : ((List.range count).map (· + 1)).Pairwise (· < ·) :=
    List.pairwise_map.mpr (List.pairwise_lt_range count |>.imp Nat.succ_lt_succ)
  rw [values, unwrapped]
  exact ⟨increasing, increasing.imp Nat.ne_of_lt, by simp⟩

/-- Call number `2^64` of `ProcessId::new` returns the reserved id 0. -/
theorem newPids_wraps_to_zero :
    ¬ ∀ count, ((newPids count nextPidInit).1.map (·.asUsize.val)).Pairwise (· < ·) ∧
      ((newPids count nextPidInit).1.map (·.asUsize.val)).Nodup ∧
      0 ∉ (newPids count nextPidInit).1.map (·.asUsize.val) := by
  intro fresh
  apply (fresh (usizeMax + 1)).2.2
  rw [newPids_values]
  exact List.mem_map.mpr ⟨usizeMax, List.mem_range.mpr (Nat.lt_succ_self _),
    by rw [nextPidInit, Nat.add_comm, Nat.mod_self]⟩

end ErrorOS.Process
