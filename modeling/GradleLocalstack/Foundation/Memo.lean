import Mathlib.Data.List.Basic
import Mathlib.Logic.Function.Basic

/-!
# Caches that are filled once

A cache holds at most one value under each key.  A call looks its key up, and on a miss
builds the value from the argument of the call and keeps it.  Nothing is ever dropped, so
the argument that counts is that of the first call for the key.
-/

set_option autoImplicit false

namespace Foundation

variable {κ α β : Type} [DecidableEq κ]

/-- One call: the value, and the cache after it. -/
def memoCall (build : κ → α → β) (c : κ × α) (m : κ → Option β) : β × (κ → Option β) :=
  match m c.1 with
  | some b => (b, m)
  | none => (build c.1 c.2, Function.update m c.1 (some (build c.1 c.2)))

/-- The calls of a list, one after the other. -/
def memoRun (build : κ → α → β) : List (κ × α) → (κ → Option β) → List β × (κ → Option β)
  | [], m => ([], m)
  | c :: calls, m =>
    ((memoCall build c m).1 :: (memoRun build calls (memoCall build c m).2).1,
      (memoRun build calls (memoCall build c m).2).2)

/-- The first call of the list with the key of `c`. -/
def firstCall (calls : List (κ × α)) (c : κ × α) : κ × α :=
  (calls.find? fun d => d.1 = c.1).getD c

variable {build : κ → α → β} {m : κ → Option β}

/-- A call returns what is remembered under its key, and what it builds if nothing is. -/
theorem memoCall_value (c : κ × α) : (memoCall build c m).1 = (m c.1).getD (build c.1 c.2) := by
  unfold memoCall
  cases m c.1 with
  | none => rfl
  | some b => rfl

/-- After a call its key is in the cache. -/
theorem memoCall_cache_self (c : κ × α) :
    (memoCall build c m).2 c.1 = some ((m c.1).getD (build c.1 c.2)) := by
  unfold memoCall
  cases h : m c.1 with
  | none => exact Function.update_self ..
  | some b => exact h

/-- A call leaves the other keys alone. -/
theorem memoCall_cache_of_ne {c : κ × α} {k : κ} (hne : k ≠ c.1) :
    (memoCall build c m).2 k = m k := by
  unfold memoCall
  cases m c.1 with
  | none => exact Function.update_of_ne hne _ _
  | some b => rfl

/-- A call for the key, put in front, is the first for it. -/
theorem firstCall_cons_self {c d : κ × α} {calls : List (κ × α)} (h : d.1 = c.1) :
    firstCall (d :: calls) c = d := by
  unfold firstCall
  rw [List.find?_cons_of_pos (by simpa using h), Option.getD_some]

/-- A call for another key, put in front, does not change which is the first. -/
theorem firstCall_cons_of_ne {c d : κ × α} {calls : List (κ × α)} (h : d.1 ≠ c.1) :
    firstCall (d :: calls) c = firstCall calls c := by
  unfold firstCall
  rw [List.find?_cons_of_neg (by simpa using h)]

/-- **Every call gets what is in the cache**, or what the first call for its key builds. -/
theorem memoRun_values (calls : List (κ × α)) (m : κ → Option β) :
    (memoRun build calls m).1 =
      calls.map fun c => (m c.1).getD (build c.1 (firstCall calls c).2) := by
  induction calls generalizing m with
  | nil => rfl
  | cons d calls ih =>
    rw [memoRun, List.map_cons, memoCall_value, firstCall_cons_self rfl, ih]
    dsimp only
    congr 1
    apply List.map_congr_left
    intro c _
    by_cases h : d.1 = c.1
    · rw [firstCall_cons_self h, ← h, memoCall_cache_self, Option.getD_some]
    · have hne : c.1 ≠ d.1 := fun heq => h heq.symm
      rw [firstCall_cons_of_ne h, memoCall_cache_of_ne hne]

end Foundation
