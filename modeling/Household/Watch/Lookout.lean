import Household.Watch.Watcher

/-! # Looking out

A watcher that looks at its document at regular intervals, the first time at once.
-/

set_option autoImplicit false

namespace Household

structure Lookout where
  watcher : Watcher
  step : Nat
  elapsed : Nat
  looks : Nat

namespace Lookout

def start (watcher : Watcher) (step : Nat) : Lookout := ⟨watcher, step, 0, 0⟩

def due (l : Lookout) (ms : Nat) : List Nat :=
  (List.range' l.looks ((l.elapsed + ms) / l.step + 1 - l.looks)).map (· * l.step)

/-- The looks that follow each other while the content stays the same. -/
def advance (l : Lookout) (ms : Nat) (content : Option (List UInt8)) : Lookout where
  watcher := (l.due ms).foldl (fun w now => w.poll now content) l.watcher
  step := l.step
  elapsed := l.elapsed + ms
  looks := l.looks + (l.due ms).length

theorem le_of_mem_due {l : Lookout} {ms now : Nat} (h : now ∈ l.due ms) : now ≤ l.elapsed + ms := by
  simp only [due, List.mem_map, List.mem_range'_1] at h
  obtain ⟨n, hn, rfl⟩ := h
  have hn : n ≤ (l.elapsed + ms) / l.step := by omega
  exact Nat.le_trans (Nat.mul_le_mul_right _ hn) (Nat.div_mul_le_self _ _)

end Lookout

end Household
