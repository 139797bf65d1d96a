import VmPager.Core.Step

/-!
# No assertion fails

A call of the pager that goes wrong ends in a `Violation`: an assertion that does not hold, an index
that is out of range, a null or dangling pointer, the front of an empty queue, or a loop that does
not end. No legal call of a run does.
-/

namespace VmPager

open Lib.Transition

/-- **No violation.** `vm_init` returns, and in every reachable state every legal call returns. -/
theorem legal_call_returns {u : Setup} {k : Kernel} (h : (system u).Reachable k) {c : Call}
    (hl : Legal k c) : (∀ v, vmInit u.memoryPages u.swapBlocks u.globals ≠ .error v) ∧
      (∀ v, c.exec k.pager ≠ .error v) ∧ ∃ ret k', (system u).step k (c, ret) k' := by
  obtain ⟨ret, s', hexec, -⟩ := exec_outcome (Sound.reachable h) hl
  refine ⟨fun v hv => ?_, fun v hv => ?_, ret, ⟨s', c.after k.current⟩, hl, hexec, rfl⟩
  · rw [vmInit_eq u] at hv
    cases hv
  · rw [hexec] at hv
    cases hv

/-- A fault on a page that was evicted, while the only frame is dirty. -/
theorem legal_call_returns_small : Legal .small (.fault (vpnToVa 0) false) ∧
    ∃ ret k', (system .small).step .small (.fault (vpnToVa 0) false, ret) k' := by
  have hl : Legal .small (.fault (vpnToVa 0) false) := by decide +kernel
  exact ⟨hl, (legal_call_returns Kernel.small_reachable hl).2.2⟩

end VmPager
