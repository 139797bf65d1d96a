import VmPager.Core.Step

/-!
# The addresses that are refused

`vm_fault` and `get_filename` compare an address with the base of the arena, and then the number of
its page with the number of valid pages. That number is cut to 32 bits, so that an address `2 ^ 48`
bytes past a valid one is taken for it: exactly the addresses below the arena, and those that are not
valid after the cut, are refused.
-/

namespace VmPager

open Lib.Exec Lib.Transition

/-- `vm_fault` and `vm_map` refuse the address, and nothing changes. -/
structure RefusesPointer (s : State) (a : BitVec 64) : Prop where
  fault : ∀ w, vmFault a w s = .ok (-1, s)
  map : a ≠ nullptr → ∀ block, vmMap a block s = .ok (nullptr, s)

/-- The address lies in a valid page of the current process. -/
def State.ValidPointer (s : State) (a : BitVec 64) : Prop :=
  vmArenaBaseaddr.toNat ≤ a.toNat ∧ a.toNat < vmArenaBaseaddr.toNat + vmPagesize * s.arenaSize

/-- The address is below the arena, or past the valid pages when its distance from the base is cut to
48 bits. -/
def State.PointerBeyond (s : State) (a : BitVec 64) : Prop :=
  a.toNat < vmArenaBaseaddr.toNat ∨
    vmPagesize * s.arenaSize ≤ (a.toNat - vmArenaBaseaddr.toNat) % 2 ^ 48

/-- These are the addresses that the comparisons refuse. -/
lemma beyond_iff (s : State) (a : BitVec 64) : s.PointerBeyond a ↔
    a < vmArenaBaseaddr ∨ s.slot s.pageTableBaseRegister (vaToVpn a) = none := by
  unfold State.PointerBeyond
  rw [BitVec.lt_def]
  by_cases hle : vmArenaBaseaddr.toNat ≤ a.toNat
  · refine or_congr_right ?_
    rw [State.slot, List.getElem?_eq_none_iff, vaToVpn_of_le hle,
      Nat.le_div_iff_mul_le vmPagesize_pos, mul_comm]
    rfl
  · rw [not_le] at hle
    simp only [hle, true_or]

section Pointers

variable {s : State} (h : Inv none s) {a : BitVec 64}
include h

/-- **An address that the comparisons refuse** changes nothing. -/
theorem refusesPointer_of_beyond (hb : s.PointerBeyond a) : RefusesPointer s a := by
  have hbad := (beyond_iff s a).1 hb
  refine ⟨vmFault_invalid h hbad, fun hne block => ?_⟩
  have hread : getFilename a s = .ok (none, s) := by
    apply getFilename_invalid h
    rcases hbad with hlt | hnone
    · exact .inl (slt_of_lt hlt)
    · exact .inr (List.getElem?_eq_none_iff.1 hnone)
  simp only [vmMap, bind_apply, lowestInvalidVpn_eq h, ok_bind, exec_ite, hne, if_false, hread,
    pure_apply, ite_self]

/-- **An address that they let through** is not refused without a trace: a fault that is refused has
called the disk. -/
theorem not_refusesPointer (hb : ¬ s.PointerBeyond a) : ¬ RefusesPointer s a := by
  rw [beyond_iff, not_or] at hb
  obtain ⟨hbase, hslot⟩ := hb
  obtain ⟨r, hs⟩ := Option.ne_none_iff_exists'.1 hslot
  intro href
  have hrun := href.fault true
  cases hden : (s.currentPte (vaToVpn a)).permits true with
  | true => exact absurd (vmFault_permitted h hbase hs hden hrun) (by decide)
  | false =>
    rw [vmFault_eq h hbase hs hden, Except.ok.injEq] at hrun
    obtain ⟨hrefused, -, new, hl⟩ := faultPage_outcome h (r := r) true
    have htrace := hl.trace
    rw [hrun, List.self_eq_append_left] at htrace
    obtain ⟨e, he, -⟩ := hl.failed_iff.1 (hrefused.1 (congrArg Prod.fst hrun))
    rw [htrace] at he
    cases he

end Pointers

/-- **Which addresses are refused.** -/
theorem pointer_refused_iff {u : Setup} {k : Kernel} (h : (system u).Reachable k) (a : BitVec 64) :
    RefusesPointer k.pager a ↔ k.pager.PointerBeyond a := by
  have hinv := (Sound.reachable h).inv
  constructor
  · intro href
    by_contra hb
    exact not_refusesPointer hinv hb href
  · exact refusesPointer_of_beyond hinv

/-- Process 1 has one page, which is fresh. -/
def Kernel.onePage : Kernel :=
  Setup.small.kernel [.create 0 1 10, .switch 1, .map nullptr 0] (by decide +kernel)

/-- The address after the only page is refused. -/
theorem pointer_refused_iff_onePage : RefusesPointer Kernel.onePage.pager (vpnToVa 1) :=
  (pointer_refused_iff (Setup.small.kernel_reachable _ _) (vpnToVa 1)).2 (.inr (by decide +kernel))

/-- An address `2 ^ 48` bytes past the only page is taken for it: a fault on it is resolved, and the
page is read for a name, and a page of the file mapped. -/
theorem wrapped_pointer_accepted : (system .small).Reachable Kernel.onePage ∧
    ¬ Kernel.onePage.pager.ValidPointer 0x1000600000000#64 ∧
    (∃ s', vmFault 0x1000600000000#64 true Kernel.onePage.pager = .ok (0, s')) ∧
    (∃ s', vmMap 0x1000600000000#64 7 Kernel.onePage.pager = .ok (vpnToVa 1, s')) ∧
    ¬ RefusesPointer Kernel.onePage.pager 0x1000600000000#64 := by
  obtain ⟨s₁, h₁⟩ := ok_of_gives (x := vmFault 0x1000600000000#64 true) (a := 0)
    (s := Kernel.onePage.pager) (by decide +kernel)
  obtain ⟨s₂, h₂⟩ := ok_of_gives (x := vmMap 0x1000600000000#64 7) (a := vpnToVa 1)
    (s := Kernel.onePage.pager) (by decide +kernel)
  refine ⟨Setup.small.kernel_reachable _ _, ?_, ⟨s₁, h₁⟩, ⟨s₂, h₂⟩, fun href => ?_⟩
  · unfold State.ValidPointer
    decide +kernel
  · have hfault := href.fault true
    rw [h₁] at hfault
    cases hfault

end VmPager
