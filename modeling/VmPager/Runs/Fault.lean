import VmPager.Core.Step
import VmPager.Core.Outcome

/-!
# A fault is resolved, or refused for a reason

`vm_fault` refuses an address past the valid pages, and a page that cannot be brought in because a
disk call fails. Otherwise the entry permits the access afterwards, and the frame has the bytes of the
page.
-/

namespace VmPager

open Lib.Transition

/-- The page of the frame the clock chooses. -/
def State.ClockVictim (s : State) (r : PageRef) : Prop :=
  ∃ v s', nextEvictionPpn (s.activePages.length + 1) s = .ok (v, s') ∧
    s.physMemPages[v]? = some (some r)

/-- Memory is full, and the clock's victim is dirty and its `file_write` fails. -/
def State.CannotEvict (s : State) : Prop :=
  s.freePages = [] ∧ ∃ r, s.ClockVictim r ∧ (s.pages r).dirty = true ∧ s.writes.head = false

/-- The page needs a frame: it is fresh, or not in memory. -/
def PageState.NeedsFrame (X : PageState) : Prop :=
  X.resident = false ∨ (X.type = .swapBacked ∧ X.resident = true ∧ X.ppn = 0)

/-- Why a fault on the page `vpn` of the current arena is refused. -/
def State.Refuses (s : State) (vpn : ℕ) : Prop :=
  s.arenaSize ≤ vpn ∨ ∃ r, s.slot s.pageTableBaseRegister vpn = some r ∧
    (((s.pages r).NeedsFrame ∧ s.CannotEvict) ∨ ((s.pages r).resident = false ∧ s.readFails))

/-- The page `vpn` of the current arena after a fault that is resolved. -/
structure FaultResolved (s s' : State) (vpn : ℕ) (write : Bool) (r : PageRef) : Prop where
  slot : s.slot s.pageTableBaseRegister vpn = some r
  entry : (s'.currentPte vpn).readEnable = true ∧
    (write = true → (s'.currentPte vpn).writeEnable = true ∧ (s'.pages r).dirty = true)
  page : (s'.pages r).referenced = true ∧ (s'.pages r).resident = true
  /-- The entry names the frame, and the frame has the bytes of the page. -/
  frame : (s'.currentPte vpn).ppage = (s'.pages r).ppn ∧ (s'.pages r).ppn ≠ 0 ∧
    s'.frame (s'.pages r).ppn = s.content r
  /-- A fresh page is zero. -/
  fresh : (s.pages r).resident = true → (s.pages r).ppn = 0 →
    s'.frame (s'.pages r).ppn = zeroPage
  /-- The page was not evicted for itself. -/
  spared : ∃ new, s'.trace = new ++ s.trace ∧ .evicted r ∉ new

section Fault

variable {s : State} (h : Inv none s)
include h

lemma victim_iff (hfree : s.freePages = []) (r : PageRef) : s.victim = some r ↔ s.ClockVictim r := by
  rcases takeFrame_cases h with ⟨p, l, hcons, -⟩ | ⟨v, passed, rest, q, -, hsw, ho, hvic, -⟩
  · rw [hfree] at hcons
    cases hcons
  · have hnext := nextEvictionPpn_eq _ h hsw
    rw [hvic, ← ho, owner_eq_some]
    constructor
    · exact fun hp => ⟨v, _, hnext, hp⟩
    · rintro ⟨v', s', hnext', hp⟩
      rw [hnext] at hnext'
      cases hnext'
      exact hp

lemma noRoom_iff : s.NoRoom ↔ s.CannotEvict := by
  refine and_congr_right fun hfree => exists_congr fun r => ?_
  rw [victim_iff h hfree]

lemma needsFrame_iff {r : PageRef} (hr : s.Held r) :
    (s.pages r).NeedsFrame ↔ ¬ (s.pages r).Framed := by
  have hfresh := (h.frames.flags_ok hr).fresh
  unfold PageState.NeedsFrame PageState.Framed
  cases hres : (s.pages r).resident with
  | false => simp
  | true =>
    rw [hres] at hfresh
    simp only [true_and, ne_eq, not_not, Bool.true_eq_false, false_or]
    exact ⟨And.right, fun h0 => ⟨(hfresh rfl h0).1, h0⟩⟩

lemma refused_iff {vpn : ℕ} {r : PageRef} (hs : s.slot s.pageTableBaseRegister vpn = some r) :
    s.Refused r ↔ s.Refuses vpn := by
  have hlt : ¬ s.arenaSize ≤ vpn := by
    intro hle
    have hnone : s.slot s.pageTableBaseRegister vpn = none := List.getElem?_eq_none_iff.2 hle
    rw [hnone] at hs
    cases hs
  simp only [State.Refuses, hlt, false_or, hs, Option.some.injEq, exists_eq_left', State.Refused,
    needsFrame_iff h (.inl ⟨_, _, hs⟩), noRoom_iff h]

/-- **A fault on a valid page.** -/
theorem faultPage_resolved {vpn : ℕ} {r : PageRef} {write : Bool}
    (hs : s.slot s.pageTableBaseRegister vpn = some r)
    (hden : (s.pages r).flags.pte.permits write = false) (hne : (s.faultPage r write).1 ≠ -1) :
    FaultResolved s (s.faultPage r write).2 vpn write r := by
  have hr : s.Held r := .inl ⟨_, _, hs⟩
  obtain ⟨hinv, hev⟩ := h.faultDenied hs hden
  obtain ⟨-, hres, new, hleaves⟩ := faultPage_outcome h (r := r) write
  obtain ⟨-, hf, href, hdirty⟩ := hres hne
  have hs' := hs
  rw [← hev.layout.slot, ← hev.layout.ptbr] at hs'
  have hpte := (currentPte_eq hinv hs').1
  rw [pte_referenced hf.1 href] at hpte
  have hframe : (s.faultPage r write).2.frame ((s.faultPage r write).2.pages r).ppn =
      s.content r := by
    rw [← hev.content hr, State.content, if_pos hf.1]
  refine ⟨hs, ?_, ⟨href, hf.1⟩, ⟨?_, hf.2, hframe⟩, fun hres0 h0 => ?_, new, hleaves.trace,
    hleaves.spared⟩
  · rw [hpte]
    exact ⟨rfl, fun hw => ⟨hdirty hw, hdirty hw⟩⟩
  · rw [hpte]
  · rw [hframe, State.content, if_pos hres0, h0, h.contents.zero]

end Fault

/-- **A fault is resolved or refused.** -/
theorem fault_resolves {u : Setup} {k : Kernel} (h : (system u).Reachable k) {addr : BitVec 64}
    {write : Bool} (hl : Legal k (.fault addr write)) :
    ∃ res s', vmFault addr write k.pager = .ok (res, s') ∧
      (res = -1 ↔ k.pager.Refuses (arenaVpn addr)) ∧
      (res ≠ -1 → res = 0 ∧ ∃ r, FaultResolved k.pager s' (arenaVpn addr) write r) := by
  have hinv := (Sound.reachable h).inv
  obtain ⟨-, harena, hden⟩ := hl
  have hvpn := vaToVpn_of_inArena harena
  cases hs : k.pager.slot k.pager.pageTableBaseRegister (arenaVpn addr) with
  | none =>
    refine ⟨-1, k.pager, vmFault_invalid hinv (.inr (by rw [hvpn]; exact hs)) write, ?_, absurd rfl⟩
    exact ⟨fun _ => .inl (List.getElem?_eq_none_iff.1 hs), fun _ => rfl⟩
  | some r =>
    have hden' := hden
    rw [(currentPte_eq hinv hs).1] at hden'
    have heq := vmFault_eq hinv (not_lt_of_inArena harena) (by rw [hvpn]; exact hs)
      (by rw [hvpn]; exact hden)
    obtain ⟨hrefused, hzero, -⟩ := faultPage_outcome hinv (r := r) write
    refine ⟨_, _, heq, hrefused.trans (refused_iff hinv hs), fun hne => ⟨(hzero hne).1, r, ?_⟩⟩
    exact faultPage_resolved hinv hs hden' hne

/-- The page that was evicted is faulted on, with the other dirty in the only frame. -/
theorem fault_resolves_small : ∃ res s', vmFault (vpnToVa 0) false Kernel.small.pager = .ok (res, s') ∧
    (res = -1 ↔ Kernel.small.pager.Refuses (arenaVpn (vpnToVa 0))) ∧
    (res ≠ -1 → res = 0 ∧
      ∃ r, FaultResolved Kernel.small.pager s' (arenaVpn (vpnToVa 0)) false r) :=
  fault_resolves Kernel.small_reachable (by decide +kernel)

end VmPager
