import VmPager.Core.Step

/-!
# What `vm_create` promises

The child's arena should have the mappings and the data of the parent's. `vm_create` does not look at
the parent: it starts the child with an empty arena and returns 0, so it keeps the promise exactly for
parents without pages.
-/

namespace VmPager

open Lib.Transition

/-- The page `q` at `vpn` of the child is a copy of the page `r` of the parent. -/
structure CopyOf (s : State) (r : PageRef) (s' : State) (cpt : Ptbr) (vpn : ℕ) (q : PageRef) :
    Prop where
  type : (s'.pages q).type = (s.pages r).type
  bytes : s'.content q = s.content r
  file : (s.pages r).type = .fileBacked → (s'.pages q).filename = (s.pages r).filename ∧
    (s'.pages q).fileBlock = (s.pages r).fileBlock
  /-- A swap-backed page has a block reserved that no other page has. -/
  swap : (s.pages r).type = .swapBacked → (s'.pages q).swapBlock < s'.maxBlocks ∧
    (s'.pages q).swapBlock ∉ s'.freeBlocks ∧ ∀ {pt vpn' x}, s'.slot pt vpn' = some x →
      (s'.pages x).type = .swapBacked → (s'.pages x).swapBlock = (s'.pages q).swapBlock →
      pt = cpt ∧ vpn' = vpn

/-- The arena of the child is a copy of that of the parent. -/
structure Forked (s : State) (ppt : Ptbr) (s' : State) (cpt : Ptbr) : Prop where
  size : (s'.arenas cpt).length = (s.arenas ppt).length
  pages : ∀ {vpn r}, s.slot ppt vpn = some r → ∃ q, s'.slot cpt vpn = some q ∧
    CopyOf s r s' cpt vpn q

/-- What `vm_create` promises: 0 for a fork, else -1 and no change. -/
def ForkLaw (s : State) (ppt cpt : Ptbr) (res : ℤ) (s' : State) : Prop :=
  (res = 0 → Forked s ppt s' cpt) ∧ (res ≠ 0 → res = -1 ∧ s' = s)

/-- The state that `vm_create` leaves keeps the promise for an empty arena only. -/
lemma forkLaw_created_iff {s : State} {ppt cpt : Ptbr} {childPid : Pid} :
    ForkLaw s ppt cpt 0 (s.created childPid cpt) ↔ s.arenas ppt = [] := by
  have hempty : (s.created childPid cpt).arenas cpt = [] := Function.update_self ..
  constructor
  · rintro ⟨hfork, -⟩
    have hsize := (hfork rfl).size
    rw [hempty, List.length_nil] at hsize
    exact List.length_eq_zero_iff.1 hsize.symm
  · intro hparent
    refine ⟨fun _ => ⟨?_, fun {vpn r} hs => ?_⟩, absurd rfl⟩
    · rw [hempty, hparent]
    · rw [State.slot, hparent] at hs
      cases hs

/-- **The fork promised for `vm_create`** is kept exactly when the parent has no pages. That the state is
reachable and `ppt` the parent's page table only restates the domain: `vm_create` looks at neither. -/
theorem fork_law_iff {u : Setup} {k : Kernel} (_h : (system u).Reachable k) {parentPid childPid : Pid}
    {ppt cpt : Ptbr} (_hparent : k.pager.pageTables.lookup parentPid = some ppt)
    (hl : Legal k (.create parentPid childPid cpt)) :
    ∃ res s', (system u).step k (.create parentPid childPid cpt, .code res) ⟨s', k.current⟩ ∧
      (ForkLaw k.pager ppt cpt res s' ↔ k.pager.arenas ppt = []) := by
  refine ⟨0, k.pager.created childPid cpt, ⟨hl, ?_, rfl⟩, forkLaw_created_iff⟩
  simp only [Call.exec, Lib.Exec.bind_apply, vmCreate_eq, Lib.Exec.ok_bind, Lib.Exec.pure_apply]

/-- The parent has two pages, of which one is in memory and one on disk. -/
theorem fork_law_iff_small : ∃ res s',
    (system .small).step .small (.create 1 2 20, .code res) ⟨s', Kernel.small.current⟩ ∧
    (ForkLaw Kernel.small.pager 10 20 res s' ↔ Kernel.small.pager.arenas 10 = []) :=
  fork_law_iff Kernel.small_reachable (by decide +kernel) (by decide +kernel)

/-- Process 1 has one fresh page when it makes process 2: `vm_create` returns 0, and process 2 has no
page. -/
theorem fork_law_fails : ∃ k : Kernel, (system .small).Reachable k ∧
    k.pager.pageTables.lookup 1 = some 10 ∧ Legal k (.create 1 2 20) ∧
    ∃ s', vmCreate 1 2 20 k.pager = .ok (0, s') ∧ ¬ ForkLaw k.pager 10 20 0 s' := by
  let k := Setup.small.kernel [.create 0 1 10, .switch 1, .map nullptr 0] (by decide +kernel)
  have harena : k.pager.arenas 10 ≠ [] := by decide +kernel
  exact ⟨k, Setup.small.kernel_reachable _ _, by decide +kernel, by decide +kernel,
    k.pager.created 2 20, vmCreate_eq _ 1 2 20, fun hlaw => harena (forkLaw_created_iff.1 hlaw)⟩

end VmPager
