import VmPager.Core.Step
import VmPager.Runs.Clock

/-!
# The end of a process

`vm_destroy` gives back the swap blocks and the frames of the process, and nothing else. No structure
of the pager refers to its page table afterwards, so a process that gets a page table at the same
address starts with nothing; the pages of the other processes and those of files are as before.
-/

namespace VmPager

open Lib.Exec Lib.Transition

/-! ### What is released -/

/-- A resident swap-backed page of the arena has the frame, which is not the zero frame. -/
def State.HoldsFrame (s : State) (pt : Ptbr) (p : ℕ) : Prop :=
  p ≠ 0 ∧ ∃ r ∈ s.arenas pt,
    (s.pages r).type = .swapBacked ∧ (s.pages r).resident = true ∧ (s.pages r).ppn = p

instance (s : State) (pt : Ptbr) : DecidablePred (s.HoldsFrame pt) := fun p => by
  unfold State.HoldsFrame; infer_instance

/-- Nothing but `page_tables` refers to the page table. -/
structure Unreferenced (s : State) (pt : Ptbr) : Prop where
  arena : s.arenas pt = []
  /-- It is no key of the shared entries of a file page, and none of them is one of its entries. -/
  key : ∀ {n b r}, s.fileTable n b = some r → pt ∉ (s.pages r).sharedPtes
  pte : ∀ {n b r pt' e}, s.fileTable n b = some r → e ∈ (s.pages r).ptesUnder pt' → e.table ≠ pt
  /-- No swap-backed page with a frame is owned by it. -/
  owner : ∀ {p r}, s.owner p = some r → (s.pages r).type = .swapBacked → (s.pages r).ownerPtbr ≠ pt

/-- From `s` to `s'` the process with the page table `pt` gives back what it holds. -/
structure Releases (s s' : State) (pt : Ptbr) : Prop where
  /-- The blocks of its swap-backed pages, one by one, each once. -/
  blocks : s'.freeBlocks = s.freeBlocks ++
    ((s.arenas pt).filter s.IsSwap).map fun r => (s.pages r).swapBlock
  block_once : ∀ {r}, r ∈ s.arenas pt → (s.pages r).type = .swapBacked →
    s'.freeBlocks.count (s.pages r).swapBlock = 1
  /-- Its frames leave the active queue, in which the others keep their order. -/
  active : s'.activePages = s.activePages.filter fun p => ¬ s.HoldsFrame pt p
  /-- They go to the back of the free queue, each once. -/
  free : ∃ ppns, s'.freePages = s.freePages ++ ppns ∧ ∀ p, p ∈ ppns ↔ s.HoldsFrame pt p
  frame_once : ∀ {p}, s.HoldsFrame pt p → s.activePages.count p = 1 ∧ s.freePages.count p = 0 ∧
    s'.activePages.count p = 0 ∧ s'.freePages.count p = 1

/-- From `s` to `s'` the page keeps its flags, its bytes and its frame. -/
structure PageUntouched (s s' : State) (r : PageRef) : Prop where
  flags : (s'.pages r).flags = (s.pages r).flags
  content : s'.content r = s.content r
  frame : s'.frame (s'.pages r).ppn = s.frame (s.pages r).ppn
  owner : ∀ {p}, s.owner p = some r → s'.owner p = some r

/-- What the end of the process `pid` with the page table `pt` leaves alone. -/
structure OthersKept (s s' : State) (pid : Pid) (pt : Ptbr) : Prop where
  process : ∀ {pid'}, pid' ≠ pid → s'.pageTables.lookup pid' = s.pageTables.lookup pid'
  arena : ∀ {pt'}, pt' ≠ pt → s'.arenas pt' = s.arenas pt'
  entries : ∀ {pt'}, pt' ≠ pt → s'.tables pt' = s.tables pt'
  /-- The pages of the other processes. -/
  page : ∀ {pt' r}, pt' ≠ pt → r ∈ s.arenas pt' → PageUntouched s s' r
  fileTable : s'.fileTable = s.fileTable
  /-- The pages of files, whether or not another process has them mapped. -/
  file : ∀ {n b r}, s.fileTable n b = some r → PageUntouched s s' r
  shared : ∀ {n b r pt'}, s.fileTable n b = some r → pt' ≠ pt →
    (s'.pages r).ptesUnder pt' = (s.pages r).ptesUnder pt'
  physmem : s'.physmem = s.physmem
  disk : s'.disk = s.disk

/-! ### No reference is left -/

/-- In a state of the invariant, nothing refers to a page table with no pages. -/
theorem unreferenced_of_empty {s : State} (h : Inv none s) {pt : Ptbr} (ha : s.arenas pt = []) :
    Unreferenced s pt := by
  have hslot : ∀ vpn r, s.slot pt vpn ≠ some r := by
    intro vpn r hs
    rw [State.slot, ha] at hs
    cases hs
  refine ⟨ha, fun {n b r} hf hk => ?_, fun {n b r pt' e} hf he hpt => ?_,
    fun {p r} ho ht hpt => ?_⟩
  · -- a key has an entry, and an entry a slot
    obtain ⟨e, he⟩ := List.exists_mem_of_ne_nil _ (h.layout.shared_key hf pt hk)
    exact hslot _ _ ((h.layout.shared_iff hf pt e).1 he).2
  · obtain ⟨htable, hs⟩ := (h.layout.shared_iff hf pt' e).1 he
    rw [← htable, hpt] at hs
    exact hslot _ _ hs
  · obtain ⟨pt', vpn, hs⟩ := h.layout.slot_of_swap (h.frames.owner_held ho) ht
    rw [← (h.layout.swap_slot hs ht).1, hpt] at hs
    exact hslot _ _ hs

section Destroyed

variable {s : State} (h : Inv none s) {pid : Pid}
  (hpid : s.pageTables.lookup pid = some s.pageTableBaseRegister) {ppns : List ℕ}
  (hp : ppns.Perm (s.frameSet (s.arenas s.pageTableBaseRegister)))
include h

omit h in
/-- The frames given back are those the process holds, and perhaps the zero frame. -/
lemma mem_frameSet_iff {p : ℕ} (h0 : p ≠ 0) :
    p ∈ s.frameSet (s.arenas s.pageTableBaseRegister) ↔ s.HoldsFrame s.pageTableBaseRegister p := by
  rw [mem_frameSet, State.HoldsFrame, and_iff_right h0]

/-- A frame that the process holds is active. -/
lemma State.HoldsFrame.active {p : ℕ} (hf : s.HoldsFrame s.pageTableBaseRegister p) :
    p ∈ s.activePages := by
  obtain ⟨h0, r, hr, -, hres, rfl⟩ := hf
  obtain ⟨i, hi⟩ := List.mem_iff_getElem?.1 hr
  exact (h.frames.owner_ok (h.frames.owned (.inl ⟨_, i, hi⟩) ⟨hres, h0⟩)).1

/-- A page that is still in use is as it was. -/
lemma pageUntouched_destroyed {r : PageRef} (hr : (s.destroyed pid ppns).Held r) :
    PageUntouched s (s.destroyed pid ppns) r := by
  have hfl := destroyed_flags s pid ppns r
  refine ⟨hfl, destroyed_content s pid ppns r, ?_, fun {p} ho => ?_⟩
  · rw [ppn_congr hfl]
    rfl
  · rw [destroyed_owner, if_neg (destroyed_frame_kept h hr ho)]
    exact ho

theorem othersKept_destroyed : OthersKept s (s.destroyed pid ppns) pid s.pageTableBaseRegister where
  process hne := AList.lookup_erase_ne hne
  arena hne := Function.update_of_ne hne _ _
  entries hne := Function.update_of_ne hne _ _
  page {pt' r} hne hr := by
    obtain ⟨vpn, hvpn⟩ := List.mem_iff_getElem?.1 hr
    refine pageUntouched_destroyed h (.inl ⟨pt', vpn, ?_⟩)
    rw [destroyed_slot, if_neg hne]
    exact hvpn
  fileTable := rfl
  file {n b r} hf := pageUntouched_destroyed h (.inr ⟨n, b, hf⟩)
  shared hf hne := by rw [destroyed_ptesUnder h hf, if_neg hne]
  physmem := rfl
  disk := rfl

include hpid hp

/-- **The blocks and frames of the process are given back**, each once. -/
theorem releases_destroyed : Releases s (s.destroyed pid ppns) s.pageTableBaseRegister := by
  have h' := h.destroyed hpid hp
  have hblocks : (s.destroyed pid ppns).freeBlocks = s.freeBlocks ++
      ((s.arenas s.pageTableBaseRegister).filter s.IsSwap).map fun r => (s.pages r).swapBlock := rfl
  have hactive : (s.destroyed pid ppns).activePages =
      s.activePages.filter fun p => ¬ s.HoldsFrame s.pageTableBaseRegister p := by
    apply List.filter_congr
    intro p ha
    simp only [hp.mem_iff, mem_frameSet_iff (h.frames.active_pos ha).1]
  have hfree : ∀ p, p ∈ ppns.filter (· ∈ s.activePages) ↔
      s.HoldsFrame s.pageTableBaseRegister p := by
    intro p
    rw [List.mem_filter, decide_eq_true_eq, hp.mem_iff]
    constructor
    · rintro ⟨hset, ha⟩
      exact (mem_frameSet_iff (h.frames.active_pos ha).1).1 hset
    · intro hf
      exact ⟨(mem_frameSet_iff hf.1).2 hf, hf.active h⟩
  have hnd := h.frames.queues_nodup
  have hnd' := h'.frames.queues_nodup
  refine ⟨hblocks, fun {r} hr ht => ?_, hactive, ⟨_, rfl, hfree⟩, fun {p} hf => ⟨?_, ?_, ?_, ?_⟩⟩
  · -- the free blocks of the invariant are all different
    have hblocks' := h'.layout.blocks.nodup_iff.2 List.nodup_range
    refine List.count_eq_one_of_mem (List.nodup_append.1 hblocks').1 ?_
    rw [hblocks]
    apply List.mem_append_right
    exact List.mem_map.2 ⟨r, List.mem_filter.2 ⟨hr, by simp [State.IsSwap, ht]⟩, rfl⟩
  · exact List.count_eq_one_of_mem h.frames.active_nodup (hf.active h)
  · refine List.count_eq_zero.2 fun hmem => ?_
    exact (List.nodup_append.1 hnd).2.2 p hmem p (hf.active h) rfl
  · rw [hactive]
    refine List.count_eq_zero.2 fun hmem => ?_
    rw [List.mem_filter, decide_eq_true_eq] at hmem
    exact hmem.2 hf
  · refine List.count_eq_one_of_mem (List.nodup_append.1 hnd').1 ?_
    exact List.mem_append_right s.freePages ((hfree p).2 hf)

end Destroyed

/-- **`vm_destroy` gives back what the process holds**, and no more. Afterwards nothing refers to its
page table, also when another process gets one at the same address. -/
theorem destroy_releases {u : Setup} {k : Kernel} (h : (system u).Reachable k) {pid : Pid}
    (hcur : k.current = some pid) (order : IterOrder) :
    ∃ s', vmDestroy order k.pager = .ok ((), s') ∧
      Releases k.pager s' k.pager.pageTableBaseRegister ∧
      OthersKept k.pager s' pid k.pager.pageTableBaseRegister ∧
      Unreferenced s' k.pager.pageTableBaseRegister ∧
      (∀ pid', s'.pageTables.lookup pid' ≠ some k.pager.pageTableBaseRegister) ∧
      ∀ {ls k₂ parent child ret k₃}, (system u).Reaches ⟨s', none⟩ ls k₂ →
        (system u).step k₂ (.create parent child k.pager.pageTableBaseRegister, ret) k₃ →
        Unreferenced k₃.pager k.pager.pageTableBaseRegister := by
  have hsound := Sound.reachable h
  have hinv := hsound.inv
  have hpid := hsound.current hcur
  have hperm := order.perm (k.pager.frameSet (k.pager.arenas k.pager.pageTableBaseRegister))
  have hrun := vmDestroy_eq hinv hpid order
  have hinv' := hinv.destroyed hpid hperm
  refine ⟨_, hrun, releases_destroyed hinv hpid hperm, othersKept_destroyed hinv,
    unreferenced_of_empty hinv' (Function.update_self ..),
    fun pid' hl => ((lookup_erase_iff hinv hpid).1 hl).2 rfl, fun {ls k₂ parent child ret k₃} hr hs => ?_⟩
  have hstep : (system u).step k (.destroy order, .done) ⟨k.pager.destroyed pid (order.iter
      (k.pager.frameSet (k.pager.arenas k.pager.pageTableBaseRegister))), none⟩ := by
    refine ⟨by simp [Legal, hcur], ?_, rfl⟩
    simp only [Call.exec, bind_apply, hrun, ok_bind, pure_apply]
  have hreach := (h.step hstep).reaches hr
  refine unreferenced_of_empty (Sound.reachable (hreach.step hs)).inv ?_
  have ho := step_outcome hreach hs
  generalize k₃.pager = t at ho ⊢
  cases ho with
  | create => exact Function.update_self ..

/-- Process 1 has a page that was evicted, one in the only frame, and one of a file that process 2 has
mapped too. -/
def Kernel.sharing : Kernel :=
  Setup.small.kernel [.create 0 1 10, .create 0 2 20, .switch 2, .map nullptr 0, .map (vpnToVa 0) 7,
    .switch 1, .map nullptr 0, .fault (vpnToVa 0) true, .store 0 ⟨0, vmPagesize_pos⟩ 0, .map nullptr 0,
    .map (vpnToVa 0) 7, .fault (vpnToVa 1) true] (by decide +kernel)

theorem destroy_releases_sharing : ∃ s',
    vmDestroy ⟨id, fun _ => .refl _⟩ Kernel.sharing.pager = .ok ((), s') ∧
    Releases Kernel.sharing.pager s' 10 ∧ OthersKept Kernel.sharing.pager s' 1 10 ∧
    Unreferenced s' 10 := by
  have hcur : Kernel.sharing.current = some 1 := by decide +kernel
  have hpt : Kernel.sharing.pager.pageTableBaseRegister = 10 := by decide +kernel
  have hreach : (system .small).Reachable Kernel.sharing := Setup.small.kernel_reachable _ _
  obtain ⟨s', hrun, hrel, hothers, hunref, -⟩ :=
    destroy_releases hreach hcur ⟨id, fun _ => .refl _⟩
  rw [hpt] at hrel hothers hunref
  exact ⟨s', hrun, hrel, hothers, hunref⟩

end VmPager
