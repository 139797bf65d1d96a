import VmPager.Core.Twins

/-!
# The two kinds of pages are treated alike

The pager has a branch for swap-backed and one for file-backed pages in each of `vm_fault`, `tick`,
`evict` and `make_page_dirty`. On a page that is not fresh and has one slot they come to the same: two
states that differ only in the kind and the block of such a page go through the same loads, stores and
faults, with the same results.
-/

namespace VmPager

open Lib.Frames Lib.Transition

/-- The states differ only in the page `x`: it is swap-backed in `s` and file-backed in `t`, in the
same slot. A page that `t` can have as a file-backed one is not fresh. -/
structure Twins (x : PageRef) (s t : State) : Prop extends SameBut x s t where
  swap : (s.pages x).type = .swapBacked
  file : (t.pages x).type = .fileBacked
  mapped : ∃ pt vpn, s.slot pt vpn = some x

/-- The kernels run in step: they differ only in `x`, and the histories since `old` and `old'` only in
the name of its block. -/
structure InStep (u u' : Setup) (x : PageRef) (b b' : Option Name × ℕ) (old old' : List Event)
    (k k' : Kernel) : Prop where
  sound : Sound u k
  sound' : Sound u' k'
  current : k'.current = k.current
  alike : Alike x b b' old old' k.pager k'.pager
  mapped : ∃ pt vpn, k.pager.slot pt vpn = some x

section InStep

variable {u u' : Setup} {x : PageRef} {b b' : Option Name × ℕ} {old old' : List Event} {k k' : Kernel}
  (h : InStep u u' x b b' old old' k k')
include h

lemma InStep.legal {c : Call} (hc : c.IsAccess) : Legal k' c ↔ Legal k c := by
  have hiff : Legal ⟨k'.pager, k.current⟩ c ↔ Legal k c := h.alike.legal hc
  rwa [← h.current] at hiff

/-- **A call is carried out in step.** -/
theorem InStep.exec {c : Call} (hc : c.IsAccess) (hl : Legal k c) : ∃ ret m m',
    (system u).step k (c, ret) m ∧ (system u').step k' (c, ret) m' ∧
      InStep u u' x b b' old old' m m' := by
  obtain ⟨ret, s, hrun, -⟩ := exec_outcome h.sound hl
  obtain ⟨ret', t, hrun', -⟩ := exec_outcome h.sound' ((h.legal hc).2 hl)
  have hs : (system u).step k (c, ret) ⟨s, c.after k.current⟩ := ⟨hl, hrun, rfl⟩
  have hs' : (system u').step k' (c, ret') ⟨t, c.after k'.current⟩ := ⟨(h.legal hc).2 hl, hrun', rfl⟩
  obtain ⟨ho, hsound⟩ := h.sound.step hs
  obtain ⟨ho', hsound'⟩ := h.sound'.step hs'
  obtain ⟨pt, vpn, hslot⟩ := h.mapped
  have hslot' : k'.pager.slot pt vpn = some x := (h.alike.slot pt vpn).trans hslot
  obtain ⟨rfl, halike⟩ := h.alike.outcome h.sound.inv h.sound'.inv (.inl ⟨pt, vpn, hslot⟩)
    (.inl ⟨pt, vpn, hslot'⟩) hc ho ho'
  refine ⟨ret', _, _, hs, hs', hsound, hsound', by rw [h.current], halike, pt, vpn, ?_⟩
  rw [State.slot, ho.arenas h.sound.inv hc]
  exact hslot

/-- A step of the first kernel is one of the second. -/
theorem InStep.step {l : Label} (hc : l.1.IsAccess) {m : Kernel} (hs : (system u).step k l m) :
    ∃ m', (system u').step k' l m' ∧ InStep u u' x b b' old old' m m' := by
  obtain ⟨c, ret⟩ := l
  obtain ⟨ret', n, n', hn, hn', hstep⟩ := h.exec hc hs.1
  obtain ⟨rfl, rfl⟩ := step_unique hs hn
  exact ⟨n', hn', hstep⟩

/-- A step of the second kernel is one of the first. -/
theorem InStep.step' {l : Label} (hc : l.1.IsAccess) {m' : Kernel} (hs : (system u').step k' l m') :
    ∃ m, (system u).step k l m ∧ InStep u u' x b b' old old' m m' := by
  obtain ⟨c, ret⟩ := l
  obtain ⟨ret', n, n', hn, hn', hstep⟩ := h.exec hc ((h.legal hc).1 hs.1)
  obtain ⟨rfl, rfl⟩ := step_unique hs hn'
  exact ⟨n, hn, hstep⟩

end InStep

/-- **Kinds agree.** From two states that differ in the kind of one page, the same calls can be made,
return the same, and leave states that differ in that page alone; what was read, written and evicted
on the way is the same, up to the name of the page's block. -/
theorem kinds_agree {u u' : Setup} {k k' : Kernel} (hk : Sound u k) (hk' : Sound u' k')
    (hcur : k'.current = k.current) {x : PageRef} (h : Twins x k.pager k'.pager) {ls : List Label}
    (hls : ∀ l ∈ ls, l.1.IsAccess) :
    (∀ {m}, (system u).Reaches k ls m → ∃ m', (system u').Reaches k' ls m' ∧
      m'.current = m.current ∧ Alike x (k.pager.pages x).backing (k'.pager.pages x).backing
        k.pager.trace k'.pager.trace m.pager m'.pager) ∧
    ∀ {m'}, (system u').Reaches k' ls m' → ∃ m, (system u).Reaches k ls m ∧
      m'.current = m.current ∧ Alike x (k.pager.pages x).backing (k'.pager.pages x).backing
        k.pager.trace k'.pager.trace m.pager m'.pager := by
  have h₀ : InStep u u' x (k.pager.pages x).backing (k'.pager.pages x).backing k.pager.trace
      k'.pager.trace k k' :=
    ⟨hk, hk', hcur, { h with backing := rfl, backing' := rfl, trace := ⟨[], rfl, rfl⟩ }, h.mapped⟩
  constructor
  · intro m hr
    obtain ⟨m', hr', hm⟩ := hr.simulates (P := fun l => l.1.IsAccess)
      (R := InStep u u' x _ _ _ _) (fun _ _ _ _ hc hR hs => InStep.step hR hc hs) hls h₀
    exact ⟨m', hr', hm.current, hm.alike⟩
  · intro m' hr
    obtain ⟨m, hr', hm⟩ := hr.simulates (P := fun l => l.1.IsAccess)
      (R := fun m' m => InStep u u' x _ _ _ _ m m') (fun _ _ _ _ hc hR hs => InStep.step' hR hc hs) hls h₀
    exact ⟨m, hr', hm.current, hm.alike⟩

/-! ### Two states -/

section Physmem

variable (s : State) (r : PageRef) (p : ℕ) (d w : Bool)

lemma zeroFrame_fill_physmem : ((s.zeroFrame p).fill r p d w).physmem =
    store s.physmem (p * vmPagesize) (s.frame 0) := rfl

lemma readInto_fill_physmem (bk : Option Name × ℕ) : ((s.readInto bk p).fill r p d w).physmem =
    store s.physmem (p * vmPagesize) (s.disk bk.1 bk.2) := rfl

end Physmem

/-- Process 1 has one page, which is fresh. -/
def State.one : State := ((Setup.small.initial.created 1 10).switched 10).mapSwap 0 [1, 2]

/-- It stores to a second page, which is swap-backed. -/
def State.oneSwap : State := ((State.one.mapSwap 1 [2]).faultPage 1 true).2

/-- It stores to a second page, which is of a file. -/
def State.oneFile : State := ((State.one.mapNew [] 7).faultPage 1 true).2

lemma inv_one : Inv none State.one :=
  (((Inv.initial .small).created rfl rfl).switched 10).mapSwap rfl (by decide) rfl

lemma oneSwap_eq : State.oneSwap =
    ((((State.one.mapSwap 1 [2]).takeFree 1 []).zeroFrame 1).fill 1 1 true true) := rfl

lemma oneFile_eq : State.oneFile =
    ((((State.one.mapNew [] 7).takeFree 1 []).readInto (some [], 7) 1).fill 1 1 true true) := rfl

lemma inv_oneSwap : Inv none State.oneSwap :=
  ((inv_one.mapSwap rfl (by decide) rfl).faultDenied
    (show State.slot _ 10 1 = some 1 from rfl) rfl).1

lemma inv_oneFile : Inv none State.oneFile :=
  ((inv_one.mapNew rfl (by decide) rfl).faultDenied
    (show State.slot _ 10 1 = some 1 from rfl) rfl).1

lemma twins_one : Twins 1 State.oneSwap State.oneFile := by
  have hpages : ∀ {q}, q ≠ 1 → State.oneFile.pages q = State.oneSwap.pages q := by
    intro q hq
    rw [oneSwap_eq, oneFile_eq, fill_page, fill_page, if_neg hq, if_neg hq]
    exact (Function.update_of_ne hq _ _).trans (Function.update_of_ne hq _ _).symm
  have hflags : (State.oneFile.pages 1).flags = (State.oneSwap.pages 1).flags := rfl
  have hphysmem : State.oneFile.physmem = State.oneSwap.physmem := by
    have hzero : State.one.frame 0 = zeroPage := inv_one.contents.zero
    have hframe : ((State.one.mapSwap 1 [2]).takeFree 1 []).frame 0 = zeroPage := hzero
    have hdisk : ((State.one.mapNew [] 7).takeFree 1 []).disk (some []) 7 = zeroPage := rfl
    have hmem : ((State.one.mapNew [] 7).takeFree 1 []).physmem =
      ((State.one.mapSwap 1 [2]).takeFree 1 []).physmem := rfl
    rw [oneSwap_eq, oneFile_eq, zeroFrame_fill_physmem, readInto_fill_physmem, hframe, hdisk, hmem]
  have htables : State.oneFile.tables = State.oneSwap.tables := by
    refine tables_eq_of_flags inv_oneSwap.coherent inv_oneFile.coherent rfl (fun q => ?_) fun pt => ?_
    · by_cases hq : q = 1
      · rw [hq, hflags]
      · rw [hpages hq]
    · rw [oneSwap_eq, oneFile_eq]
      simp [State.one]
  exact ⟨⟨hpages, hflags, rfl, htables, rfl, rfl, rfl, rfl, rfl, rfl, hphysmem, rfl, rfl, rfl,
    fun _ _ => rfl⟩, rfl, rfl, 10, 1, rfl⟩

lemma sound_one {s : State} (h : Inv none s) (hm : s.maxSize = 2) (hb : s.maxBlocks = 3)
    (hc : s.pageTables.lookup 1 = some s.pageTableBaseRegister) : Sound .small ⟨s, some 1⟩ :=
  ⟨h, hm, hb, fun hp => by cases hp; exact hc⟩

/-- The page is stored to, and then a store to the fresh page evicts it. It is written to the swap file,
or to its file. -/
theorem kinds_agree_one : ∃ ls m m', ls.map Prod.fst =
      [.fault (vpnToVa 0) true, .store 1 ⟨0, vmPagesize_pos⟩ 97] ∧
    (system .small).Reaches ⟨State.oneSwap, some 1⟩ ls m ∧
    (system .small).Reaches ⟨State.oneFile, some 1⟩ ls m' ∧ .evicted 1 ∈ m.pager.trace ∧
    m'.current = m.current ∧ Alike 1 (none, 1) (some [], 7) State.oneSwap.trace State.oneFile.trace
      m.pager m'.pager := by
  let k : Kernel := ⟨State.oneSwap, some 1⟩
  obtain ⟨ret, hs⟩ := k.call_step .small (.store 1 ⟨0, vmPagesize_pos⟩ 97) (by decide +kernel)
  let k₁ := k.call (.store 1 ⟨0, vmPagesize_pos⟩ 97) (by decide +kernel)
  obtain ⟨ret₁, hs₁⟩ := k₁.call_step .small (.fault (vpnToVa 0) true) (by decide +kernel)
  have hr := ((System.Reaches.refl (T := system .small) k).step hs).step hs₁
  have haccess : ∀ l ∈ [((.fault (vpnToVa 0) true, ret₁) : Label), (.store 1 ⟨0, vmPagesize_pos⟩ 97,
      ret)], l.1.IsAccess := by
    intro l hl
    rcases List.mem_pair.1 hl with rfl | rfl
    · exact trivial
    · exact trivial
  obtain ⟨m', hr', hcur, halike⟩ := (kinds_agree (sound_one inv_oneSwap rfl rfl rfl)
    (sound_one inv_oneFile rfl rfl rfl) rfl twins_one haccess).1 hr
  exact ⟨_, _, m', rfl, hr, hr', by decide +kernel, hcur, halike⟩

end VmPager
