import VmPager.Core.Moves
import VmPager.Lib.LastWrite

/-!
# Swap-backed memory is private

What a process loads from its swap-backed pages depends on its own stores and on nothing else: not on
another process, nor on one that has ended, a file, the number of frames, or what was in a frame or on
a block before.
-/

namespace VmPager

open Lib.LastWrite Lib.Transition

/-- The process that runs after the calls of a run, newest first. -/
def running (calls : List Call) : Option Pid := calls.foldr Call.after none

/-- The stores of a process since it was created, newest first. -/
def ownStores (pid : Pid) : List Call → List ((ℕ × Fin vmPagesize) × UInt8)
  | [] => []
  | .create _ childPid _ :: calls => if childPid = pid then [] else ownStores pid calls
  | .store vpn offset byte :: calls =>
    if running calls = some pid then ((vpn, offset), byte) :: ownStores pid calls
    else ownStores pid calls
  | _ :: calls => ownStores pid calls

/-- The memory of a process, as its own stores make it. -/
def ownMemory (calls : List Call) (pid : Pid) (vpn : ℕ) : Page :=
  fun offset => lastWrite (fun _ => 0) (ownStores pid calls) (vpn, offset)

/-- A new process finds zeroes. -/
lemma ownMemory_create (calls : List Call) (parentPid childPid : Pid) (childPtbr : Ptbr) :
    ownMemory (.create parentPid childPid childPtbr :: calls) =
      Function.update (ownMemory calls) childPid fun _ => zeroPage := by
  funext pid
  by_cases hp : pid = childPid
  · subst hp
    rw [Function.update_self]
    funext vpn offset
    rw [ownMemory, ownStores, if_pos rfl, lastWrite_nil]
    rfl
  · rw [Function.update_of_ne hp]
    funext vpn offset
    rw [ownMemory, ownStores, if_neg (Ne.symm hp), ownMemory]

/-- A store is seen by the process that runs. -/
lemma ownMemory_store {calls : List Call} {pid : Pid} (hrun : running calls = some pid) (vpn : ℕ)
    (offset : Fin vmPagesize) (byte : UInt8) :
    ownMemory (.store vpn offset byte :: calls) = Function.update (ownMemory calls) pid
      (Function.update (ownMemory calls pid) vpn
        (Function.update (ownMemory calls pid vpn) offset byte)) := by
  funext pid'
  by_cases hp : pid' = pid
  · subst hp
    rw [Function.update_self]
    funext vpn' offset'
    rw [ownMemory, ownStores, if_pos hrun, lastWrite_cons]
    by_cases hv : vpn' = vpn
    · subst hv
      rw [Function.update_self, Function.update_apply, Function.update_apply]
      simp only [Prod.mk.injEq, true_and, ownMemory]
    · rw [Function.update_of_ne (by simp [hv]), Function.update_of_ne hv]
      rfl
  · have hne : running calls ≠ some pid' := by
      rw [hrun]
      exact fun he => hp (Option.some.inj he).symm
    rw [Function.update_of_ne hp]
    funext vpn' offset'
    rw [ownMemory, ownStores, if_neg hne, ownMemory]

/-- Swap-backed pages have the bytes of the memory of their process, which is zero past the valid
pages. -/
structure Separate (s : State) (memory : Pid → ℕ → Page) : Prop where
  content : ∀ {pid pt vpn r}, s.pageTables.lookup pid = some pt → s.slot pt vpn = some r →
    (s.pages r).type = .swapBacked → s.content r = memory pid vpn
  fresh : ∀ {pid pt vpn}, s.pageTables.lookup pid = some pt → s.slot pt vpn = none →
    memory pid vpn = zeroPage

namespace Separate

variable {s s' : State} {memory : Pid → ℕ → Page} (hsep : Separate s memory)
include hsep

/-- Faults change no bytes. -/
lemma evolves (hev : Evolves s s') : Separate s' memory where
  content {pid pt vpn r} hpid hs ht := by
    rw [hev.layout.pageTables] at hpid
    rw [hev.layout.slot] at hs
    rw [hev.layout.type] at ht
    rw [hev.content (.inl ⟨pt, vpn, hs⟩)]
    exact hsep.content hpid hs ht
  fresh hpid hs := by
    rw [hev.layout.pageTables] at hpid
    rw [hev.layout.slot] at hs
    exact hsep.fresh hpid hs

/-- A page at the end of the arena is zero, when it is swap-backed. -/
lemma grows {r : PageRef} (g : Grows r s s')
    (hnew : (s'.pages r).type = .swapBacked → s'.content r = zeroPage) : Separate s' memory where
  content {pid pt vpn q} hpid hs ht := by
    rw [g.pageTables] at hpid
    rcases (g.slot_iff pt vpn q).1 hs with hs | ⟨hnext, rfl⟩
    · have hq : s.Held q := .inl ⟨pt, vpn, hs⟩
      rw [g.type hq] at ht
      rw [g.content hq]
      exact hsep.content hpid hs ht
    · have hempty := Grows.nextSlot_empty (s := s)
      rw [← hnext] at hempty
      rw [hnew ht, hsep.fresh hpid hempty]
  fresh {pid pt vpn} hpid hs := by
    rw [g.pageTables] at hpid
    rw [g.slot] at hs
    split at hs
    · cases hs
    · exact hsep.fresh hpid hs

/-- A new process has no pages, and its memory is zero. -/
lemma created (hL : Layout s) {childPid : Pid} {cpt : Ptbr} (hpid : s.pageTables.lookup childPid = none)
    (hpt : s.tables cpt = none) :
    Separate (s.created childPid cpt) (Function.update memory childPid fun _ => zeroPage) where
  content {pid pt vpn r} hp hs ht := by
    rw [created_slot hL hpt] at hs
    rcases (created_lookup hpid pid pt).1 hp with hold | ⟨-, rfl⟩
    · have hne : pid ≠ childPid := by
        rintro rfl
        cases hpid.symm.trans hold
      rw [Function.update_of_ne hne]
      exact hsep.content hold hs ht
    · -- the table is new
      exact absurd hpt (Option.isSome_iff_ne_none.1 (hL.arena_live hs))
  fresh {pid pt vpn} hp hs := by
    rw [created_slot hL hpt] at hs
    by_cases hne : pid = childPid
    · rw [hne, Function.update_self]
    · rw [Function.update_of_ne hne]
      rcases (created_lookup hpid pid pt).1 hp with hp | ⟨heq, -⟩
      · exact hsep.fresh hp hs
      · exact absurd heq hne

/-- The process `gone` has ended. -/
lemma destroyed (hL : Layout s) {gone : Pid} (hgone : s.pageTables.lookup gone =
    some s.pageTableBaseRegister) (ppns : List ℕ) : Separate (s.destroyed gone ppns) memory := by
  have hlookup : ∀ {pid pt}, (s.destroyed gone ppns).pageTables.lookup pid = some pt →
      s.pageTables.lookup pid = some pt ∧ pt ≠ s.pageTableBaseRegister := by
    intro pid pt hp
    rw [State.destroyed_pageTables] at hp
    by_cases hpid : pid = gone
    · rw [hpid, AList.lookup_erase] at hp
      cases hp
    · rw [AList.lookup_erase_ne hpid] at hp
      refine ⟨hp, ?_⟩
      rintro rfl
      exact hpid (hL.ptbr_inj hp hgone)
  constructor
  · intro pid pt vpn r hp hs ht
    obtain ⟨hp', -⟩ := hlookup hp
    obtain ⟨ptes, hpage⟩ := destroyed_page s gone ppns r
    rw [hpage] at ht
    rw [destroyed_content]
    exact hsep.content hp' (destroyed_slot_some hs).2 ht
  · intro pid pt vpn hp hs
    obtain ⟨hp', hne⟩ := hlookup hp
    rw [destroyed_slot, if_neg hne] at hs
    exact hsep.fresh hp' hs

/-- A store to a page of the process that runs. -/
lemma stored (h : Inv none s) {pid : Pid}
    (hpid : s.pageTables.lookup pid = some s.pageTableBaseRegister) {vpn : ℕ} {r : PageRef}
    (hs : s.slot s.pageTableBaseRegister vpn = some r) (hf : (s.pages r).Framed)
    (offset : Fin vmPagesize) (byte : UInt8) :
    Separate (s.stored (s.pages r).ppn offset byte) (Function.update memory pid
      (Function.update (memory pid) vpn (Function.update (memory pid vpn) offset byte))) where
  content {pid' pt vpn' q} hp hq ht := by
    have hp' : s.pageTables.lookup pid' = some pt := hp
    have hq' : s.slot pt vpn' = some q := hq
    have ht' : (s.pages q).type = .swapBacked := ht
    rw [content_stored h (.inl ⟨_, _, hs⟩) hf offset byte (.inl ⟨_, _, hq'⟩)]
    by_cases hqr : q = r
    · -- a swap-backed page has one slot
      subst hqr
      obtain ⟨ho, hv⟩ := h.layout.swap_slot hq' ht'
      obtain ⟨ho', hv'⟩ := h.layout.swap_slot hs ht'
      obtain rfl : pt = s.pageTableBaseRegister := ho.symm.trans ho'
      obtain rfl : vpn' = vpn := hv.symm.trans hv'
      obtain rfl : pid' = pid := h.layout.ptbr_inj hp' hpid
      rw [if_pos rfl, Function.update_self, Function.update_self, hsep.content hp' hq' ht']
    · rw [if_neg hqr, hsep.content hp' hq' ht']
      by_cases hpp : pid' = pid
      · subst hpp
        obtain rfl : pt = s.pageTableBaseRegister := Option.some.inj (hp'.symm.trans hpid)
        have hne : vpn' ≠ vpn := by
          rintro rfl
          exact hqr (Option.some.inj (hq'.symm.trans hs))
        rw [Function.update_self, Function.update_of_ne hne]
      · rw [Function.update_of_ne hpp]
  fresh {pid' pt vpn'} hp hq := by
    have hp' : s.pageTables.lookup pid' = some pt := hp
    have hq' : s.slot pt vpn' = none := hq
    by_cases hpp : pid' = pid
    · subst hpp
      obtain rfl : pt = s.pageTableBaseRegister := Option.some.inj (hp'.symm.trans hpid)
      have hne : vpn' ≠ vpn := by
        rintro rfl
        rw [hs] at hq'
        cases hq'
      rw [Function.update_self, Function.update_of_ne hne]
      exact hsep.fresh hp' hq'
    · rw [Function.update_of_ne hpp]
      exact hsep.fresh hp' hq'

/-- A page that is mapped is zero, or one of the file table. -/
lemma map (h : Inv none s) (hlive : s.Running) {filename : BitVec 64} {block : ℕ} {va : BitVec 64}
    (hm : Mapping s filename block va s') : Separate s' memory := by
  by_cases hva : va = nullptr
  · rcases hm.steps h with ⟨-, hev⟩ | ⟨hne, -⟩
    · exact hsep.evolves hev
    · exact absurd hva hne
  · by_cases hname : filename = nullptr
    · obtain ⟨b, rest, -, rfl⟩ := hm.anonymous hname hva
      have hpage : (s.mapSwap b rest).pages s.nextPage = s.newSwapPage b := Function.update_self ..
      refine hsep.grows (grows_mapSwap h.layout b rest) fun _ => ?_
      rw [State.content, hpage, if_pos (show (s.newSwapPage b).resident = true from rfl)]
      exact h.contents.zero
    · obtain ⟨n, t, r, -, -, hev, g, hf⟩ := hm.file h hname hva
      refine (hsep.evolves hev).grows g fun ht => ?_
      rw [((h.map hlive hm).layout.file_entry hf).1] at ht
      cases ht

end Separate

/-! ### Runs -/

theorem separate_run {u : Setup} {ls : List Label} {k : Kernel} (h : (system u).Run ls k) :
    running (ls.map Prod.fst) = k.current ∧ Separate k.pager (ownMemory (ls.map Prod.fst)) := by
  apply h.invariant (I := fun ls k =>
    running (ls.map Prod.fst) = k.current ∧ Separate k.pager (ownMemory (ls.map Prod.fst)))
  · intro k hk
    refine ⟨hk.2.symm, ?_⟩
    rw [init_pager hk]
    exact ⟨fun hp _ _ => (by cases hp), fun hp _ => (by cases hp)⟩
  · rintro ls k ⟨c, ret⟩ k' hrun ⟨hcur, hsep⟩ hs
    have hk : (system u).Reachable k := ⟨ls, hrun⟩
    have hsound := Sound.reachable hk
    have hinv := hsound.inv
    have ho := step_outcome hk hs
    obtain ⟨hl, -, hafter⟩ := hs
    rw [List.map_cons]
    refine ⟨by rw [hafter, ← hcur]; rfl, ?_⟩
    generalize k'.pager = s' at ho ⊢
    cases ho with
    | create hpid hpt =>
      rw [ownMemory_create]
      exact hsep.created hinv.layout hpid hpt
    | switch => exact { hsep with }
    | invalid => exact hsep
    | fault _ hslot hden => exact hsep.evolves (hinv.faultDenied hslot hden).2
    | map hlive hm => exact hsep.map hinv hlive hm
    | destroy hpt => exact hsep.destroyed hinv.layout hpt _
    | load => exact hsep
    | @store vpn offset byte r hslot hf =>
      obtain ⟨pid, hpid⟩ := Option.isSome_iff_exists.1 hl.1
      rw [ownMemory_store (hcur.trans hpid)]
      exact hsep.stored hinv (hsound.current hpid) hslot hf offset byte

/-- **Swap-backed memory is private.** A process loads from a swap-backed page the byte that it has
last stored there itself since it was created, and 0 when it has not stored there. -/
theorem private_load {u : Setup} {ls : List Label} {k k' : Kernel} (h : (system u).Run ls k)
    {pid : Pid} (hpid : k.current = some pid) {vpn : ℕ} {offset : Fin vmPagesize} {b : UInt8}
    (hs : (system u).step k (.load vpn offset, .byte b) k') {r : PageRef}
    (hslot : k.pager.slot k.pager.pageTableBaseRegister vpn = some r)
    (hswap : (k.pager.pages r).type = .swapBacked) :
    b = lastWrite (fun _ => 0) (ownStores pid (ls.map Prod.fst)) (vpn, offset) := by
  have hk : (system u).Reachable k := ⟨ls, h⟩
  obtain ⟨-, hsep⟩ := separate_run h
  have hpt := (Sound.reachable hk).current hpid
  have ho := step_outcome hk hs
  generalize k'.pager = s' at ho
  cases ho with
  | @load _ _ q hslot' =>
    obtain rfl := Option.some.inj (hslot.symm.trans hslot')
    rw [hsep.content hpt hslot hswap]
    rfl

/-- The page `vpn` of the process that runs is swap-backed. -/
def State.SwapSlot (s : State) (vpn : ℕ) : Prop :=
  ∃ r, s.slot s.pageTableBaseRegister vpn = some r ∧ (s.pages r).type = .swapBacked

/-- **No interference.** In two runs, of pagers that may differ in the number of frames and swap blocks,
in what memory and disk have at the start and in which disk calls fail, two processes that have made
the same stores load the same bytes from their swap-backed pages, whatever other processes have done
before and in between. -/
theorem no_interference {u u' : Setup} {ls ls' : List Label} {k m k' m' : Kernel}
    (h : (system u).Run ls k) (h' : (system u').Run ls' k') {pid pid' : Pid}
    (hpid : k.current = some pid) (hpid' : k'.current = some pid')
    (hstores : ownStores pid (ls.map Prod.fst) = ownStores pid' (ls'.map Prod.fst)) {vpn : ℕ}
    (hswap : k.pager.SwapSlot vpn) (hswap' : k'.pager.SwapSlot vpn) {offset : Fin vmPagesize}
    {b b' : UInt8} (hs : (system u).step k (.load vpn offset, .byte b) m)
    (hs' : (system u').step k' (.load vpn offset, .byte b') m') : b = b' := by
  obtain ⟨r, hslot, ht⟩ := hswap
  obtain ⟨r', hslot', ht'⟩ := hswap'
  rw [private_load h hpid hs hslot ht, private_load h' hpid' hs' hslot' ht', hstores]

/-- Process 2 makes the stores that process 1 of the small kernel makes, after another process has
stored to its own pages. -/
def Kernel.second : Kernel :=
  Setup.large.kernel [.create 0 1 10, .switch 1, .map nullptr 0, .fault (vpnToVa 0) true,
    .store 0 ⟨0, vmPagesize_pos⟩ 5, .create 0 2 11, .switch 2, .map nullptr 0, .map nullptr 0,
    .fault (vpnToVa 0) true, .store 0 ⟨0, vmPagesize_pos⟩ 97, .fault (vpnToVa 1) true,
    .store 1 ⟨0, vmPagesize_pos⟩ 98] (by decide +kernel)

theorem no_interference_small : ∃ m m',
    (system .small).step .small (.load 1 ⟨0, vmPagesize_pos⟩, .byte 98) m ∧
    (system .large).step .second (.load 1 ⟨0, vmPagesize_pos⟩, .byte 98) m' := by
  obtain ⟨ls, h, hcalls⟩ : ∃ ls, (system .small).Run ls .small ∧ _ := Setup.small.kernel_run _ _
  obtain ⟨ls', h', hcalls'⟩ : ∃ ls, (system .large).Run ls .second ∧ _ := Setup.large.kernel_run _ _
  have hs := Kernel.small.call_gives .small (.load 1 ⟨0, vmPagesize_pos⟩) (.byte 98)
    (by decide +kernel) (by decide +kernel)
  obtain ⟨ret, hs'⟩ := Kernel.second.call_step .large (.load 1 ⟨0, vmPagesize_pos⟩) (by decide +kernel)
  generalize Kernel.second.call _ _ = m' at hs'
  have hexec : ∀ s : State, (Call.load 1 ⟨0, vmPagesize_pos⟩).exec s =
      .ok (.byte (s.physmem ((s.currentPte 1).ppage * vmPagesize + 0)), s) := fun _ => rfl
  have hrun := hs'.2.1
  rw [hexec, Except.ok.injEq, Prod.mk.injEq] at hrun
  obtain ⟨b, rfl⟩ : ∃ b, ret = .byte b := ⟨_, hrun.1.symm⟩
  have hb := no_interference h h' (show _ = some 1 by decide +kernel)
    (show _ = some 2 by decide +kernel)
    (by rw [hcalls, hcalls']; decide +kernel) ⟨1, by decide +kernel, by decide +kernel⟩
    ⟨2, by decide +kernel, by decide +kernel⟩ hs hs'
  rw [← hb] at hs'
  exact ⟨_, m', hs, hs'⟩

end VmPager
