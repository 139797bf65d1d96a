import VmPager.Core.Process
import VmPager.Core.Map

/-!
# What a call comes to

`Outcome` lists, for each call of the infrastructure, what it returns and the state it leaves, in
terms of the functions of `Core.Defs` and the states of `Inv`. On states of the invariant every legal
call ends in one of them (`exec_outcome`), and the invariant holds again (`Inv.outcome`).
-/

namespace VmPager

open Lib.Exec Lib.Frames

/-! ### Loads and stores -/

/-- A byte of the frame `p` is written. -/
@[simps] def State.stored (s : State) (p : ℕ) (offset : Fin vmPagesize) (byte : UInt8) : State :=
  { s with physmem := Function.update s.physmem (p * vmPagesize + offset) byte }

section Access

variable {s : State} (h : Inv none s) {vpn : ℕ}
include h

/-- A permitted access is one to a page of the arena. -/
lemma slot_of_permits (hlive : s.Running) {write : Bool}
    (hp : (s.currentPte vpn).permits write = true) :
    ∃ r, s.slot s.pageTableBaseRegister vpn = some r ∧ (s.pages r).flags.pte = s.currentPte vpn := by
  cases hs : s.slot s.pageTableBaseRegister vpn with
  | some r => exact ⟨r, rfl, ((currentPte_eq h hs).1).symm⟩
  | none =>
    obtain ⟨t, ht⟩ := Option.isSome_iff_exists.1 hlive
    have hcur : s.currentPte vpn = t vpn := by
      simp only [State.currentPte]
      rw [ht]
    rw [hcur, h.coherent ht, State.pteFor, hs] at hp
    cases write <;> simp [Pte.permits, Pte.zero] at hp

end Access

/-- A store is permitted to a page with a frame only, since a fresh page is clean. -/
lemma framed_of_permits {s : State} (h : Inv none s) {r : PageRef} (hr : s.Held r)
    (hp : (s.pages r).flags.pte.permits true = true) :
    (s.pages r).Framed ∧ (s.pages r).dirty = true := by
  obtain ⟨hres, -, hd, -⟩ := Flags.of_permits hp
  have hdirty : (s.pages r).dirty = true := hd rfl
  refine ⟨⟨hres, fun h0 => ?_⟩, hdirty⟩
  rw [((h.frames.flags_ok hr).fresh hres h0).2.2] at hdirty
  cases hdirty

/-- **A permitted load** reads a byte of the page. -/
lemma loadByte_eq {s : State} {vpn : ℕ} {r : PageRef}
    (hpte : (s.pages r).flags.pte = s.currentPte vpn)
    (hp : (s.currentPte vpn).permits false = true) (offset : Fin vmPagesize) :
    loadByte vpn offset s = .ok (s.content r offset, s) := by
  rw [← hpte] at hp
  obtain ⟨hres, -, -, hppn⟩ := Flags.of_permits hp
  simp only [loadByte, bind_apply, get_apply, ok_bind, pure_apply, ← hpte, hppn]
  rw [State.content, if_pos (show (s.pages r).resident = true from hres)]
  rfl

/-- **A permitted store** writes a byte of the frame. -/
lemma storeByte_eq {s : State} {vpn : ℕ} {r : PageRef}
    (hpte : (s.pages r).flags.pte = s.currentPte vpn)
    (hp : (s.currentPte vpn).permits true = true) (offset : Fin vmPagesize) (byte : UInt8) :
    storeByte vpn offset byte s = .ok ((), s.stored (s.pages r).ppn offset byte) := by
  rw [← hpte] at hp
  obtain ⟨-, -, -, hppn⟩ := Flags.of_permits hp
  simp only [storeByte, modify_apply, ← hpte, hppn]
  rfl

section Store

variable {s : State} (h : Inv none s) {r : PageRef} (hr : s.Held r) (hf : (s.pages r).Framed)
  (offset : Fin vmPagesize) (byte : UInt8)
include h hr hf

/-- A store to the frame of a page is one to the page, and to no other. -/
theorem content_stored {q : PageRef} (hq : s.Held q) :
    (s.stored (s.pages r).ppn offset byte).content q =
      if q = r then Function.update (s.content r) offset byte else s.content q := by
  have hsame : ∀ p, p ≠ (s.pages r).ppn →
      (s.stored (s.pages r).ppn offset byte).frame p = s.frame p :=
    fun p hp => load_update_ne _ (Ne.symm hp) _ _
  have hself : (s.stored (s.pages r).ppn offset byte).frame (s.pages r).ppn =
      Function.update (s.frame (s.pages r).ppn) offset byte := load_update_same _ _ _ _
  unfold State.content
  rw [State.stored_pages]
  by_cases hqr : q = r
  · subst hqr
    rw [if_pos hf.1, if_pos rfl, if_pos hf.1, hself]
  · rw [if_neg hqr]
    by_cases hres : (s.pages q).resident = true
    · rw [if_pos hres, if_pos hres, hsame]
      -- the frames of two pages are different, and so are those of a page and a fresh page
      intro hp
      have ho := h.frames.owned hr hf
      rcases h.frames.ppn_cases hq with h0 | hq'
      · exact hf.2 (hp.symm.trans h0)
      · rw [hp, ho] at hq'
        exact hqr (Option.some.inj hq').symm
    · rw [if_neg hres, if_neg hres]
      rfl

/-- **The invariant through a store**, to a page that is dirty. -/
theorem Inv.stored (hd : (s.pages r).dirty = true) :
    Inv none (s.stored (s.pages r).ppn offset byte) := by
  have hsame : SameLayout s (s.stored (s.pages r).ppn offset byte) := { SameLayout.refl s with }
  have hframe : ∀ p, p ≠ (s.pages r).ppn →
      (s.stored (s.pages r).ppn offset byte).frame p = s.frame p :=
    fun p hp => load_update_ne _ (Ne.symm hp) _ _
  refine ⟨hsame.layout h.layout, Coherent.congr h.coherent rfl rfl rfl, { h.frames with }, ?_,
    { h.ghost with }⟩
  refine ⟨fun {q} hq hqf hc => ?_, ?_⟩
  · -- a clean page is another one
    have hne : (s.pages q).ppn ≠ (s.pages r).ppn := by
      intro hp
      have hq' := h.frames.owned hq hqf
      rw [hp, h.frames.owned hr hf] at hq'
      obtain rfl := Option.some.inj hq'
      rw [State.stored_pages, hd] at hc
      cases hc
    rw [State.stored_pages, hframe _ hne]
    exact h.contents.clean hq hqf hc
  · rw [hframe 0 hf.2.symm]
    exact h.contents.zero

end Store

/-! ### The outcomes -/

/-- What a call returns, and the state it leaves. -/
inductive Outcome (s : State) : Call → Ret → State → Prop
  | create {parentPid childPid : Pid} {childPtbr : Ptbr}
      (hpid : s.pageTables.lookup childPid = none) (hpt : s.tables childPtbr = none) :
      Outcome s (.create parentPid childPid childPtbr) (.code 0) (s.created childPid childPtbr)
  | switch {pid : Pid} {pt : Ptbr} (hpid : s.pageTables.lookup pid = some pt) :
      Outcome s (.switch pid) .done (s.switched pt)
  | invalid {addr : BitVec 64} {w : Bool} (harena : InArena addr)
      (hs : s.slot s.pageTableBaseRegister (arenaVpn addr) = none) :
      Outcome s (.fault addr w) (.code (-1)) s
  | fault {addr : BitVec 64} {w : Bool} {r : PageRef} (harena : InArena addr)
      (hs : s.slot s.pageTableBaseRegister (arenaVpn addr) = some r)
      (hden : (s.pages r).flags.pte.permits w = false) :
      Outcome s (.fault addr w) (.code (s.faultPage r w).1) (s.faultPage r w).2
  | map {filename : BitVec 64} {block : ℕ} {va : BitVec 64} {s' : State} (hlive : s.Running)
      (hm : Mapping s filename block va s') : Outcome s (.map filename block) (.addr va) s'
  | destroy {order : IterOrder} {pid : Pid}
      (hpid : s.pageTables.lookup pid = some s.pageTableBaseRegister) :
      Outcome s (.destroy order) .done (s.destroyed pid
        (order.iter (s.frameSet (s.arenas s.pageTableBaseRegister))))
  | load {vpn : ℕ} {offset : Fin vmPagesize} {r : PageRef}
      (hs : s.slot s.pageTableBaseRegister vpn = some r) :
      Outcome s (.load vpn offset) (.byte (s.content r offset)) s
  | store {vpn : ℕ} {offset : Fin vmPagesize} {byte : UInt8} {r : PageRef}
      (hs : s.slot s.pageTableBaseRegister vpn = some r) (hf : (s.pages r).Framed)
      (hd : (s.pages r).dirty = true) :
      Outcome s (.store vpn offset byte) .done (s.stored (s.pages r).ppn offset byte)

/-- The entry of a page whose fault is denied is not that of a fresh page, for a load. -/
lemma fresh_of_denied {s : State} (h : Inv none s) {r : PageRef} (hr : s.Held r) {w : Bool}
    (hden : (s.pages r).flags.pte.permits w = false) :
    (s.pages r).resident = true → (s.pages r).ppn = 0 → w = true := by
  intro hres h0
  have href := ((h.frames.flags_ok hr).fresh hres h0).2.1
  cases w with
  | true => rfl
  | false =>
    rw [pte_referenced hres href] at hden
    cases hden

/-- A fault on an access that the entry denies. -/
theorem Inv.faultDenied {s : State} (h : Inv none s) {pt : Ptbr} {vpn : ℕ} {r : PageRef} {w : Bool}
    (hs : s.slot pt vpn = some r) (hden : (s.pages r).flags.pte.permits w = false) :
    Inv none (s.faultPage r w).2 ∧ Evolves s (s.faultPage r w).2 :=
  h.faultPage (.inl ⟨pt, vpn, hs⟩) (fresh_of_denied h (.inl ⟨pt, vpn, hs⟩) hden)

/-- **The invariant through a call.** -/
theorem Inv.outcome {s s' : State} (h : Inv none s) {c : Call} {ret : Ret}
    (ho : Outcome s c ret s') : Inv none s' := by
  cases ho with
  | create hpid hpt => exact h.created hpid hpt
  | switch => exact h.switched _
  | invalid => exact h
  | fault _ hs hden =>
    exact (h.faultDenied hs hden).1
  | map hlive hm => exact h.map hlive hm
  | destroy hpid => exact h.destroyed hpid (IterOrder.perm _ _)
  | load => exact h
  | store hs hf hd => exact h.stored (.inl ⟨_, _, hs⟩) hf _ _ hd

/-! ### Legal calls -/

/-- What holds of the pager and its infrastructure throughout a run: the invariant, and the register
points to the page table of the process that runs. -/
structure Sound (u : Setup) (k : Kernel) : Prop where
  inv : Inv none k.pager
  memory : k.pager.maxSize = u.memoryPages
  blocks : k.pager.maxBlocks = u.swapBlocks
  current : ∀ {pid}, k.current = some pid →
    k.pager.pageTables.lookup pid = some k.pager.pageTableBaseRegister

lemma Sound.running {u : Setup} {k : Kernel} (h : Sound u k) (hc : k.current.isSome) :
    k.pager.Running := by
  obtain ⟨pid, hpid⟩ := Option.isSome_iff_exists.1 hc
  exact (h.inv.layout.live_iff _).1 ⟨pid, h.current hpid⟩

/-- **Every legal call returns**, in one of the outcomes. -/
theorem exec_outcome {u : Setup} {k : Kernel} (h : Sound u k) {c : Call} (hl : Legal k c) :
    Returns c.exec k.pager (Outcome k.pager c) := by
  have hinv := h.inv
  cases c with
  | create parentPid childPid childPtbr =>
    obtain ⟨hpid, hpt, -⟩ := hl
    refine Returns.of_eq ?_ (.create hpid hpt)
    simp only [Call.exec, bind_apply, vmCreate_eq, ok_bind, pure_apply]
  | switch pid =>
    obtain ⟨pt, hpt⟩ := Option.isSome_iff_exists.1 hl
    refine Returns.of_eq ?_ (.switch hpt)
    simp only [Call.exec, bind_apply, vmSwitch_eq hpt, ok_bind, pure_apply]
  | fault addr w =>
    obtain ⟨hcur, harena, hden⟩ := hl
    rw [← vaToVpn_of_inArena harena] at hden
    cases hs : k.pager.slot k.pager.pageTableBaseRegister (vaToVpn addr) with
    | none =>
      refine Returns.of_eq ?_ (.invalid harena (by rw [← vaToVpn_of_inArena harena]; exact hs))
      simp only [Call.exec, bind_apply, vmFault_invalid hinv (.inr hs), ok_bind, pure_apply]
    | some r =>
      have hden' := hden
      rw [(currentPte_eq hinv hs).1] at hden'
      refine Returns.of_eq ?_ (.fault harena (by rw [← vaToVpn_of_inArena harena]; exact hs) hden')
      simp only [Call.exec, bind_apply, vmFault_eq hinv (not_lt_of_inArena harena) hs hden, ok_bind,
        pure_apply]
  | map filename block =>
    have hlive := h.running hl
    obtain ⟨va, s', hrun, hm⟩ := vmMap_spec hinv hlive filename block
    refine Returns.of_eq ?_ (.map hlive hm)
    simp only [Call.exec, bind_apply, hrun, ok_bind, pure_apply]
  | destroy order =>
    obtain ⟨pid, hpid⟩ := Option.isSome_iff_exists.1 hl
    have hpt := h.current hpid
    refine Returns.of_eq ?_ (.destroy hpt)
    simp only [Call.exec, bind_apply, vmDestroy_eq hinv hpt, ok_bind, pure_apply]
  | load vpn offset =>
    obtain ⟨hcur, -, hp⟩ := hl
    obtain ⟨r, hs, hpte⟩ := slot_of_permits hinv (h.running hcur) hp
    refine Returns.of_eq ?_ (.load hs)
    simp only [Call.exec, bind_apply, loadByte_eq hpte hp, ok_bind, pure_apply]
  | store vpn offset byte =>
    obtain ⟨hcur, -, hp⟩ := hl
    obtain ⟨r, hs, hpte⟩ := slot_of_permits hinv (h.running hcur) hp
    obtain ⟨hf, hd⟩ := framed_of_permits hinv (.inl ⟨_, _, hs⟩) (by rw [hpte]; exact hp)
    refine Returns.of_eq ?_ (.store hs hf hd)
    simp only [Call.exec, bind_apply, storeByte_eq hpte hp, ok_bind, pure_apply]

/-- A legal call is a step. -/
lemma Sound.exists_step {u : Setup} {k : Kernel} (h : Sound u k) {c : Call} (hl : Legal k c) :
    ∃ ret k', (system u).step k (c, ret) k' := by
  obtain ⟨ret, s', hexec, -⟩ := exec_outcome h hl
  exact ⟨ret, ⟨s', c.after k.current⟩, hl, hexec, rfl⟩

/-! ### Runs -/

/-- A call changes neither the size of memory nor that of the swap file. -/
lemma Outcome.sizes {s s' : State} (h : Inv none s) {c : Call} {ret : Ret} (ho : Outcome s c ret s') :
    s'.maxSize = s.maxSize ∧ s'.maxBlocks = s.maxBlocks := by
  cases ho with
  | fault _ hs hden =>
    have hl := (h.faultDenied hs hden).2.layout
    exact ⟨hl.maxSize, hl.maxBlocks⟩
  | map hlive hm =>
    rcases hm.steps h with ⟨-, hev⟩ | ⟨-, -, t, r, -, hev, g⟩
    · exact ⟨hev.layout.maxSize, hev.layout.maxBlocks⟩
    · exact ⟨g.maxSize.trans hev.layout.maxSize, g.maxBlocks.trans hev.layout.maxBlocks⟩
  | create => exact ⟨rfl, rfl⟩
  | switch => exact ⟨rfl, rfl⟩
  | invalid => exact ⟨rfl, rfl⟩
  | destroy => exact ⟨rfl, rfl⟩
  | load => exact ⟨rfl, rfl⟩
  | store => exact ⟨rfl, rfl⟩

/-- A process keeps its page table, and the register points where it did, through every call that
does not switch or end the process. -/
lemma Outcome.current {s s' : State} (h : Inv none s) {c : Call} {ret : Ret}
    (ho : Outcome s c ret s') {cur : Option Pid}
    (hc : ∀ {pid}, cur = some pid → s.pageTables.lookup pid = some s.pageTableBaseRegister) {pid : Pid}
    (hp : c.after cur = some pid) : s'.pageTables.lookup pid = some s'.pageTableBaseRegister := by
  cases ho with
  | @create _ childPid _ hpid hpt =>
    have hne : pid ≠ childPid := by
      rintro rfl
      rw [hc hp] at hpid
      cases hpid
    rw [State.created_pageTables, AList.lookup_insert_ne hne]
    exact hc hp
  | switch hpid =>
    cases hp
    exact hpid
  | fault _ hs hden =>
    have hl := (h.faultDenied hs hden).2.layout
    rw [hl.pageTables, hl.ptbr]
    exact hc hp
  | map hlive hm =>
    rcases hm.steps h with ⟨-, hev⟩ | ⟨-, -, t, r, -, hev, g⟩
    · rw [hev.layout.pageTables, hev.layout.ptbr]
      exact hc hp
    · rw [g.pageTables, g.ptbr, hev.layout.pageTables, hev.layout.ptbr]
      exact hc hp
  | destroy => cases hp
  | invalid => exact hc hp
  | load => exact hc hp
  | store => exact hc hp

/-- A slot keeps its page, unless its process ends. -/
lemma Outcome.slot {s s' : State} (h : Inv none s) {c : Call} {ret : Ret} (ho : Outcome s c ret s')
    {pt : Ptbr} {vpn : ℕ} {r : PageRef} (hs : s.slot pt vpn = some r) :
    s'.slot pt vpn = some r ∨ s'.tables pt = none := by
  cases ho with
  | create hpid hpt => exact .inl (by rw [created_slot h.layout hpt, hs])
  | fault _ hs' hden =>
    have hl := (h.faultDenied hs' hden).2.layout
    exact .inl ((hl.slot pt vpn).trans hs)
  | map hlive hm =>
    rcases hm.steps h with ⟨-, hev⟩ | ⟨-, -, t, q, -, hev, g⟩
    · exact .inl ((hev.layout.slot pt vpn).trans hs)
    · exact .inl ((g.slot_iff pt vpn r).2 (.inl ((hev.layout.slot pt vpn).trans hs)))
  | destroy hpid =>
    by_cases hpt : pt = s.pageTableBaseRegister
    · subst hpt
      exact .inr (Function.update_self ..)
    · exact .inl (by rw [destroyed_slot, if_neg hpt, hs])
  | switch => exact .inl hs
  | invalid => exact .inl hs
  | load => exact .inl hs
  | store => exact .inl hs

/-- No entry of the file table is removed or replaced. -/
lemma Outcome.fileTable {s s' : State} (h : Inv none s) {c : Call} {ret : Ret}
    (ho : Outcome s c ret s') {n : Name} {b : ℕ} {r : PageRef} (hf : s.fileTable n b = some r) :
    s'.fileTable n b = some r := by
  cases ho with
  | fault _ hs hden =>
    have hl := (h.faultDenied hs hden).2.layout
    rw [hl.fileTable, hf]
  | map hlive hm =>
    rcases hm.steps h with ⟨-, hev⟩ | ⟨-, -, t, q, -, hev, g⟩
    · rw [hev.layout.fileTable, hf]
    · exact (g.fileTable n b r).2 (.inl (by rw [hev.layout.fileTable, hf]))
  | create => exact hf
  | switch => exact hf
  | invalid => exact hf
  | destroy => exact hf
  | load => exact hf
  | store => exact hf

/-- A step comes to one of the outcomes, and leaves a sound state. -/
theorem Sound.step {u : Setup} {k k' : Kernel} (h : Sound u k) {c : Call} {ret : Ret}
    (hs : (system u).step k (c, ret) k') : Outcome k.pager c ret k'.pager ∧ Sound u k' := by
  obtain ⟨hl, hexec, hafter⟩ := hs
  have ho := (exec_outcome h hl).elim hexec
  obtain ⟨hm, hb⟩ := ho.sizes h.inv
  refine ⟨ho, h.inv.outcome ho, hm.trans h.memory, hb.trans h.blocks, fun hc => ?_⟩
  rw [hafter] at hc
  exact ho.current h.inv h.current hc

/-- A run starts in the state that `vm_init` leaves. -/
lemma init_pager {u : Setup} {k : Kernel} (h : (system u).init k) : k.pager = u.initial := by
  have hk := h.1
  rw [vmInit_eq u] at hk
  exact (congrArg Prod.snd (Except.ok.inj hk)).symm

/-- **Reachable states are sound.** -/
theorem Sound.reachable {u : Setup} {k : Kernel} (h : (system u).Reachable k) : Sound u k := by
  refine h.invariant (I := Sound u) ?_ fun k l k' hk hs => (hk.step hs).2
  intro k hinit
  have hk := init_pager hinit
  exact ⟨hk ▸ Inv.initial u, by rw [hk]; rfl, by rw [hk]; rfl, fun hc => by
    rw [hinit.2] at hc
    cases hc⟩

/-- What a step of a run comes to. -/
theorem step_outcome {u : Setup} {k k' : Kernel} (h : (system u).Reachable k) {c : Call} {ret : Ret}
    (hs : (system u).step k (c, ret) k') : Outcome k.pager c ret k'.pager :=
  ((Sound.reachable h).step hs).1

/-! ### Processes -/

/-- A call creates and ends processes as the infrastructure has it. -/
lemma Sound.alive {u : Setup} {k k' : Kernel} (h : Sound u k) {c : Call} {ret : Ret}
    (hs : (system u).step k (c, ret) k') (pid : Pid) : (k'.pager.pageTables.lookup pid).isSome =
      c.alive k.current pid (k.pager.pageTables.lookup pid).isSome := by
  obtain ⟨ho, -⟩ := h.step hs
  have hl := hs.1
  generalize k'.pager = s' at ho
  cases ho with
  | @create _ childPid childPtbr =>
    rw [State.created_pageTables, Call.alive]
    by_cases hp : pid = childPid
    · subst hp
      rw [AList.lookup_insert, Option.isSome_some, decide_eq_true rfl, Bool.or_true]
    · rw [AList.lookup_insert_ne hp, decide_eq_false (Ne.symm hp), Bool.or_false]
  | fault _ hslot hden =>
    rw [(h.inv.faultDenied hslot hden).2.layout.pageTables]
    rfl
  | map hlive hm =>
    rcases hm.steps h.inv with ⟨-, hev⟩ | ⟨-, -, t, r, -, hev, g⟩
    · rw [hev.layout.pageTables]
      rfl
    · rw [g.pageTables, hev.layout.pageTables]
      rfl
  | @destroy _ old hpid =>
    -- the process that ends is the one that runs
    obtain ⟨cur, hcur⟩ := Option.isSome_iff_exists.1 hl
    obtain rfl := h.inv.layout.ptbr_inj (h.current hcur) hpid
    rw [State.destroyed_pageTables, Call.alive, hcur]
    by_cases hp : pid = cur
    · subst hp
      simp
    · rw [AList.lookup_erase_ne hp]
      simp [Ne.symm hp]
  | switch => rfl
  | invalid => rfl
  | load => rfl
  | store => rfl

/-- **The processes of a state** are those that the calls of the run have created and not ended, and
the current one is the one they have switched to. -/
theorem processes_alive {u : Setup} {ls : List Label} {k : Kernel} (h : (system u).Run ls k) :
    k.current = runningAfter (ls.map Prod.fst) ∧ ∀ pid,
      (k.pager.pageTables.lookup pid).isSome = aliveAfter pid (ls.map Prod.fst) := by
  induction h with
  | @init k hinit =>
    refine ⟨hinit.2, fun pid => ?_⟩
    rw [init_pager hinit]
    rfl
  | @step ls k k' l hr hs ih =>
    obtain ⟨hcur, halive⟩ := ih
    refine ⟨?_, fun pid => ?_⟩
    · rw [hs.2.2, hcur]
      rfl
    · rw [(Sound.reachable ⟨ls, hr⟩).alive hs, halive, hcur]
      rfl

end VmPager
