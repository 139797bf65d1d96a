import VmPager.Core.Moves

/-!
# Swap blocks are reserved

In every reachable state each block of the swap file is free or reserved by one page of one process,
whatever processes have ended and whatever calls have failed. So the only reasons for `vm_map` to
refuse a swap-backed page are a full arena and as many swap-backed pages as blocks. And every disk
call on the swap file is at the block of the page it is made for. The processes are those that
`processes_alive` says.
-/

namespace VmPager

open Lib.Transition

/-- The `n` blocks of the swap file are free or reserved. -/
structure SwapReserved (s : State) (n : ℕ) : Prop where
  /-- Each block is once free, or once the block of a page of a process. -/
  blocks : (s.freeBlocks ++ s.liveBlocks).Perm (List.range n)
  /-- Two swap-backed pages of processes do not have one block. -/
  distinct : ∀ {pt vpn r pt' vpn' q}, s.slot pt vpn = some r → s.slot pt' vpn' = some q →
    (s.pages r).type = .swapBacked → (s.pages q).type = .swapBacked →
    (s.pages r).swapBlock = (s.pages q).swapBlock → pt = pt' ∧ vpn = vpn' ∧ r = q
  /-- Since the block of a page was reserved for it, it has not been reserved for another. -/
  kept : ∀ {pt vpn r}, s.slot pt vpn = some r → (s.pages r).type = .swapBacked →
    ownerOf none (s.pages r).swapBlock s.trace = some r

/-- What `vm_map` of a swap-backed page comes to: the address it returns and the state it leaves. -/
structure MapsSwap (s : State) (n : ℕ) (va : BitVec 64) (s' : State) : Prop where
  null_iff : va = nullptr ↔
    vmArenaSize / vmPagesize ≤ s.arenaSize ∨ s.livePages.countP s.IsSwap = n
  refused : va = nullptr → s' = s
  address : va ≠ nullptr → va.toNat = vmArenaBaseaddr.toNat + s.arenaSize * vmPagesize
  appended : va ≠ nullptr → ∃ r, (s'.pages r).type = .swapBacked ∧
    s'.arenas = Function.update s.arenas s.pageTableBaseRegister
      (s.arenas s.pageTableBaseRegister ++ [r])

/-! ### Disk calls on the swap file -/

/-- The block of a disk call on the swap file. -/
def Event.swapBlock : Event → Option ℕ
  | .fileRead none block _ _ => some block
  | .fileWrite none block _ _ => some block
  | _ => none

/-- The page that a disk call is made for, when `vm_fault` makes it at the page `vpn` of the current
arena: what is written is the page in the frame, and what is read the page at `vpn`. -/
def State.servedBy (s : State) (vpn : ℕ) : Event → Option PageRef
  | .fileWrite _ _ buf _ => s.owner (buf / vmPagesize)
  | .fileRead _ _ _ _ => s.slot s.pageTableBaseRegister vpn
  | _ => none

/-- A disk call on the swap file: the page it is made for, and its block. -/
abbrev SwapCall := Option PageRef × ℕ

/-- The disk calls on the swap file among the events of a `vm_fault` at the page `vpn`. -/
def State.swapCalls (s : State) (vpn : ℕ) (new : List Event) : List SwapCall :=
  new.filterMap fun e => e.swapBlock.map fun b => (s.servedBy vpn e, b)

/-- Calls of `vm_fault` on accesses that the entries deny lead to the state, with these disk calls on
the swap file, newest first. -/
inductive FaultCalls (s : State) : List SwapCall → State → Prop
  | refl : FaultCalls s [] s
  | fault {calls : List SwapCall} {t t' : State} {addr : BitVec 64} {w : Bool} {res : ℤ}
      {new : List Event} (hf : FaultCalls s calls t)
      (hden : (t.currentPte (vaToVpn addr)).permits w = false)
      (hrun : vmFault addr w t = .ok (res, t')) (hnew : t'.trace = new ++ t.trace) :
      FaultCalls s (t.swapCalls (vaToVpn addr) new ++ calls) t'

/-- The disk calls on the swap file in a run, newest first. A step makes them in calls of `vm_fault`,
and none after these. -/
inductive SwapLog (u : Setup) : List Label → List SwapCall → Kernel → Prop
  | init {k : Kernel} (hinit : (system u).init k) : SwapLog u [] [] k
  | step {ls : List Label} {log calls : List SwapCall} {k k' : Kernel} {l : Label} {t : State}
      {rest : List Event} (hlog : SwapLog u ls log k) (hs : (system u).step k l k')
      (hf : FaultCalls k.pager calls t) (htrace : k'.pager.trace = rest ++ t.trace)
      (hrest : ∀ e ∈ rest, e.swapBlock = none) : SwapLog u (l :: ls) (calls ++ log) k'

/-- What holds of the disk calls on the swap file in a run that ends in `s`. -/
structure SwapUsed (s : State) (log : List SwapCall) : Prop where
  /-- All of them are there. -/
  all : log.map Prod.snd = s.trace.filterMap Event.swapBlock
  /-- Each is made for a swap-backed page, at its block. -/
  own : ∀ {o b}, (o, b) ∈ log →
    ∃ r, o = some r ∧ (s.pages r).type = .swapBacked ∧ (s.pages r).swapBlock = b
  /-- No two pages of processes have used one block. -/
  single : ∀ {r q b pt vpn pt' vpn'}, (some r, b) ∈ log → (some q, b) ∈ log →
    s.slot pt vpn = some r → s.slot pt' vpn' = some q → r = q

/-! ### Blocks and pages -/

theorem Inv.swapReserved {s : State} (h : Inv none s) : SwapReserved s s.maxBlocks where
  blocks := h.layout.blocks
  distinct hs hs' ht ht' hb := by
    obtain rfl := h.layout.swapBlock_inj (.inl ⟨_, _, hs⟩) (.inl ⟨_, _, hs'⟩) ht ht' hb
    obtain ⟨h1, h2⟩ := h.layout.swap_slot hs ht
    obtain ⟨h3, h4⟩ := h.layout.swap_slot hs' ht'
    exact ⟨h1.symm.trans h3, h2.symm.trans h4, rfl⟩
  kept hs ht := by
    have ho := h.ghost.owner (.inl ⟨_, _, hs⟩)
    rwa [PageState.backing, if_pos ht] at ho

/-- No block is free when there are as many swap-backed pages as blocks. -/
lemma Layout.freeBlocks_nil_iff {s : State} (h : Layout s) :
    s.freeBlocks = [] ↔ s.livePages.countP s.IsSwap = s.maxBlocks := by
  have hlen := h.blocks.length_eq
  have hcount : s.liveBlocks.length = s.livePages.countP s.IsSwap := by
    rw [State.liveBlocks, List.length_map, List.countP_eq_length_filter]
  rw [List.length_append, List.length_range, hcount] at hlen
  rw [← List.length_eq_zero_iff]
  omega

theorem Mapping.mapsSwap {s s' : State} (h : Inv none s) {block : ℕ} {va : BitVec 64}
    (hm : Mapping s nullptr block va s') : MapsSwap s s.maxBlocks va s' := by
  have hlt : ∀ {n}, n < numPtes → n < 2 ^ 32 := fun hn =>
    hn.trans (by unfold numPtes vmArenaSize vmPagesize; norm_num)
  cases hm with
  | full hfull => exact ⟨by simpa using .inl hfull, fun _ => rfl, absurd rfl, absurd rfl⟩
  | noBlock hlen _ hfree =>
    exact ⟨by simpa using .inr (h.layout.freeBlocks_nil_iff.1 hfree), fun _ => rfl, absurd rfl,
      absurd rfl⟩
  | @swap b rest hlen _ hfree =>
    have hne := nextVa_ne_nullptr hlen
    have hpage : (s.mapSwap b rest).pages s.nextPage = s.newSwapPage b := Function.update_self ..
    refine ⟨⟨fun h0 => absurd h0 hne, ?_⟩, fun h0 => absurd h0 hne,
      fun _ => vpnToVa_toNat (hlt hlen), fun _ => ⟨s.nextPage, by rw [hpage]; rfl, rfl⟩⟩
    rintro (hfull | hcount)
    · exact absurd hlen (Nat.not_lt.2 hfull)
    · rw [h.layout.freeBlocks_nil_iff.2 hcount] at hfree
      cases hfree
  | noName _ hne => exact absurd rfl hne
  | known _ hne => exact absurd rfl hne
  | new _ hne => exact absurd rfl hne

/-! ### The block of each disk call -/

section Served

variable {s s' t : State} {r : PageRef} {p : ℕ}

/-- A disk call on the swap file is made for a page in use, at its block. -/
def State.Serves (s : State) (vpn : ℕ) (e : Event) : Prop :=
  ∀ b, e.swapBlock = some b → ∃ r, s.servedBy vpn e = some r ∧ s.Held r ∧
    (s.pages r).type = .swapBacked ∧ (s.pages r).swapBlock = b

lemma serves_of_none {vpn : ℕ} {e : Event} (he : e.swapBlock = none) : s.Serves vpn e := by
  intro b hb
  rw [he] at hb
  cases hb

lemma swapBlock_read {bk : Option Name × ℕ} {buf b : ℕ} {ok : Bool}
    (he : (Event.fileRead bk.1 bk.2 buf ok).swapBlock = some b) : bk = (none, b) := by
  obtain ⟨_ | n, c⟩ := bk
  · exact Prod.ext rfl (Option.some.inj he)
  · cases he

lemma swapBlock_write {bk : Option Name × ℕ} {buf b : ℕ} {ok : Bool}
    (he : (Event.fileWrite bk.1 bk.2 buf ok).swapBlock = some b) : bk = (none, b) := by
  obtain ⟨_ | n, c⟩ := bk
  · exact Prod.ext rfl (Option.some.inj he)
  · cases he

/-- The victim is written to its block. -/
lemma Inv.serves_write (h : Inv none s) (ho : s.owner p = some r) (vpn : ℕ) (ok : Bool) :
    s.Serves vpn (.fileWrite (s.pages r).backing.1 (s.pages r).backing.2 (p * vmPagesize) ok) := by
  intro b hb
  have hr := h.frames.owner_held ho
  refine ⟨r, ?_, hr, h.layout.swap_of_backing hr (swapBlock_write hb)⟩
  rw [State.servedBy, Nat.mul_div_cancel _ vmPagesize_pos, ho]

/-- The page that is faulted on is read from its block. -/
lemma Inv.serves_read (h : Inv none s) {vpn : ℕ} (hs : s.slot s.pageTableBaseRegister vpn = some r)
    (buf : ℕ) (ok : Bool) :
    s.Serves vpn (.fileRead (s.pages r).backing.1 (s.pages r).backing.2 buf ok) := by
  intro b hb
  have hr : s.Held r := .inl ⟨_, _, hs⟩
  exact ⟨r, hs, hr, h.layout.swap_of_backing hr (swapBlock_read hb)⟩

/-- From `s` to `s'` the disk calls on the swap file are made for pages in use, at their blocks. -/
def State.ServesTo (s : State) (vpn : ℕ) (s' : State) : Prop :=
  ∃ new, s'.trace = new ++ s.trace ∧ ∀ e ∈ new, s.Serves vpn e

lemma State.ServesTo.silent {vpn : ℕ} (ht : s'.trace = s.trace) : s.ServesTo vpn s' :=
  ⟨[], ht, fun _ he => absurd he List.not_mem_nil⟩

/-- One event more. -/
lemma State.ServesTo.event {vpn : ℕ} {e : Event} (h : s.ServesTo vpn t) (he : s.Serves vpn e)
    (ht : s'.trace = e :: t.trace) : s.ServesTo vpn s' := by
  obtain ⟨new, hnew, hserves⟩ := h
  refine ⟨e :: new, by rw [ht, hnew, List.cons_append], fun x hx => ?_⟩
  rcases List.mem_cons.1 hx with rfl | hx
  · exact he
  · exact hserves x hx

/-- A search for a frame makes disk calls for its victim alone. -/
lemma Reclaim.serves (h : Inv none s) (hr : Reclaim s p t) (vpn : ℕ) : s.ServesTo vpn t := by
  cases hr with
  | free => exact .silent rfl
  | @clean v passed rest r =>
    have hswept : s.ServesTo vpn (s.swept p passed rest) := .silent (swept_trace ..)
    exact hswept.event (serves_of_none (e := .evicted r) rfl) rfl
  | @written v passed rest r hs =>
    have hwrote : s.ServesTo vpn ((s.swept p passed rest).wrote r p) := by
      refine .event (.silent rfl) (h.serves_write hs.owner vpn true) ?_
      rw [State.wrote_trace, swept_trace, swept_backing]
    exact hwrote.event (serves_of_none (e := .evicted r) rfl) rfl
  | stuck hs => exact .event (.silent rfl) (h.serves_write hs.owner vpn false) (stuck_trace ..)

/-- **A fault makes disk calls for its victim and for the page it is on.** -/
lemma FaultEnd.serves (h : Inv none s) {vpn : ℕ} (hs : s.slot s.pageTableBaseRegister vpn = some r)
    {w : Bool} {res : ℤ} (hend : FaultEnd s r w res s') : s.ServesTo vpn s' := by
  have hfaulted : s.Serves vpn (.faulted r w) := serves_of_none rfl
  cases hend with
  | touched => exact .event (.silent rfl) hfaulted rfl
  | noFrame _ hr => exact hr.serves h vpn
  | @zeroed p t _ _ hr =>
    have hzeroed : s.ServesTo vpn (t.zeroFrame p) :=
      (hr.serves h vpn).event (serves_of_none (e := .memcpy (p * vmPagesize) 0) rfl) rfl
    exact hzeroed.event hfaulted rfl
  | @loaded p t _ _ hr =>
    have hread : s.ServesTo vpn (t.readInto (s.pages r).backing p) :=
      (hr.serves h vpn).event (h.serves_read hs (p * vmPagesize) true) rfl
    exact hread.event hfaulted rfl
  | @unread p t left _ _ hr =>
    exact (hr.serves h vpn).event (h.serves_read hs (p * vmPagesize) false) rfl

/-- And so does every call of `vm_fault` on an access that the entry denies. -/
lemma vmFault_serves (h : Inv none s) {addr : BitVec 64} {w : Bool} {res : ℤ} {new : List Event}
    (hden : (s.currentPte (vaToVpn addr)).permits w = false)
    (hrun : vmFault addr w s = .ok (res, s')) (hnew : s'.trace = new ++ s.trace) :
    ∀ e ∈ new, s.Serves (vaToVpn addr) e := by
  by_cases hbad : addr < vmArenaBaseaddr ∨ s.slot s.pageTableBaseRegister (vaToVpn addr) = none
  · rw [vmFault_invalid h hbad] at hrun
    cases hrun
    rw [List.self_eq_append_left.1 hnew]
    exact fun e he => absurd he List.not_mem_nil
  · obtain ⟨hbase, hne⟩ := not_or.1 hbad
    obtain ⟨r, hs⟩ := Option.ne_none_iff_exists'.1 hne
    rw [vmFault_eq h hbase hs hden] at hrun
    rw [(currentPte_eq h hs).1] at hden
    have hend := h.faultEnd (fresh_of_denied h (.inl ⟨_, _, hs⟩) hden)
    rw [Except.ok.inj hrun] at hend
    obtain ⟨new', hnew', hserves⟩ := hend.serves h hs
    rw [hnew] at hnew'
    rwa [List.append_cancel_right hnew']

end Served

/-! ### Logs -/

section Logs

variable {s t : State} {calls : List SwapCall}

lemma mem_swapCalls {vpn : ℕ} {new : List Event} {o : Option PageRef} {b : ℕ}
    (hc : (o, b) ∈ s.swapCalls vpn new) : ∃ e ∈ new, e.swapBlock = some b ∧ o = s.servedBy vpn e := by
  obtain ⟨e, he, hmap⟩ := List.mem_filterMap.1 hc
  obtain ⟨c, hb, heq⟩ := Option.map_eq_some_iff.1 hmap
  obtain ⟨rfl, rfl⟩ := Prod.mk.inj heq
  exact ⟨e, he, hb, rfl⟩

lemma swapCalls_blocks (s : State) (vpn : ℕ) (new : List Event) :
    (s.swapCalls vpn new).map Prod.snd = new.filterMap Event.swapBlock := by
  rw [State.swapCalls, List.map_filterMap]
  congr 1
  funext e
  cases e.swapBlock <;> rfl

/-- **Calls of `vm_fault`, one after the other**: they are faults, and serve pages in use. -/
lemma FaultCalls.serves (h : Inv none s) (hf : FaultCalls s calls t) : Faults s t ∧
    t.trace.filterMap Event.swapBlock = calls.map Prod.snd ++ s.trace.filterMap Event.swapBlock ∧
    ∀ {o b}, (o, b) ∈ calls → ∃ r, o = some r ∧ s.Held r ∧ (s.pages r).type = .swapBacked ∧
      (s.pages r).swapBlock = b := by
  induction hf with
  | refl => exact ⟨.refl, rfl, fun hc => absurd hc List.not_mem_nil⟩
  | @fault calls t t' addr w res new _ hden hrun hnew ih =>
    obtain ⟨hfaults, hblocks, hserves⟩ := ih
    obtain ⟨ht, hev⟩ := h.faults hfaults
    refine ⟨hfaults.trans (vmFault_faults ht hden hrun), ?_, fun {o b} hc => ?_⟩
    · rw [hnew, List.filterMap_append, hblocks, List.map_append, swapCalls_blocks, List.append_assoc]
    · rcases List.mem_append.1 hc with hc | hc
      · obtain ⟨e, he, hb, rfl⟩ := mem_swapCalls hc
        obtain ⟨r, hserved, hr, htype, hblock⟩ := vmFault_serves ht hden hrun hnew e he b hb
        rw [hev.layout.type] at htype
        rw [hev.layout.page r] at hblock
        exact ⟨r, hserved, (hev.layout.held r).1 hr, htype, hblock⟩
      · exact hserves hc

/-- Faults are calls of `vm_fault`. -/
lemma Faults.faultCalls (h : Inv none s) (hf : Faults s t) : ∃ calls, FaultCalls s calls t := by
  induction hf with
  | refl => exact ⟨[], .refl⟩
  | @tail t t' hf hlast ih =>
    obtain ⟨calls, hcalls⟩ := ih
    obtain ⟨ht, -⟩ := h.faults hf
    obtain @⟨vpn, r, w, res, _, hs, hden, hend, -, hev⟩ := hlast
    obtain ⟨new, hnew⟩ := hev.trace
    have hvpn : vpn < 2 ^ 32 := by
      have hlt := (List.getElem?_eq_some_iff.1 hs).1
      have hle := ht.layout.arena_le t.pageTableBaseRegister
      have hn : numPtes = 256 := rfl
      omega
    have hva := vaToVpn_vpnToVa hvpn
    rw [← hva] at hs
    rw [← (currentPte_eq ht hs).1] at hden
    have hrun := vmFault_eq ht (not_vpnToVa_lt hvpn) hs hden
    rw [hend.eq ht] at hrun
    exact ⟨_, .fault hcalls hden hrun hnew⟩

variable {u : Setup} {k : Kernel} {ls : List Label} {log : List SwapCall}

lemma SwapLog.run (hl : SwapLog u ls log k) : (system u).Run ls k := by
  induction hl with
  | init hinit => exact .init hinit
  | step _ hs _ _ _ ih => exact ih.step hs

/-- **Every run has a log.** -/
theorem swapLog_of_run (h : (system u).Run ls k) : ∃ log, SwapLog u ls log k := by
  apply h.invariant (I := fun ls k => ∃ log, SwapLog u ls log k)
  · exact fun k hk => ⟨[], .init hk⟩
  · rintro ls k ⟨c, ret⟩ k' hr ⟨log, hlog⟩ hs
    have hinv := (Sound.reachable ⟨ls, hr⟩).inv
    obtain ⟨t, hf, hlast⟩ := (step_outcome ⟨ls, hr⟩ hs).split hinv
    obtain ⟨calls, hcalls⟩ := hf.faultCalls hinv
    have hrest : ∃ rest, k'.pager.trace = rest ++ t.trace ∧ ∀ e ∈ rest, e.swapBlock = none := by
      rcases hlast with heq | ha
      · exact ⟨[], by rw [heq]; rfl, by simp⟩
      · rcases ha.trace with he | ⟨r, n, b, he⟩
        · exact ⟨[], he, by simp⟩
        · exact ⟨[.mapped r n b], he, by simp [Event.swapBlock]⟩
    obtain ⟨rest, htrace, hquiet⟩ := hrest
    exact ⟨_, hlog.step hs hcalls htrace hquiet⟩

/-- A page that there is keeps its kind and its block. -/
lemma Moves.kept {s s' : State} (h : Inv none s) (hm : Moves s s') (r : PageRef)
    (hr : r < s.nextPage) : r < s'.nextPage ∧ (s'.pages r).type = (s.pages r).type ∧
      (s'.pages r).swapBlock = (s.pages r).swapBlock := by
  apply hm.preserves (R := fun s s' => r < s.nextPage → r < s'.nextPage ∧
    (s'.pages r).type = (s.pages r).type ∧ (s'.pages r).swapBlock = (s.pages r).swapBlock)
    (fun _ hr => ⟨hr, rfl, rfl⟩) ?_ ?_ h hr
  · intro a b c hab hbc hr
    obtain ⟨hr, ht, hb⟩ := hab hr
    obtain ⟨hr', ht', hb'⟩ := hbc hr
    exact ⟨hr', ht'.trans ht, hb'.trans hb⟩
  · intro a b _ hmove hr
    cases hmove with
    | fault hf =>
      have hl := hf.evolves.layout
      rw [hl.nextPage, hl.page r]
      exact ⟨hr, rfl, rfl⟩
    | act ha =>
      obtain ⟨ptes, hp⟩ := ha.page hr
      rw [hp]
      exact ⟨hr.trans_le ha.nextPage, rfl, rfl⟩

/-- **Every disk call of a log** is made for a swap-backed page, at its block. -/
theorem SwapLog.own (hl : SwapLog u ls log k) : ∀ {o b}, (o, b) ∈ log → ∃ r, o = some r ∧
    r < k.pager.nextPage ∧ (k.pager.pages r).type = .swapBacked ∧
    (k.pager.pages r).swapBlock = b := by
  induction hl with
  | init => exact fun hc => absurd hc List.not_mem_nil
  | @step ls log calls k k' l t rest hlog hs hf _ _ ih =>
    intro o b hc
    have hk : (system u).Reachable k := ⟨ls, hlog.run⟩
    have hinv := (Sound.reachable hk).inv
    have hpage : ∃ r, o = some r ∧ r < k.pager.nextPage ∧ (k.pager.pages r).type = .swapBacked ∧
        (k.pager.pages r).swapBlock = b := by
      rcases List.mem_append.1 hc with hc | hc
      · obtain ⟨r, ho, hr, hrest⟩ := (hf.serves hinv).2.2 hc
        exact ⟨r, ho, hinv.layout.held_lt hr, hrest⟩
      · exact ih hc
    obtain ⟨r, ho, hr, ht, hb⟩ := hpage
    obtain ⟨hr', ht', hb'⟩ := ((step_outcome hk hs).moves hinv).kept hinv r hr
    exact ⟨r, ho, hr', ht'.trans ht, hb'.trans hb⟩

/-- A log has all disk calls on the swap file. -/
theorem SwapLog.all (hl : SwapLog u ls log k) :
    log.map Prod.snd = k.pager.trace.filterMap Event.swapBlock := by
  induction hl with
  | init hinit =>
    rw [init_pager hinit]
    rfl
  | @step ls log calls k k' l t rest hlog hs hf htrace hrest ih =>
    have hinv := (Sound.reachable ⟨ls, hlog.run⟩).inv
    obtain ⟨-, hblocks, -⟩ := hf.serves hinv
    rw [htrace, List.filterMap_append, List.filterMap_eq_nil_iff.2 hrest, List.nil_append, hblocks,
      List.map_append, ih]

theorem SwapLog.used (hl : SwapLog u ls log k) : SwapUsed k.pager log where
  all := hl.all
  own hc := by
    obtain ⟨r, ho, -, hown⟩ := hl.own hc
    exact ⟨r, ho, hown⟩
  single hr hq hs hs' := by
    obtain ⟨_, ho, -, ht, hb⟩ := hl.own hr
    obtain ⟨_, ho', -, ht', hb'⟩ := hl.own hq
    cases ho
    cases ho'
    have hinv := (Sound.reachable ⟨ls, hl.run⟩).inv
    exact hinv.layout.swapBlock_inj (.inl ⟨_, _, hs⟩) (.inl ⟨_, _, hs'⟩) ht ht' (hb.trans hb'.symm)

end Logs

/-- **Swap reservation.** Each block is free or reserved by one page; a call of `vm_map` takes a block
when there is one; every run has a log of its disk calls on the swap file, and each is at the block of
the page it is made for. -/
theorem swap_reserved {u : Setup} {k : Kernel} (h : (system u).Reachable k) :
    SwapReserved k.pager u.swapBlocks ∧ (k.current.isSome → ∀ block, ∃ va s',
      vmMap nullptr block k.pager = .ok (va, s') ∧ MapsSwap k.pager u.swapBlocks va s') ∧
    (∀ {ls}, (system u).Run ls k → ∃ log, SwapLog u ls log k) ∧
    ∀ {ls log}, SwapLog u ls log k → SwapUsed k.pager log := by
  have hs := Sound.reachable h
  rw [← hs.blocks]
  refine ⟨hs.inv.swapReserved, fun hcur block => ?_, swapLog_of_run, SwapLog.used⟩
  obtain ⟨va, s', hrun, hm⟩ := vmMap_spec hs.inv (hs.running hcur) nullptr block
  exact ⟨va, s', hrun, hm.mapsSwap hs.inv⟩

/-- Process 1 takes all blocks, its first page is written, and it ends; process 2 takes the same block,
and its page is written, too. -/
theorem swap_reserved_reused : ∃ k ls log, SwapLog .small ls log k ∧ log.map Prod.snd = [0, 0] ∧
    k.current.isSome ∧ k.pager.liveBlocks = [0, 1] ∧ SwapReserved k.pager 3 ∧
    (∃ va s', vmMap nullptr 0 k.pager = .ok (va, s') ∧ MapsSwap k.pager 3 va s') ∧
    SwapUsed k.pager log := by
  let k := Setup.small.kernel [.create 0 1 10, .create 0 2 20, .switch 1, .map nullptr 0,
    .map nullptr 0, .map nullptr 0, .map nullptr 0, .fault (vpnToVa 0) true, .fault (vpnToVa 1) true,
    .destroy ⟨id, fun _ => .refl _⟩, .switch 2, .map nullptr 0, .map nullptr 0,
    .fault (vpnToVa 0) true, .fault (vpnToVa 1) true] (by decide +kernel)
  obtain ⟨ls, hrun, -⟩ := Setup.small.kernel_run _ _
  obtain ⟨hreserved, hmaps, hlog, hused⟩ := swap_reserved (⟨ls, hrun⟩ : (system .small).Reachable k)
  obtain ⟨log, hlog⟩ := hlog hrun
  have hcur : k.current.isSome := by decide +kernel
  have hblocks : k.pager.trace.filterMap Event.swapBlock = [0, 0] := by decide +kernel
  exact ⟨k, ls, log, hlog, (hused hlog).all.trans hblocks, hcur, by decide +kernel, hreserved,
    hmaps hcur 0, hused hlog⟩

end VmPager
