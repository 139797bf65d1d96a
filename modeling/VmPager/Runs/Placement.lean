import VmPager.Core.Renumber

/-!
# Where pages are placed

`vm_destroy` gives the frames of a process back in the order in which a hash set is iterated, and
memory holds anything before `vm_init`. Neither is seen again: calls that differ in these orders alone,
on machines that differ in their first memory alone, return the same and make the same disk calls
(`placement_unseen`). The two machines are in states that agree up to the numbers of the frames
(`Renumbers`).
-/

namespace VmPager

open Lib.Exec Lib.Transition

/-- The same call, but for the order in which a set of frames is iterated. -/
inductive Call.Like : Call → Call → Prop
  | same (c : Call) : Call.Like c c
  | destroy (order order' : IterOrder) : Call.Like (.destroy order) (.destroy order')

/-- The call with another order. -/
def Call.reorder (order : IterOrder) : Call → Call
  | .destroy _ => .destroy order
  | c => c

lemma Call.like_reorder (c : Call) (order : IterOrder) : c.Like (c.reorder order) := by
  cases c with
  | destroy => exact .destroy _ _
  | _ => exact .same _

lemma Call.Like.of_destroy {order : IterOrder} {c : Call} (h : Call.Like (.destroy order) c) :
    ∃ order', c = .destroy order' := by
  cases h with
  | same => exact ⟨order, rfl⟩
  | destroy _ order' => exact ⟨order', rfl⟩

lemma Call.Like.after {c c' : Call} (h : c.Like c') (cur : Option Pid) :
    c'.after cur = c.after cur := by
  cases h <;> rfl

/-- `vm_map` ends in one way. -/
lemma Mapping.unique {s s' s'' : State} {filename : BitVec 64} {block : ℕ} {va va' : BitVec 64}
    (hm : Mapping s filename block va s') (hm' : Mapping s filename block va' s'') :
    va' = va ∧ s'' = s' := by
  cases hm <;> cases hm' <;> first | omega | simp_all

/-! ### Reading a name -/

/-- **A turn of the outer loop of `get_filename`**, when the page has been brought in or not. -/
lemma getFilenameLoop_turn {s s₁ : State} (hs : Inv none s) {va faultVa : BitVec 64}
    {offset : ℕ} {r : PageRef} {res : ℤ} (hva : va.slt vmArenaBaseaddr = false)
    (hslot : s.slot s.pageTableBaseRegister (vaToVpn faultVa) = some r) (ho : offset < vmPagesize)
    (hrun : (if (s.currentPte (vaToVpn faultVa)).readEnable = false then vmFault faultVa false
      else pure 0) s = .ok (res, s₁)) (hin : BroughtIn s r res s₁) (fuel : ℕ) (str : Name) :
    getFilenameLoop va (fuel + 1) faultVa (vaToVpn faultVa) offset str s =
      if res = -1 then .ok (none, s₁)
      else if 0 ∈ bytesFrom (s.content r) offset then
        .ok (some (cString (str ++ cString (bytesFrom (s.content r) offset) ++ [0])), s₁)
      else getFilenameLoop va fuel (vpnToVa ((vaToVpn faultVa + 1) % 2 ^ 32))
        ((vaToVpn faultVa + 1) % 2 ^ 32) 0 (str ++ cString (bytesFrom (s.content r) offset)) s₁ := by
  obtain ⟨-, hread⟩ := currentPte_eq hs hslot
  have hlt := (List.getElem?_eq_some_iff.1 hslot).1
  have hvalid : ¬ (va.slt vmArenaBaseaddr = true ∨
      (s.arenas s.pageTableBaseRegister).length ≤ vaToVpn faultVa) := by
    rw [hva]
    simpa using hlt
  have hslot₁ : s₁.slot s₁.pageTableBaseRegister (vaToVpn faultVa) = some r := by
    rw [hin.evolves.layout.ptbr, hin.evolves.layout.slot]
    exact hslot
  rw [exec_ite] at hrun
  simp only [getFilenameLoop, bind_apply, lowestInvalidVpn_eq hs, ok_bind, exec_ite, hvalid,
    if_false, get_apply, hread, ite_bind, hrun]
  by_cases hres : res = -1
  · rw [if_pos hres, if_pos hres]
    rfl
  · obtain ⟨c, hscan, hc⟩ := hin.scan hres (.inl ⟨_, _, hslot⟩) ho str
    simp only [hres, if_false, arenaPage_eq hslot₁, getPage_eq, ok_bind, hscan, hc]
    split <;> rfl

namespace Renumbers

section Read

variable {f : ℕ → ℕ} {s t : State} (h : Renumbers f s t) (hs : Inv none s) (ht : Inv none t)
include h

lemma slot (vpn : ℕ) : t.slot t.pageTableBaseRegister vpn = s.slot s.pageTableBaseRegister vpn := by
  rw [h.layout.slot, h.layout.ptbr]

lemma arenaSize : t.arenaSize = s.arenaSize := by
  unfold State.arenaSize
  rw [h.layout.arenas, h.layout.ptbr]

include hs ht

/-- The entries of a slot permit the same accesses. -/
lemma currentPte_permits (vpn : ℕ) (w : Bool) :
    (t.currentPte vpn).permits w = (s.currentPte vpn).permits w := by
  have htab := h.layout.tables s.pageTableBaseRegister
  unfold State.currentPte
  rw [h.layout.ptbr]
  cases htabs : s.tables s.pageTableBaseRegister with
  | none =>
    rw [htabs, Option.isSome_none, Option.isSome_eq_false_iff, Option.isNone_iff_eq_none] at htab
    rw [htab]
  | some e =>
    rw [htabs, Option.isSome_some] at htab
    obtain ⟨e', htabs'⟩ := Option.isSome_iff_exists.1 htab
    rw [htabs']
    dsimp only
    rw [hs.coherent htabs, ht.coherent htabs', State.pteFor, State.pteFor, h.layout.slot]
    cases hslot : s.slot s.pageTableBaseRegister vpn with
    | none => rfl
    | some r => exact h.permits (.inl ⟨_, _, hslot⟩) w

/-- A page of the name is brought in, or is not, in both states. -/
lemma bringIn {faultVa : BitVec 64} {r : PageRef} (hbase : ¬ faultVa < vmArenaBaseaddr)
    (hslot : s.slot s.pageTableBaseRegister (vaToVpn faultVa) = some r) :
    ∃ res s₁ t₁ f', (if (s.currentPte (vaToVpn faultVa)).readEnable = false then
        vmFault faultVa false else pure 0) s = .ok (res, s₁) ∧
      (if (t.currentPte (vaToVpn faultVa)).readEnable = false then
        vmFault faultVa false else pure 0) t = .ok (res, t₁) ∧
      BroughtIn s r res s₁ ∧ BroughtIn t r res t₁ ∧ Renumbers f' s₁ t₁ := by
  have hslot' : t.slot t.pageTableBaseRegister (vaToVpn faultVa) = some r := by rw [h.slot, hslot]
  have hperm := h.currentPte_permits hs ht (vaToVpn faultVa) false
  have hin := bringIn_spec hs hbase hslot
  have hin' := bringIn_spec ht hbase hslot'
  have hread : (t.currentPte (vaToVpn faultVa)).readEnable =
      (s.currentPte (vaToVpn faultVa)).readEnable := hperm
  rw [hread] at hin' ⊢
  cases hden : (s.currentPte (vaToVpn faultVa)).readEnable with
  | true =>
    rw [hden, if_neg Bool.false_ne_true.symm] at hin hin'
    rw [if_neg Bool.false_ne_true.symm]
    exact ⟨0, s, t, f, rfl, rfl, hin.elim rfl, hin'.elim rfl, h⟩
  | false =>
    obtain ⟨f', hres, h₁⟩ := h.faultPage hs ht (.inl ⟨_, _, hslot⟩) false
    have hrun : vmFault faultVa false s = .ok ((s.faultPage r false).1, (s.faultPage r false).2) :=
      vmFault_eq hs hbase hslot hden
    have hrun' : vmFault faultVa false t =
        .ok ((s.faultPage r false).1, (t.faultPage r false).2) := by
      rw [vmFault_eq ht hbase hslot' (hperm.trans hden), ← hres]
    rw [hden, if_pos rfl] at hin hin'
    rw [if_pos rfl]
    exact ⟨_, _, _, f', hrun, hrun', hin.elim hrun, hin'.elim hrun', h₁⟩

omit h hs ht in
/-- **`get_filename` reads the same name** when it returns. -/
theorem getFilenameLoop {va : BitVec 64} : ∀ (fuel : ℕ) {f : ℕ → ℕ} {s t s' : State}
    {faultVa : BitVec 64} {vpn offset : ℕ} {str : Name} {res : Option Name}, Renumbers f s t →
    Inv none s → Inv none t → ¬ faultVa < vmArenaBaseaddr → vaToVpn faultVa = vpn →
    offset < vmPagesize → VmPager.getFilenameLoop va fuel faultVa vpn offset str s = .ok (res, s') →
    ∃ t' f', VmPager.getFilenameLoop va fuel faultVa vpn offset str t = .ok (res, t') ∧
      Renumbers f' s' t' := by
  intro fuel
  induction fuel with
  | zero =>
    intro f s t s' faultVa vpn offset str res _ _ _ _ _ _ hrun
    cases hrun
  | succ fuel ih =>
    intro f s t s' faultVa vpn offset str res h hs ht hbase hvpn ho hrun
    subst hvpn
    by_cases hbad : va.slt vmArenaBaseaddr = true ∨ s.arenaSize ≤ vaToVpn faultVa
    · have hbad' : va.slt vmArenaBaseaddr = true ∨ t.arenaSize ≤ vaToVpn faultVa := by
        rwa [h.arenaSize]
      unfold State.arenaSize at hbad hbad'
      simp only [VmPager.getFilenameLoop, bind_apply, lowestInvalidVpn_eq hs, lowestInvalidVpn_eq ht,
        ok_bind, exec_ite, hbad, hbad', if_true, pure_apply] at hrun ⊢
      cases hrun
      exact ⟨t, f, rfl, h⟩
    · obtain ⟨hva, hlt⟩ := not_or.1 hbad
      have hva' : va.slt vmArenaBaseaddr = false := Bool.eq_false_of_not_eq_true hva
      obtain ⟨r, hslot⟩ : ∃ r, s.slot s.pageTableBaseRegister (vaToVpn faultVa) = some r :=
        ⟨_, List.getElem?_eq_getElem (Nat.not_le.1 hlt)⟩
      have hslot' : t.slot t.pageTableBaseRegister (vaToVpn faultVa) = some r := by rw [h.slot, hslot]
      obtain ⟨code, s₁, t₁, f₁, hs₁, ht₁, hin, hin', h₁⟩ := h.bringIn hs ht hbase hslot
      rw [getFilenameLoop_turn hs hva' hslot ho hs₁ hin] at hrun
      rw [getFilenameLoop_turn ht hva' hslot' ho ht₁ hin', h.content hs ht (.inl ⟨_, _, hslot⟩)]
      by_cases hcode : code = -1
      · rw [if_pos hcode] at hrun ⊢
        cases hrun
        exact ⟨t₁, f₁, rfl, h₁⟩
      · rw [if_neg hcode] at hrun ⊢
        by_cases hnul : 0 ∈ bytesFrom (s.content r) offset
        · rw [if_pos hnul] at hrun ⊢
          cases hrun
          exact ⟨t₁, f₁, rfl, h₁⟩
        · rw [if_neg hnul] at hrun ⊢
          have hmod : (vaToVpn faultVa + 1) % 2 ^ 32 < 2 ^ 32 := Nat.mod_lt _ (Nat.two_pow_pos 32)
          exact ih h₁ hin.inv hin'.inv (not_vpnToVa_lt hmod) (vaToVpn_vpnToVa hmod)
            vmPagesize_pos hrun

/-- **`get_filename`** comes to the same. -/
theorem getFilename {va : BitVec 64} {res : Option Name} {s' : State}
    (hrun : VmPager.getFilename va s = .ok (res, s')) :
    ∃ t' f', VmPager.getFilename va t = .ok (res, t') ∧ Renumbers f' s' t' := by
  cases hva : va.slt vmArenaBaseaddr with
  | true =>
    rw [getFilename_invalid hs (.inl hva)] at hrun
    cases hrun
    exact ⟨t, f, getFilename_invalid ht (.inl hva), h⟩
  | false =>
    exact getFilenameLoop loopBound h hs ht (not_lt_of_not_slt hva) rfl
      (Nat.mod_lt _ vmPagesize_pos) hrun

/-! ### A call -/

/-- **`vm_map`** comes to the same. -/
theorem mapping {filename : BitVec 64} {block : ℕ} {va : BitVec 64} {s' : State}
    (hm : Mapping s filename block va s') :
    ∃ t' f', Mapping t filename block va t' ∧ Renumbers f' s' t' := by
  have hsize := h.arenaSize
  have hva : t.nextVa = s.nextVa := by rw [State.nextVa, State.nextVa, hsize]
  cases hm with
  | full hfull => exact ⟨t, f, .full (hsize ▸ hfull), h⟩
  | noBlock hlen hname hfree =>
    exact ⟨t, f, .noBlock (hsize ▸ hlen) hname (h.layout.freeBlocks.trans hfree), h⟩
  | swap hlen hname hfree =>
    rw [← hva]
    exact ⟨_, f, .swap (hsize ▸ hlen) hname (h.layout.freeBlocks.trans hfree),
      h.mapSwap hs.layout _ _⟩
  | noName hlen hname hread =>
    obtain ⟨t', f', hread', h'⟩ := h.getFilename hs ht hread
    exact ⟨t', f', .noName (hsize ▸ hlen) hname hread', h'⟩
  | @known s₁ n r hlen hname hread hfile =>
    obtain ⟨t', f', hread', h'⟩ := h.getFilename hs ht hread
    have hfile' : t'.fileTable n block = some r := by rw [h'.layout.fileTable, hfile]
    rw [← hva]
    exact ⟨_, f', .known (hsize ▸ hlen) hname hread' hfile',
      h'.mapKnown (getFilename_evolves hs hread).1.layout hfile⟩
  | @new s₁ n hlen hname hread hfile =>
    obtain ⟨t', f', hread', h'⟩ := h.getFilename hs ht hread
    have hfile' : t'.fileTable n block = none := by rw [h'.layout.fileTable, hfile]
    rw [← hva]
    exact ⟨_, f', .new (hsize ▸ hlen) hname hread' hfile',
      h'.mapNew (getFilename_evolves hs hread).1.layout hfile⟩

/-- The infrastructure makes the same calls. -/
lemma legal {cur : Option Pid} {c c' : Call} (hc : c.Like c') (hl : Legal ⟨s, cur⟩ c) :
    Legal ⟨t, cur⟩ c' := by
  have hL := h.layout
  have hperm := h.currentPte_permits hs ht
  cases hc with
  | destroy => exact hl
  | same =>
    cases c with
    | create parentPid childPid childPtbr =>
      obtain ⟨hpid, hpt, h0⟩ := hl
      refine ⟨by rw [hL.pageTables]; exact hpid, ?_, h0⟩
      rw [← Option.isNone_iff_eq_none, ← Option.not_isSome, hL.tables]
      simpa using hpt
    | switch pid =>
      show (t.pageTables.lookup pid).isSome = true
      rw [hL.pageTables]
      exact hl
    | fault addr w => exact ⟨hl.1, hl.2.1, (hperm _ _).trans hl.2.2⟩
    | map => exact hl
    | destroy => exact hl
    | load => exact ⟨hl.1, hl.2.1, (hperm _ _).trans hl.2.2⟩
    | store => exact ⟨hl.1, hl.2.1, (hperm _ _).trans hl.2.2⟩

/-- **A call comes to the same**, but for the order in which a process's frames go back. -/
theorem outcome {c c' : Call} (hc : c.Like c') {ret ret' : Ret} {s' t' : State}
    (ho : Outcome s c ret s') (ho' : Outcome t c' ret' t') : ret' = ret ∧ ∃ f', Renumbers f' s' t' := by
  cases ho with
  | create _ hpt =>
    cases hc
    cases ho' with
    | create => exact ⟨rfl, f, h.created hs.layout hpt⟩
  | @switch pid pt hpid =>
    cases hc
    cases ho' with
    | @switch _ pt' hpid' =>
      rw [h.layout.pageTables, hpid] at hpid'
      cases hpid'
      exact ⟨rfl, f, h.switched pt⟩
  | invalid _ hslot =>
    cases hc
    cases ho' with
    | invalid => exact ⟨rfl, f, h⟩
    | fault _ hslot' =>
      rw [h.slot, hslot] at hslot'
      cases hslot'
  | @fault addr w r _ hslot =>
    cases hc
    cases ho' with
    | invalid _ hslot' =>
      rw [h.slot, hslot] at hslot'
      cases hslot'
    | fault _ hslot' =>
      rw [h.slot, hslot] at hslot'
      cases hslot'
      obtain ⟨f', hres, h'⟩ := h.faultPage hs ht (.inl ⟨_, _, hslot⟩) w
      exact ⟨congrArg Ret.code hres, f', h'⟩
  | map _ hm =>
    cases hc
    cases ho' with
    | map _ hm' =>
      obtain ⟨t₁, f', hm₁, h'⟩ := h.mapping hs ht hm
      obtain ⟨rfl, rfl⟩ := hm₁.unique hm'
      exact ⟨rfl, f', h'⟩
  | @destroy order pid hpid =>
    obtain ⟨order', rfl⟩ := hc.of_destroy
    cases ho' with
    | @destroy _ pid' hpid' =>
      rw [h.layout.pageTables, h.layout.ptbr] at hpid'
      obtain rfl := hs.layout.ptbr_inj hpid hpid'
      exact ⟨rfl, f, h.destroyed hs ht (order.perm _) (order'.perm _)⟩
  | @load vpn offset r hslot =>
    cases hc
    cases ho' with
    | load hslot' =>
      rw [h.slot, hslot] at hslot'
      cases hslot'
      rw [h.content hs ht (.inl ⟨_, _, hslot⟩)]
      exact ⟨rfl, f, h⟩
  | @store vpn offset byte r hslot hf hd =>
    cases hc
    cases ho' with
    | store hslot' =>
      rw [h.slot, hslot] at hslot'
      cases hslot'
      exact ⟨rfl, f, h.stored hs.frames ht.frames (.inl ⟨_, _, hslot⟩) hf offset byte⟩

end Read

end Renumbers

/-! ### Runs -/

/-- The first memory of the machine is not compared. -/
lemma renumbers_initial (u : Setup) (m : ℕ → UInt8) :
    Renumbers id u.initial (Setup.initial { u with physmem := m }) where
  layout := { SameLayout.refl u.initial with }
  disk := rfl
  writes := rfl
  reads := rfl
  trace := rfl
  zero := rfl
  active := rfl
  free := rfl
  flags _ := rfl
  owner _ := rfl
  frame ho := by
    obtain ⟨hp, -⟩ := (Inv.initial u).frames.owner_ok ho
    cases hp

/-- The machines are in the same state, but for the numbers of the frames. -/
def Kernel.Renumbered (u : Setup) (k k' : Kernel) : Prop :=
  Sound u k' ∧ k'.current = k.current ∧ ∃ f, Renumbers f k.pager k'.pager

/-- **A step of one machine** is one of the other. -/
lemma Kernel.Renumbered.step {u u' : Setup} {k k₁ k' : Kernel} {l l' : Label}
    (hk : (system u).Reachable k) (h : k.Renumbered u' k') (hl : l.1.Like l'.1 ∧ l'.2 = l.2)
    (hs : (system u).step k l k₁) : ∃ k₁', (system u').step k' l' k₁' ∧ k₁.Renumbered u' k₁' := by
  obtain ⟨hsound', hcur, f, hf⟩ := h
  have hsound := Sound.reachable hk
  have hlegal : Legal k' l'.1 := by
    have hleg : Legal ⟨k'.pager, k.current⟩ l'.1 := hf.legal hsound.inv hsound'.inv hl.1 hs.1
    rwa [← hcur] at hleg
  obtain ⟨ret, k₁', hs'⟩ := hsound'.exists_step hlegal
  obtain ⟨ho', hsound₁⟩ := hsound'.step hs'
  obtain ⟨hret, f', hf'⟩ := hf.outcome hsound.inv hsound'.inv hl.1 (step_outcome hk hs) ho'
  rw [hret, ← hl.2] at hs'
  refine ⟨k₁', hs', hsound₁, ?_, f', hf'⟩
  rw [hs'.2.2, hs.2.2, hcur]
  cases l
  cases l'
  exact hl.1.after k.current

/-- **Where pages are placed is never seen.** The same calls, with other orders of the frames that
`vm_destroy` gives back and on a machine whose memory held other bytes, return the same, make the same
disk calls and leave the same bytes on disk and in every page. -/
theorem placement_unseen {u : Setup} (m : ℕ → UInt8) {ls ls' : List Label} {k : Kernel}
    (h : (system u).Run ls k)
    (hls : List.Forall₂ (fun l l' => l.1.Like l'.1 ∧ l'.2 = l.2) ls ls') :
    ∃ k', (system { u with physmem := m }).Run ls' k' ∧ k'.current = k.current ∧
      k'.pager.disk = k.pager.disk ∧
      k'.pager.trace.map Event.unplaced = k.pager.trace.map Event.unplaced ∧
      ∀ r, k.pager.Held r → k'.pager.content r = k.pager.content r ∧
        ((k'.pager.pages r).Framed ↔ (k.pager.pages r).Framed) := by
  have hinit : ∀ c, (system u).init c → ∃ d, (system { u with physmem := m }).init d ∧
      c.Renumbered { u with physmem := m } d := by
    intro c hc
    have hd : (system { u with physmem := m }).init
        ⟨Setup.initial { u with physmem := m }, none⟩ := ⟨vmInit_eq _, rfl⟩
    refine ⟨_, hd, Sound.reachable (.init hd), hc.2.symm, id, ?_⟩
    rw [init_pager hc]
    exact renumbers_initial u m
  obtain ⟨k', hrun, -, hcur, f, hf⟩ := h.relabels hinit
    (fun c l c' l' d hc hR hl hs => Kernel.Renumbered.step hc hR hl hs) hls
  have hinv := (Sound.reachable ⟨ls, h⟩).inv
  have hinv' := (Sound.reachable ⟨ls', hrun⟩).inv
  exact ⟨k', hrun, hcur, hf.disk, hf.trace, fun r hr =>
    ⟨hf.content hinv hinv' hr, hf.framed hinv.frames hinv'.frames hr⟩⟩

/-- Process 1 ends with two frames, and process 2 takes the one that comes back first. -/
def reuse (order : IterOrder) : List Call :=
  [.create 0 1 10, .switch 1, .map nullptr 0, .map nullptr 0, .fault (vpnToVa 0) true,
    .fault (vpnToVa 1) true, .destroy order, .create 0 2 20, .switch 2, .map nullptr 0,
    .fault (vpnToVa 0) true]

theorem placement_unseen_reversed : ∃ ls ls' k k', (system .three).Run ls k ∧
    ls.map Prod.fst = (reuse ⟨id, fun _ => .refl _⟩).reverse ∧
    (system { Setup.three with physmem := fun _ => 255 }).Run ls' k' ∧
    ls'.map Prod.fst = (reuse ⟨List.reverse, List.reverse_perm⟩).reverse ∧
    k.pager.Held 2 ∧ k'.pager.content 2 = k.pager.content 2 := by
  let order : IterOrder := ⟨List.reverse, List.reverse_perm⟩
  obtain ⟨ls, hrun, hcalls⟩ := Setup.three.kernel_run (reuse ⟨id, fun _ => .refl _⟩) (by decide +kernel)
  have hlike : List.Forall₂ (fun l l' : Label => l.1.Like l'.1 ∧ l'.2 = l.2) ls
      (ls.map fun l => (l.1.reorder order, l.2)) :=
    List.forall₂_map_right_iff.2 (List.forall₂_same.2 fun l _ => ⟨l.1.like_reorder order, rfl⟩)
  obtain ⟨k', hrun', -, -, -, hsame⟩ := placement_unseen (fun _ => 255) hrun hlike
  have hheld : (Setup.three.kernel (reuse ⟨id, fun _ => .refl _⟩) (by decide +kernel)).pager.Held 2 :=
    .inl ⟨20, 0, by decide +kernel⟩
  refine ⟨ls, _, _, k', hrun, hcalls, hrun', ?_, hheld, (hsame 2 hheld).1⟩
  have hmap : (ls.map fun l => (l.1.reorder order, l.2)).map Prod.fst =
      (ls.map Prod.fst).map (Call.reorder order) := by
    rw [List.map_map, List.map_map]
    rfl
  rw [hmap, hcalls]
  rfl

end VmPager
