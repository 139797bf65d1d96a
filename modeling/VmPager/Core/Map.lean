import VmPager.Core.Filename
import VmPager.Inv.Map

/-!
# What `vm_map` comes to

`Mapping` lists the ways `vm_map` can end; `vmMap_spec` says that on states of the invariant it ends
in one of them.
-/

namespace VmPager

open Lib.Exec

/-- The current process has a page table. -/
def State.Running (s : State) : Prop := (s.tables s.pageTableBaseRegister).isSome

/-- The number of valid pages of the current process. -/
def State.arenaSize (s : State) : ℕ := (s.arenas s.pageTableBaseRegister).length

/-- The address of the page that is mapped next. -/
def State.nextVa (s : State) : BitVec 64 := vpnToVa s.arenaSize

/-- How a call of `vm_map` ends: the address it returns and the state it leaves. -/
inductive Mapping (s : State) (filename : BitVec 64) (block : ℕ) : BitVec 64 → State → Prop
  | full (hfull : numPtes ≤ s.arenaSize) : Mapping s filename block nullptr s
  | noBlock (hlen : s.arenaSize < numPtes) (hname : filename = nullptr) (hfree : s.freeBlocks = []) :
      Mapping s filename block nullptr s
  | swap {b : ℕ} {rest : List ℕ} (hlen : s.arenaSize < numPtes) (hname : filename = nullptr)
      (hfree : s.freeBlocks = b :: rest) : Mapping s filename block s.nextVa (s.mapSwap b rest)
  | noName {s' : State} (hlen : s.arenaSize < numPtes) (hname : filename ≠ nullptr)
      (hread : getFilename filename s = .ok (none, s')) : Mapping s filename block nullptr s'
  | known {s' : State} {n : Name} {r : PageRef} (hlen : s.arenaSize < numPtes)
      (hname : filename ≠ nullptr) (hread : getFilename filename s = .ok (some n, s'))
      (hfile : s'.fileTable n block = some r) : Mapping s filename block s.nextVa (s'.mapKnown r)
  | new {s' : State} {n : Name} (hlen : s.arenaSize < numPtes)
      (hname : filename ≠ nullptr) (hread : getFilename filename s = .ok (some n, s'))
      (hfile : s'.fileTable n block = none) : Mapping s filename block s.nextVa (s'.mapNew n block)

/-! ### The branches -/

section Branches

variable {s : State} (h : Inv none s) (hlive : s.Running) (hlen : s.arenaSize < numPtes)
include hlive hlen

/-- The entry of the next slot is written. -/
lemma updatePte_nextSlot {t : State} (ht : t.tables = s.tables) (ppn : ℕ) (read write : Bool) :
    updatePte s.arenaSize ppn read write s.pageTableBaseRegister t =
      .ok ((), t.writeWhere (· = s.nextSlot) (mkPte ppn read write)) :=
  writePte_eq (show (t.tables s.pageTableBaseRegister).isSome by rw [ht]; exact hlive) hlen _

include h

theorem vmMapSwap_eq : vmMapSwap s.arenaSize s = match s.freeBlocks with
    | [] => .ok (nullptr, s)
    | b :: rest => .ok (s.nextVa, s.mapSwap b rest) := by
  have hfew : s.freeBlocks.length % 2 ^ 32 = s.freeBlocks.length := by
    have hlen := h.layout.blocks.length_eq
    have := h.layout.blocks_max
    rw [List.length_append, List.length_range] at hlen
    exact Nat.mod_eq_of_lt (by omega)
  cases hfree : s.freeBlocks with
  | nil =>
    simp only [vmMapSwap, numFree, bind_apply, get_apply, ok_bind, pure_apply, exec_ite, hfree,
      List.length_nil, Nat.zero_mod, if_true]
  | cons b rest =>
    rw [hfree] at hfew
    have hne : (b :: rest).length ≠ 0 := Nat.succ_ne_zero _
    have hwrite := updatePte_nextSlot hlive hlen (t := { s with freeBlocks := rest }) rfl 0 true false
    simp only [vmMapSwap, numFree, bind_apply, get_apply, ok_bind, pure_apply, exec_ite, hfree, hfew,
      hne, if_false, getNextFree, modify_apply, hwrite]
    rfl

omit hlive hlen in
/-- The entry that `vm_map` writes for a page of the file table is the one its flags call for. -/
lemma knownPte_eq {r : PageRef} (hr : s.Held r) :
    (if (s.pages r).referenced then
      if (s.pages r).resident then
        if (s.pages r).dirty then mkPte (s.pages r).ppn true true
        else mkPte (s.pages r).ppn true false
      else mkPte (s.pages r).ppn false false
    else mkPte (s.pages r).ppn false false) = (s.pages r).flags.pte := by
  simp only [mkPte_of_lt (h.frames.ppn_lt hr)]
  cases hres : (s.pages r).resident with
  | false =>
    have hout := (h.frames.flags_ok hr).out hres
    have hppn : (s.pages r).ppn = 0 := congrArg Flags.ppn hout
    rw [pte_out hres]
    simp [hppn, Pte.zero]
  | true =>
    cases href : (s.pages r).referenced with
    | false =>
      rw [pte_unreferenced hres href]
      rfl
    | true =>
      rw [pte_referenced hres href]
      cases (s.pages r).dirty <;> rfl

theorem vmMapKnown_eq {n : Name} {block : ℕ} {r : PageRef} (hf : s.fileTable n block = some r) :
    vmMapKnown s.arenaSize n block s = .ok ((), s.mapKnown r) := by
  have hpage : ∀ X : PageState, Function.update s.pages r X r = X :=
    fun X => Function.update_self ..
  have hpte := knownPte_eq h (r := r) (.inr ⟨n, block, hf⟩)
  let t : State := { s with
    arenas := Function.update s.arenas s.pageTableBaseRegister
      (s.arenas s.pageTableBaseRegister ++ [r])
    pages := Function.update s.pages r
      ((s.pages r).addPte s.pageTableBaseRegister ⟨s.pageTableBaseRegister, s.arenaSize⟩) }
  have hwrite := updatePte_nextSlot hlive hlen (t := t) rfl
  have hall : (if (s.pages r).referenced then
      if (s.pages r).resident then
        if (s.pages r).dirty then
          updatePte s.arenaSize (s.pages r).ppn true true s.pageTableBaseRegister t
        else updatePte s.arenaSize (s.pages r).ppn true false s.pageTableBaseRegister t
      else updatePte s.arenaSize (s.pages r).ppn false false s.pageTableBaseRegister t
    else updatePte s.arenaSize (s.pages r).ppn false false s.pageTableBaseRegister t) =
      .ok ((), t.writeWhere (· = s.nextSlot) (s.pages r).flags.pte) := by
    rw [← hpte]
    simp only [hwrite]
    split
    · split
      · split <;> rfl
      · rfl
    · rfl
  have hfin : t.writeWhere (· = s.nextSlot) (s.pages r).flags.pte = s.mapKnown r := rfl
  rw [← hfin, ← hall]
  simp only [vmMapKnown, fileTablePage, bind_apply, get_apply, ok_bind, hf, pure_apply, pushArena,
    modify_apply, modifyPage_eq, getPage_eq, hpage, exec_ite]
  rfl

omit h in
theorem vmMapNew_eq (n : Name) (block : ℕ) :
    vmMapNew s.arenaSize n block s = .ok ((), s.mapNew n block) := by
  let t : State := { s with
    arenas := Function.update s.arenas s.pageTableBaseRegister
      (s.arenas s.pageTableBaseRegister ++ [s.nextPage])
    pages := Function.update s.pages s.nextPage (s.newFilePage n block)
    nextPage := s.nextPage + 1
    trace := .mapped s.nextPage (some n) block :: s.trace }
  have hwrite : updatePte s.arenaSize 0 false false s.pageTableBaseRegister t =
      .ok ((), t.writeWhere (· = s.nextSlot) Pte.zero) :=
    updatePte_nextSlot hlive hlen (t := t) rfl 0 false false
  simp only [vmMapNew, makePage, bind_apply, get_apply, ok_bind, modify_apply, note_eq, pure_apply,
    modifyPage_eq, pushArena, Function.update_self, Function.update_idem]
  show Except.bind (updatePte s.arenaSize 0 false false s.pageTableBaseRegister t) _ = _
  rw [hwrite, ok_bind]
  rfl

end Branches

/-! ### The function -/

/-- A call of `vm_map` reads the name in a state with the same arena. -/
lemma Evolves.running {s s' : State} (h : Evolves s s') (hlive : s.Running) :
    s'.Running ∧ s'.arenaSize = s.arenaSize := by
  unfold State.Running State.arenaSize
  rw [h.layout.ptbr, h.layout.tables, h.layout.arenas]
  exact ⟨hlive, rfl⟩

theorem getFilename_evolves {s s' : State} (h : Inv none s) {va : BitVec 64} {res : Option Name}
    (hread : getFilename va s = .ok (res, s')) : Inv none s' ∧ Evolves s s' := by
  rcases (getFilename_spec h va).elim hread with ⟨-, -, rfl⟩ | ⟨-, hname⟩
  · exact ⟨h, Evolves.refl s'⟩
  · exact ⟨hname.inv, hname.evolves⟩

/-- **What `vm_map` comes to.** -/
theorem vmMap_spec {s : State} (h : Inv none s) (hlive : s.Running) (filename : BitVec 64)
    (block : ℕ) : Returns (vmMap filename block) s (Mapping s filename block) := by
  have hinv := lowestInvalidVpn_eq h
  have hn : vmArenaSize / vmPagesize = numPtes := rfl
  unfold Returns vmMap
  simp only [bind_apply, hinv, ok_bind, hn, exec_ite]
  by_cases hfull : numPtes ≤ s.arenaSize
  · exact ⟨nullptr, s, if_pos hfull, .full hfull⟩
  · have hlen := Nat.not_le.1 hfull
    simp only [State.arenaSize] at hfull
    simp only [hfull, if_false]
    by_cases hname : filename = nullptr
    · rw [if_pos hname]
      have hswap := vmMapSwap_eq h hlive hlen
      cases hfree : s.freeBlocks with
      | nil =>
        rw [hfree] at hswap
        exact ⟨_, _, hswap, .noBlock hlen hname hfree⟩
      | cons b rest =>
        rw [hfree] at hswap
        exact ⟨_, _, hswap, .swap hlen hname hfree⟩
    · rw [if_neg hname]
      obtain ⟨res, s', hread, -⟩ := getFilename_spec h filename
      rw [hread, ok_bind]
      obtain ⟨h', hev⟩ := getFilename_evolves h hread
      obtain ⟨hlive', hsize⟩ := hev.running hlive
      have hlen' : s'.arenaSize < numPtes := by rw [hsize]; exact hlen
      cases res with
      | none => exact ⟨_, _, rfl, .noName hlen hname hread⟩
      | some n =>
        cases hf : s'.fileTable n block with
        | some r =>
          have hknown := vmMapKnown_eq h' hlive' hlen' hf
          rw [hsize, State.arenaSize] at hknown
          refine ⟨_, _, ?_, .known hlen hname hread hf⟩
          simp only [bind_apply, fileInFileTable, get_apply, ok_bind, pure_apply, hf,
            Option.isSome_some, exec_ite, if_true, hknown]
          rfl
        | none =>
          have hnew := vmMapNew_eq hlive' hlen' n block
          rw [hsize, State.arenaSize] at hnew
          refine ⟨_, _, ?_, .new hlen hname hread hf⟩
          simp only [bind_apply, fileInFileTable, get_apply, ok_bind, pure_apply, hf,
            Option.isSome_none, exec_ite, Bool.false_eq_true, if_false, hnew]
          rfl

/-- **The invariant through `vm_map`.** -/
theorem Inv.map {s s' : State} (h : Inv none s) (hlive : s.Running) {filename : BitVec 64}
    {block : ℕ} {va : BitVec 64} (hm : Mapping s filename block va s') : Inv none s' := by
  cases hm with
  | full => exact h
  | noBlock => exact h
  | swap hlen _ hfree => exact h.mapSwap hlive hlen hfree
  | noName _ _ hread => exact (getFilename_evolves h hread).1
  | known hlen _ hread hf =>
    obtain ⟨h', hev⟩ := getFilename_evolves h hread
    obtain ⟨hlive', hsize⟩ := hev.running hlive
    exact h'.mapKnown hlive' (by rw [← hsize] at hlen; exact hlen) hf
  | new hlen _ hread hf =>
    obtain ⟨h', hev⟩ := getFilename_evolves h hread
    obtain ⟨hlive', hsize⟩ := hev.running hlive
    exact h'.mapNew hlive' (by rw [← hsize] at hlen; exact hlen) hf

/-! ### What a mapping changes -/

/-- The address of a page is not null. -/
lemma nextVa_ne_nullptr {s : State} (hlen : s.arenaSize < numPtes) : s.nextVa ≠ nullptr :=
  vpnToVa_ne_nullptr (hlen.trans (by unfold numPtes vmArenaSize vmPagesize; norm_num))

section Mapping

variable {s s' : State} (h : Inv none s) {filename : BitVec 64} {block : ℕ} {va : BitVec 64}
  (hm : Mapping s filename block va s')
include h hm

/-- Without a page, a call of `vm_map` only brings pages in; with one, it puts the page at the end of
the arena after that. -/
theorem Mapping.steps : (va = nullptr ∧ Evolves s s') ∨
    (va ≠ nullptr ∧ va = s.nextVa ∧ ∃ t r, Inv none t ∧ Evolves s t ∧ Grows r t s') := by
  cases hm with
  | full => exact .inl ⟨rfl, Evolves.refl s⟩
  | noBlock => exact .inl ⟨rfl, Evolves.refl s⟩
  | swap hlen =>
    exact .inr ⟨nextVa_ne_nullptr hlen, rfl, s, _, h, Evolves.refl s, grows_mapSwap h.layout _ _⟩
  | noName _ _ hread => exact .inl ⟨rfl, (getFilename_evolves h hread).2⟩
  | known hlen _ hread hf =>
    obtain ⟨h', hev⟩ := getFilename_evolves h hread
    exact .inr ⟨nextVa_ne_nullptr hlen, rfl, _, _, h', hev, grows_mapKnown h'.layout hf⟩
  | new hlen _ hread hf =>
    obtain ⟨h', hev⟩ := getFilename_evolves h hread
    exact .inr ⟨nextVa_ne_nullptr hlen, rfl, _, _, h', hev, grows_mapNew h'.layout hf⟩

/-- A page mapped with a name is the one of the file table for the name and the block. -/
theorem Mapping.file (hname : filename ≠ nullptr) (hva : va ≠ nullptr) :
    ∃ n t r, getFilename filename s = .ok (some n, t) ∧ Inv none t ∧ Evolves s t ∧ Grows r t s' ∧
      s'.fileTable n block = some r := by
  cases hm with
  | full => exact absurd rfl hva
  | noBlock => exact absurd rfl hva
  | swap _ hnull => exact absurd hnull hname
  | noName => exact absurd rfl hva
  | @known t n r _ _ hread hf =>
    obtain ⟨h', hev⟩ := getFilename_evolves h hread
    exact ⟨n, t, r, hread, h', hev, grows_mapKnown h'.layout hf, hf⟩
  | @new t n _ _ hread hf =>
    obtain ⟨h', hev⟩ := getFilename_evolves h hread
    refine ⟨n, t, t.nextPage, hread, h', hev, grows_mapNew h'.layout hf, ?_⟩
    rw [State.mapNew_fileTable, Function.update_self, Function.update_self]

omit h in
/-- A page mapped without a name is swap-backed, on the first free block. -/
theorem Mapping.anonymous (hname : filename = nullptr) (hva : va ≠ nullptr) :
    ∃ b rest, s.freeBlocks = b :: rest ∧ s' = s.mapSwap b rest := by
  cases hm with
  | full => exact absurd rfl hva
  | noBlock => exact absurd rfl hva
  | swap _ _ hfree => exact ⟨_, _, hfree, rfl⟩
  | noName _ hne => exact absurd hname hne
  | known _ hne => exact absurd hname hne
  | new _ hne => exact absurd hname hne

end Mapping

end VmPager
