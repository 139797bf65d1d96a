import VmPager.Core.Clock
import VmPager.Inv.Load
import VmPager.Code.Fault

/-!
# The code computes the fault

`evict_or_get_free_ppn`, `disk_to_mem` and the branches of `vm_fault` compute `State.takeFrame`,
`State.loadBlock` and `State.faultPage` on states of the invariant.
-/

namespace VmPager

open Lib.Exec Lib.Frames

/-! ### Getting a frame -/

theorem evictOrGetFreePpn_eq {s : State} (h : Inv none s) :
    evictOrGetFreePpn s = .ok s.takeFrame := by
  cases hfree : s.freePages with
  | nil =>
    simp only [evictOrGetFreePpn, bind_apply, isFull_eq h.frames, ok_bind, hfree, decide_true,
      if_true, evict_eq h hfree, exec_ite, pure_apply]
    split
    · rename_i h0
      rw [← h0]
    · rfl
  | cons p rest =>
    simp only [evictOrGetFreePpn, bind_apply, isFull_eq h.frames, ok_bind, hfree, reduceCtorEq,
      decide_false, Bool.false_eq_true, if_false, getFreePpn, get_apply, modify_apply, pure_apply,
      State.takeFrame]
    rfl

/-- The first place of a frame in the active queue is its only one. -/
lemma makeFree_eq {s : State} {p : ℕ} (hp : p ∈ s.activePages) (hlt : p < s.physMemPages.length) :
    makeFree p s = .ok ((), { s with
      activePages := s.activePages.erase p
      freePages := s.freePages ++ [p]
      physMemPages := s.physMemPages.set p none }) := by
  simp only [makeFree, bind_apply, get_apply, ok_bind, hp, if_true, makeFreeItr, modify_apply]
  rw [setPhysMemPage_eq]
  exact hlt

lemma fileRead_eq (s : State) (bk : Option Name × ℕ) {p : ℕ} (hp : p < 65536) :
    fileRead bk.1 bk.2 (ppnToMemAddr p) s =
      match s.reads.head with
      | .success => .ok (0, s.readInto bk p)
      | .failure left => .ok (-1, { s with
          reads := s.reads.tail
          physmem := store s.physmem (p * vmPagesize) left
          trace := .fileRead bk.1 bk.2 (p * vmPagesize) false :: s.trace }) := by
  rw [ppnToMemAddr_eq hp]
  simp only [fileRead, bind_apply, get_apply, ok_bind]
  cases s.reads.head <;> rfl

lemma memcpyPage_eq (s : State) {p : ℕ} (hp : p < 65536) :
    memcpyPage (ppnToMemAddr p) 0 s = .ok ((), s.zeroFrame p) := by
  rw [ppnToMemAddr_eq hp]
  simp only [memcpyPage, bind_apply, modify_apply, ok_bind, note_eq]
  have h0 : (load s.physmem 0 : Page) = s.frame 0 := by rw [State.frame, Nat.zero_mul]
  rw [h0]
  rfl

/-- **`disk_to_mem` loads a block.** -/
theorem diskToMem_eq {s : State} (h : Inv none s) (bk : Option Name × ℕ) :
    diskToMem bk.1 bk.2 s = .ok (s.loadBlock bk) := by
  obtain ⟨-, hroom⟩ := h.takeFrame
  unfold State.loadBlock
  simp only [diskToMem, bind_apply, evictOrGetFreePpn_eq h, ok_bind, exec_ite, pure_apply]
  rcases hroom with ⟨h0, -⟩ | ⟨h0, h1⟩
  · simp only [h0, if_true]
  · have hp := h1.frames.hole_active rfl
    have hp16 : s.takeFrame.1 < 65536 := by
      have := (h1.frames.active_pos hp).2
      have := h1.frames.size_max
      omega
    simp only [h0, if_false, fileRead_eq _ bk hp16]
    cases s.takeFrame.2.reads.head with
    | success => rfl
    | failure left =>
      simp only [ok_bind, if_true]
      rw [makeFree_eq]
      · rfl
      · exact hp
      · exact h1.frames.phys_lt hp

/-! ### The branches -/

section Branches

variable {s : State} {r : PageRef}

/-- A program that writes the entries of a page, in any state with the same layout: `update_pte` or
`update_ptes`, as the kind of the page wants it. -/
def WritesEntries (s : State) (r : PageRef) (upd : PageState → Bool → PagerM Unit) : Prop :=
  ∀ t X w, SameLayout s t → X.identity = (s.pages r).identity →
    upd X w t = .ok ((), t.writeWhere (t.InSlot r) (mkPte X.ppn true w))

lemma writesEntries_swap (hL : Layout s) (hr : s.Held r) (ht : (s.pages r).type = .swapBacked) :
    WritesEntries s r fun X w => updatePte X.vpn X.ppn true w X.ownerPtbr := by
  intro t X w hsame hX
  refine (hsame.layout hL).updatePte_eq ((hsame.held r).2 hr) (hX.trans (hsame.pages r).symm) ?_ _ _ _
  rw [PageState.eq_withFlags hX]
  exact ht

lemma writesEntries_file (hL : Layout s) (hr : s.Held r) (ht : (s.pages r).type = .fileBacked) :
    WritesEntries s r fun X w => updatePtes r X.ppn true w := by
  intro t X w hsame _
  exact (hsame.layout hL).updatePtes_eq ((hsame.held r).2 hr) ((hsame.type r).trans ht) _ _ _

/-- The state with new flags for a page whose entries are still the old ones. -/
def State.flagged (s : State) (r : PageRef) (F : Flags) : State :=
  { s with pages := Function.update s.pages r ((s.pages r).withFlags F) }

lemma sameLayout_flagged (s : State) (r : PageRef) (F : Flags) : SameLayout s (s.flagged r F) :=
  { SameLayout.refl s with pages := identity_update s r F }

lemma flagged_page (s : State) (r : PageRef) (F : Flags) :
    (s.flagged r F).pages r = (s.pages r).withFlags F :=
  Function.update_self ..

lemma flagged_flagged (s : State) (r : PageRef) (F G : Flags) :
    (s.flagged r F).flagged r G = s.flagged r G := by
  unfold State.flagged
  simp only [Function.update_self, Function.update_idem, withFlags_withFlags]

/-- A change of flags in the code. -/
lemma modifyPage_flags (s : State) (r : PageRef) (F : Flags) {f : PageState → PageState}
    (hf : f (s.pages r) = (s.pages r).withFlags F) :
    modifyPage r f s = .ok ((), s.flagged r F) := by
  rw [modifyPage_eq, hf]
  rfl

/-- A page with a frame is marked, in the code. -/
lemma modifyPage_referenced (hf : (s.pages r).Framed) :
    modifyPage r (fun X => { X with referenced := true }) s =
      .ok ((), s.flagged r ⟨(s.pages r).ppn, true, true, (s.pages r).dirty⟩) := by
  refine modifyPage_flags s r _ ?_
  rw [PageState.eq_withFlags (X := s.pages r) (Y := { s.pages r with referenced := true }) rfl]
  simp only [PageState.flags, hf.1]

/-- It is made dirty. -/
lemma modifyPage_dirty {p : ℕ} {d : Bool} (s : State) :
    modifyPage r (fun X => { X with dirty := true }) (s.flagged r ⟨p, true, true, d⟩) =
      .ok ((), s.flagged r ⟨p, true, true, true⟩) := by
  rw [← flagged_flagged s r ⟨p, true, true, d⟩ ⟨p, true, true, true⟩]
  refine modifyPage_flags _ r _ ?_
  rw [flagged_page]
  rfl

/-- The entries follow the flags. -/
lemma flagged_writeWhere_self (s : State) (r : PageRef) (F : Flags) :
    (s.flagged r F).writeWhere ((s.flagged r F).InSlot r) F.pte = s.refresh r F := rfl

/-- The shape of the branches for a resident page that is not referenced. -/
lemma unreferenced_eq {upd : PageState → Bool → PagerM Unit} (hupd : WritesEntries s r upd)
    (hf : (s.pages r).Framed) (href : (s.pages r).referenced = false)
    (hlt : (s.pages r).ppn < 2 ^ 20) (writeFlag : Bool) :
    (do
      require ((← getPage r).referenced = false) .assertion
      modifyPage r fun X => { X with referenced := true }
      let X ← getPage r
      if X.dirty || writeFlag then
        upd X true
        modifyPage r fun X => { X with dirty := true }
      else
        upd X false
      return 0 : PagerM ℤ) s =
      .ok (0, s.refresh r ⟨(s.pages r).ppn, true, true, (s.pages r).dirty || writeFlag⟩) := by
  let F : Flags := ⟨(s.pages r).ppn, true, true, (s.pages r).dirty⟩
  have hmod : modifyPage r (fun X => { X with referenced := true }) s = .ok ((), s.flagged r F) :=
    modifyPage_referenced hf
  have hpage : getPage r (s.flagged r F) = .ok ((s.pages r).withFlags F, s.flagged r F) := by
    rw [getPage_eq, flagged_page]
  have hwrite : ∀ w, upd ((s.pages r).withFlags F) w (s.flagged r F) = .ok ((),
      (s.flagged r F).writeWhere ((s.flagged r F).InSlot r) ⟨(s.pages r).ppn, true, w⟩) := by
    intro w
    refine (hupd _ ((s.pages r).withFlags F) w (sameLayout_flagged s r F) rfl).trans ?_
    rw [withFlags_ppn, mkPte_of_lt hlt]
  simp only [bind_apply, getPage_eq r s, ok_bind, require_apply href, hmod, hpage, exec_ite, hwrite,
    withFlags_dirty, pure_apply]
  cases hd : ((s.pages r).dirty || writeFlag) with
  | false =>
    rw [if_neg Bool.false_ne_true]
    have hd' : (s.pages r).dirty = false := (Bool.or_eq_false_iff.1 hd).1
    have hpte : (⟨(s.pages r).ppn, true, false⟩ : Pte) = F.pte := by
      simp [Flags.pte, F, hd']
    rw [hpte, flagged_writeWhere_self]
    simp only [F, hd']
  | true =>
    rw [if_pos rfl, modifyPage_eq]
    let G : Flags := ⟨(s.pages r).ppn, true, true, true⟩
    have hG : ({ (s.flagged r F).pages r with dirty := true } : PageState) =
        (s.pages r).withFlags G := by
      rw [flagged_page]
      rfl
    show Except.ok ((0 : ℤ), { (s.flagged r F).writeWhere ((s.flagged r F).InSlot r) G.pte with
      pages := Function.update (s.flagged r F).pages r
        { (s.flagged r F).pages r with dirty := true } }) = _
    rw [hG, State.flagged, Function.update_idem]
    rfl

/-- The frame is entered in `phys_mem_pages` under the page. -/
def State.place (s : State) (r : PageRef) (p : ℕ) : State :=
  { s with physMemPages := s.physMemPages.set p (some r) }

lemma setPhysMemPage_place {p : ℕ} (hp : p < s.physMemPages.length) :
    setPhysMemPage p (some r) s = .ok ((), s.place r p) :=
  setPhysMemPage_eq hp _

/-- A page gets the frame, in the code. -/
lemma modifyPage_place {p : ℕ} (s : State) (hd : (s.pages r).dirty = false) :
    modifyPage r (fun X => { X with ppn := p, referenced := true, resident := true }) s =
      .ok ((), s.flagged r ⟨p, true, true, false⟩) := by
  refine modifyPage_flags s r _ ?_
  rw [← hd]
  rfl

/-- The entries of a page that got the frame. -/
lemma WritesEntries.placed {upd : PageState → Bool → PagerM Unit} (hupd : WritesEntries s r upd)
    {p : ℕ} (hp : p < 2 ^ 20) (w : Bool) {t : State} (hsame : SameLayout s t) :
    upd ((t.pages r).withFlags ⟨p, true, true, w⟩) w (t.flagged r ⟨p, true, true, w⟩) =
      .ok ((), t.refresh r ⟨p, true, true, w⟩) := by
  have hX : ((t.pages r).withFlags ⟨p, true, true, w⟩).identity = (s.pages r).identity := hsame.pages r
  rw [hupd _ _ w (hsame.trans (sameLayout_flagged t r _)) hX, withFlags_ppn, mkPte_of_lt hp]
  rfl

end Branches

section Faults

variable {s : State} (h : Inv none s) {r : PageRef} (hr : s.Held r) {writeFlag : Bool}
include h hr

/-- A page with a frame, out of the sweep's reach or swept over. -/
theorem faultSwapUnreferenced_eq (ht : (s.pages r).type = .swapBacked) (hf : (s.pages r).Framed)
    (href : (s.pages r).referenced = false) :
    faultSwapUnreferenced r writeFlag s =
      .ok (0, s.refresh r ⟨(s.pages r).ppn, true, true, (s.pages r).dirty || writeFlag⟩) := by
  rw [faultSwapUnreferenced]
  exact unreferenced_eq (writesEntries_swap h.layout hr ht) hf href (h.frames.ppn_lt hr) writeFlag

theorem faultFileUnreferenced_eq (ht : (s.pages r).type = .fileBacked) (hf : (s.pages r).Framed)
    (href : (s.pages r).referenced = false) :
    faultFileUnreferenced r writeFlag s =
      .ok (0, s.refresh r ⟨(s.pages r).ppn, true, true, (s.pages r).dirty || writeFlag⟩) := by
  rw [faultFileUnreferenced]
  exact unreferenced_eq (writesEntries_file h.layout hr ht) hf href (h.frames.ppn_lt hr) writeFlag

/-- What the branches for a page out of memory come to. -/
def State.loadPage (s : State) (r : PageRef) (writeFlag : Bool) : ℤ × State :=
  if (s.loadBlock (s.pages r).backing).1 = 0 then
    (-1, (s.loadBlock (s.pages r).backing).2)
  else
    (0, ((s.loadBlock (s.pages r).backing).2.place r (s.loadBlock (s.pages r).backing).1).refresh r
      ⟨(s.loadBlock (s.pages r).backing).1, true, true, writeFlag⟩)

/-- What is known when the block is in its frame. -/
lemma loaded_facts (hout : (s.pages r).resident = false)
    (h0 : (s.loadBlock (s.pages r).backing).1 ≠ 0) :
    SameLayout s (s.loadBlock (s.pages r).backing).2 ∧
      (s.loadBlock (s.pages r).backing).2.pages r = s.pages r ∧
      (s.pages r).dirty = false ∧
      (s.loadBlock (s.pages r).backing).1 <
        (s.loadBlock (s.pages r).backing).2.physMemPages.length ∧
      (s.loadBlock (s.pages r).backing).1 < 2 ^ 20 := by
  obtain ⟨hev, hpage, -, hhole, -⟩ := h.loadBlock hr hout
  have h1 := (hhole h0).frames
  have hact := h1.hole_active rfl
  have hlt := (h1.active_pos hact).2
  have := h1.size_max
  exact ⟨hev.layout, hpage, congrArg Flags.dirty ((h.frames.flags_ok hr).out hout),
    h1.phys_lt hact, by omega⟩

theorem faultSwapNonResident_eq (ht : (s.pages r).type = .swapBacked)
    (hout : (s.pages r).resident = false) :
    faultSwapNonResident (s.pages r).vpn r writeFlag s = .ok (s.loadPage r writeFlag) := by
  have hdisk := diskToMem_eq h (s.pages r).backing
  simp only [PageState.backing, ht, if_true] at hdisk
  have hfacts := loaded_facts h hr hout
  unfold State.loadPage
  simp only [PageState.backing, ht, if_true] at hfacts ⊢
  generalize s.loadBlock (none, (s.pages r).swapBlock) = res at *
  simp only [faultSwapNonResident, bind_apply, getPage_eq r s, ok_bind, hdisk, exec_ite, pure_apply]
  split
  · rfl
  · rename_i h0
    obtain ⟨hsame, hpage, hd, hlen, hlt⟩ := hfacts h0
    have hplace : SameLayout s (res.2.place r res.1) := hsame.trans { SameLayout.refl res.2 with }
    have hd' : ((res.2.place r res.1).pages r).dirty = false := by rw [← hd, ← hpage]; rfl
    have hvpn : ((res.2.place r res.1).pages r).vpn = (s.pages r).vpn := by rw [← hpage]; rfl
    have hwrite := fun w => (writesEntries_swap h.layout hr ht).placed hlt w hplace
    simp only [withFlags_vpn, withFlags_ppn, withFlags_ownerPtbr, hvpn] at hwrite
    simp only [setPhysMemPage_place hlen, ok_bind, modifyPage_place _ hd']
    cases writeFlag with
    | false =>
      simp only [Bool.false_eq_true, if_false, ok_bind, getPage_eq, flagged_page,
        withFlags_ownerPtbr, hwrite]
    | true =>
      simp only [if_true, modifyPage_dirty, ok_bind, getPage_eq, flagged_page,
        withFlags_ownerPtbr, hwrite]

theorem faultFileNonResident_eq (ht : (s.pages r).type = .fileBacked)
    (hout : (s.pages r).resident = false) :
    faultFileNonResident r writeFlag s = .ok (s.loadPage r writeFlag) := by
  have hdisk := diskToMem_eq h (s.pages r).backing
  simp only [PageState.backing, ht, reduceCtorEq, if_false] at hdisk
  have hfacts := loaded_facts h hr hout
  unfold State.loadPage
  simp only [PageState.backing, ht, reduceCtorEq, if_false] at hfacts ⊢
  generalize s.loadBlock ((s.pages r).filename, (s.pages r).fileBlock) = res at *
  simp only [faultFileNonResident, bind_apply, getPage_eq r s, ok_bind, hdisk, exec_ite, pure_apply]
  split
  · rfl
  · rename_i h0
    obtain ⟨hsame, hpage, hd, hlen, hlt⟩ := hfacts h0
    have hplace : SameLayout s (res.2.place r res.1) := hsame.trans { SameLayout.refl res.2 with }
    have hd' : ((res.2.place r res.1).pages r).dirty = false := by rw [← hd, ← hpage]; rfl
    have hwrite := fun w => (writesEntries_file h.layout hr ht).placed hlt w hplace
    simp only [withFlags_ppn] at hwrite
    simp only [setPhysMemPage_place hlen, ok_bind, modifyPage_place _ hd']
    cases writeFlag with
    | false => simp only [Bool.false_eq_true, if_false, hwrite, ok_bind]
    | true => simp only [if_true, modifyPage_dirty, ok_bind, hwrite]

/-- What the branch for a fresh page comes to. -/
def State.freshPage (s : State) (r : PageRef) : ℤ × State :=
  if s.takeFrame.1 = 0 then
    (-1, s.takeFrame.2)
  else
    (0, ((s.takeFrame.2.zeroFrame s.takeFrame.1).place r s.takeFrame.1).refresh r
      ⟨s.takeFrame.1, true, true, true⟩)

theorem faultSwapFresh_eq (ht : (s.pages r).type = .swapBacked) (hppn : (s.pages r).ppn = 0) :
    faultSwapFresh (s.pages r).vpn r s = .ok (s.freshPage r) := by
  obtain ⟨hm, hroom⟩ := h.takeFrame
  have hpage : s.takeFrame.2.pages r = s.pages r := hm.frameless hr fun hf => hf.2 hppn
  unfold State.freshPage
  simp only [faultSwapFresh, bind_apply, evictOrGetFreePpn_eq h, ok_bind, exec_ite, pure_apply]
  rcases hroom with ⟨h0, -⟩ | ⟨h0, h1⟩
  · simp only [h0, if_true]
  · have hp := h1.frames.hole_active rfl
    have hlt : s.takeFrame.1 < 65536 := by
      have := (h1.frames.active_pos hp).2
      have := h1.frames.size_max
      omega
    generalize s.takeFrame = res at *
    have hlen : res.1 < (res.2.zeroFrame res.1).physMemPages.length := h1.frames.phys_lt hp
    have hplace : SameLayout s ((res.2.zeroFrame res.1).place r res.1) :=
      hm.layout.trans { SameLayout.refl res.2 with }
    have hpage' : ((res.2.zeroFrame res.1).place r res.1).pages r = s.pages r := hpage
    have hmod : modifyPage r (fun X =>
        { X with ppn := res.1, referenced := true, resident := true, dirty := true })
        ((res.2.zeroFrame res.1).place r res.1) =
        .ok ((), ((res.2.zeroFrame res.1).place r res.1).flagged r ⟨res.1, true, true, true⟩) :=
      modifyPage_flags _ r _ rfl
    have hlt20 : res.1 < 2 ^ 20 := by omega
    have hwrite := (writesEntries_swap h.layout hr ht).placed hlt20 true hplace
    simp only [withFlags_vpn, withFlags_ppn, withFlags_ownerPtbr, hpage'] at hwrite
    simp only [h0, if_false, memcpyPage_eq _ hlt, ok_bind, setPhysMemPage_place hlen, hmod,
      getPage_eq, flagged_page, withFlags_ownerPtbr, hpage', hwrite]

theorem makePageDirty_eq (hf : (s.pages r).Framed) {vpn : ℕ}
    (hv : (s.pages r).type = .swapBacked → vpn = (s.pages r).vpn) :
    makePageDirty vpn r s = .ok ((), s.refresh r ⟨(s.pages r).ppn, true, true, true⟩) := by
  have hresident : ((s.pages r).withFlags ⟨(s.pages r).ppn, true, true, (s.pages r).dirty⟩).resident =
    true := rfl
  simp only [makePageDirty, bind_apply, modifyPage_referenced hf, ok_bind, getPage_eq, flagged_page,
    require_apply hresident, modifyPage_dirty, withFlags_type, withFlags_ppn, withFlags_ownerPtbr,
    exec_ite]
  cases ht : (s.pages r).type with
  | swapBacked =>
    have hwrite := (writesEntries_swap h.layout hr ht).placed (h.frames.ppn_lt hr) true
      (SameLayout.refl s)
    simp only [withFlags_vpn, withFlags_ppn, withFlags_ownerPtbr] at hwrite
    rw [if_pos rfl, hv ht]
    exact hwrite
  | fileBacked =>
    have hwrite := (writesEntries_file h.layout hr ht).placed (h.frames.ppn_lt hr) true
      (SameLayout.refl s)
    rw [if_neg PageType.noConfusion]
    exact hwrite

end Faults

/-! ### The function -/

/-- What the entry of a page permits. -/
lemma Flags.of_permits {F : Flags} {write : Bool} (hp : F.pte.permits write = true) :
    F.resident = true ∧ F.referenced = true ∧ (write = true → F.dirty = true) ∧
      F.pte.ppage = F.ppn := by
  unfold Flags.pte at hp ⊢
  cases hres : F.resident <;> cases href : F.referenced <;> cases write <;>
    simp_all [Pte.permits, Pte.zero]

section VmFault

variable {s : State} (h : Inv none s) {r : PageRef} {vpn : ℕ} {writeFlag : Bool}
include h

/-- The entry in the register's page table of a page of the arena. -/
lemma currentPte_eq (hs : s.slot s.pageTableBaseRegister vpn = some r) :
    s.currentPte vpn = (s.pages r).flags.pte ∧
      readPte s.pageTableBaseRegister vpn s = .ok (s.currentPte vpn, s) := by
  obtain ⟨htab, hv⟩ := h.layout.slot_valid (x := ⟨s.pageTableBaseRegister, vpn⟩) hs
  obtain ⟨t, ht⟩ := Option.isSome_iff_exists.1 htab
  have hcur : s.currentPte vpn = t vpn := by
    simp only [State.currentPte]
    rw [ht]
  refine ⟨?_, ?_⟩
  · rw [hcur, h.coherent ht, State.pteFor, hs]
  · simp only [hcur, readPte, bind_apply, get_apply, ok_bind]
    rw [ht]
    simp only [bind_apply, require_apply hv, ok_bind, pure_apply]

lemma lowestInvalidVpn_eq :
    lowestInvalidVpn s = .ok ((s.arenas s.pageTableBaseRegister).length, s) := by
  have hle := h.layout.arena_le s.pageTableBaseRegister
  have hn : numPtes = 256 := rfl
  simp only [lowestInvalidVpn, currentArena, bind_apply, get_apply, ok_bind, pure_apply]
  rw [Nat.mod_eq_of_lt (by omega)]

omit h in
lemma arenaPage_eq (hs : s.slot s.pageTableBaseRegister vpn = some r) :
    arenaPage vpn s = .ok (r, s) := by
  simp only [arenaPage, currentArena, bind_apply, get_apply, ok_bind, pure_apply]
  rw [show (s.arenas s.pageTableBaseRegister)[vpn]? = some r from hs]
  rfl

/-- The three kinds of pages whose entry denies an access. -/
lemma denied_cases (hr : s.Held r) (hden : (s.pages r).flags.pte.permits writeFlag = false) :
    (s.pages r).resident = false ∨
    ((s.pages r).Framed ∧ (s.pages r).referenced = false) ∨
    ((s.pages r).resident = true ∧ (s.pages r).referenced = true ∧ (s.pages r).dirty = false ∧
      writeFlag = true) := by
  cases hres : (s.pages r).resident with
  | false => exact .inl rfl
  | true =>
    right
    cases href : (s.pages r).referenced with
    | false =>
      refine .inl ⟨⟨hres, fun h0 => ?_⟩, rfl⟩
      rw [((h.frames.flags_ok hr).fresh hres h0).2.1] at href
      cases href
    | true =>
      rw [pte_referenced hres href] at hden
      cases writeFlag with
      | false => simp [Pte.permits] at hden
      | true => exact .inr ⟨rfl, rfl, by simpa [Pte.permits] using hden, rfl⟩

/-- The fault before it is recorded. -/
def State.faultBranch (s : State) (r : PageRef) (write : Bool) : ℤ × State :=
  if (s.pages r).resident then
    if (s.pages r).ppn = 0 then s.freshPage r
    else (0, s.refresh r ⟨(s.pages r).ppn, true, true, (s.pages r).dirty || write⟩)
  else
    s.loadPage r write

theorem faultSwapBacked_eq (hr : s.Held r) (ht : (s.pages r).type = .swapBacked)
    (hden : (s.pages r).flags.pte.permits writeFlag = false) :
    faultSwapBacked (s.pages r).vpn r (s.pages r).flags.pte writeFlag s =
      .ok (s.faultBranch r writeFlag) := by
  unfold State.faultBranch
  rcases denied_cases h hr hden with hout | ⟨hf, href⟩ | ⟨hres, href, hd, rfl⟩
  · -- out of memory
    rw [pte_out hout]
    simp only [faultSwapBacked, bind_apply, getPage_eq, ok_bind, hout, Bool.false_eq_true, if_false,
      Pte.zero, and_self, if_true]
    exact faultSwapNonResident_eq h hr ht hout
  · -- swept over
    rw [pte_unreferenced hf.1 href]
    simp only [faultSwapBacked, bind_apply, getPage_eq, ok_bind, hf.1, hf.2, if_false, and_self,
      if_true]
    exact faultSwapUnreferenced_eq h hr ht hf href
  · -- referenced and clean
    rw [pte_referenced hres href, hd]
    simp only [faultSwapBacked, bind_apply, getPage_eq, ok_bind, hres, Bool.true_eq_false, false_and,
      and_self, if_false, if_true, require_apply trivial, exec_ite]
    split
    · rename_i hppn
      exact faultSwapFresh_eq h hr ht hppn
    · rename_i hppn
      rw [makePageDirty_eq h hr ⟨hres, hppn⟩ fun _ => rfl]
      rfl

theorem faultFileBacked_eq (hr : s.Held r) (ht : (s.pages r).type = .fileBacked)
    (hden : (s.pages r).flags.pte.permits writeFlag = false) :
    faultFileBacked vpn r (s.pages r).flags.pte writeFlag s = .ok (s.faultBranch r writeFlag) := by
  -- the page is in the file table
  obtain ⟨n, hn, hfile⟩ := h.layout.file_of_held hr ht
  have hin : pageInFileTable (s.pages r) s = .ok (true, s) := by
    simp only [pageInFileTable, hn, fileInFileTable, bind_apply, get_apply, ok_bind, hfile,
      pure_apply, Option.isSome_some]
  unfold State.faultBranch
  rcases denied_cases h hr hden with hout | ⟨hf, href⟩ | ⟨hres, href, hd, rfl⟩
  · rw [pte_out hout]
    simp only [faultFileBacked, bind_apply, getPage_eq, ok_bind, hout, Bool.false_eq_true, if_false,
      Pte.zero, and_self, if_true, hin, require_apply trivial]
    exact faultFileNonResident_eq h hr ht hout
  · rw [pte_unreferenced hf.1 href]
    simp only [faultFileBacked, bind_apply, getPage_eq, ok_bind, hf.1, hf.2, if_false, and_self,
      if_true, hin, require_apply trivial]
    exact faultFileUnreferenced_eq h hr ht hf href
  · have hppn : (s.pages r).ppn ≠ 0 := by
      intro h0
      have := ((h.frames.flags_ok hr).fresh hres h0).1
      rw [ht] at this
      cases this
    have hv : (s.pages r).type = .swapBacked → vpn = (s.pages r).vpn := fun h' => by
      rw [ht] at h'
      cases h'
    rw [pte_referenced hres href, hd]
    simp only [faultFileBacked, bind_apply, getPage_eq, ok_bind, hres, hppn, Bool.true_eq_false,
      false_and, and_self, if_false, if_true, makePageDirty_eq h hr ⟨hres, hppn⟩ hv]
    rfl

/-- **`vm_fault` on a page of the arena, for an access that the entry denies, is
`State.faultPage`.** -/
theorem vmFault_eq {addr : BitVec 64} (hbase : ¬ addr < vmArenaBaseaddr)
    (hs : s.slot s.pageTableBaseRegister (vaToVpn addr) = some r)
    (hden : (s.currentPte (vaToVpn addr)).permits writeFlag = false) :
    vmFault addr writeFlag s = .ok (s.faultPage r writeFlag) := by
  have hr : s.Held r := .inl ⟨_, _, hs⟩
  obtain ⟨hpte, hread⟩ := currentPte_eq h hs
  have hvalid : ¬ (s.arenas s.pageTableBaseRegister).length ≤ vaToVpn addr :=
    Nat.not_le.2 (List.getElem?_eq_some_iff.1 hs).1
  rw [hpte] at hread hden
  have hno11 : ¬ ((s.pages r).flags.pte.readEnable = true ∧
      (s.pages r).flags.pte.writeEnable = true) := by
    rintro ⟨h1, h2⟩
    cases writeFlag <;> simp [Pte.permits, h1, h2] at hden
  have hno01 : ¬ ((s.pages r).flags.pte.readEnable = false ∧
      (s.pages r).flags.pte.writeEnable = true) := by
    unfold Flags.pte
    split
    · split <;> simp
    · simp [Pte.zero]
  have hbranch : (if (s.pages r).type = .swapBacked then
        faultSwapBacked (vaToVpn addr) r (s.pages r).flags.pte writeFlag
      else faultFileBacked (vaToVpn addr) r (s.pages r).flags.pte writeFlag) s =
      .ok (s.faultBranch r writeFlag) := by
    cases ht : (s.pages r).type with
    | swapBacked =>
      rw [if_pos rfl, ← (h.layout.swap_slot hs ht).2]
      exact faultSwapBacked_eq h hr ht hden
    | fileBacked =>
      rw [if_neg PageType.noConfusion]
      exact faultFileBacked_eq h hr ht hden
  rw [exec_ite] at hbranch
  simp only [vmFault, bind_apply, exec_ite, hbase, if_false, lowestInvalidVpn_eq h, ok_bind, hvalid,
    arenaPage_eq hs, get_apply, hread, require_apply hno11, require_apply hno01, getPage_eq,
    ite_bind, hbranch, note_eq, pure_apply]
  unfold State.faultPage State.faultBranch State.freshPage State.loadPage
  split
  · split
    · split <;> rfl
    · rfl
  · split <;> rfl

/-- **`vm_fault` refuses** an address below the arena or past its valid pages. -/
theorem vmFault_invalid {addr : BitVec 64}
    (hbad : addr < vmArenaBaseaddr ∨ s.slot s.pageTableBaseRegister (vaToVpn addr) = none)
    (w : Bool) : vmFault addr w s = .ok (-1, s) := by
  by_cases hbase : addr < vmArenaBaseaddr
  · simp only [vmFault, exec_ite, hbase, if_true, pure_apply]
  · have hnone := hbad.resolve_left hbase
    have hinv : (s.arenas s.pageTableBaseRegister).length ≤ vaToVpn addr :=
      List.getElem?_eq_none_iff.1 hnone
    simp only [vmFault, exec_ite, hbase, if_false, bind_apply, lowestInvalidVpn_eq h, ok_bind, hinv,
      if_true, pure_apply]

/-- **`vm_fault` never refuses** an access that the entry of its page permits: it stops at an
assertion, or it returns 0. -/
theorem vmFault_permitted {addr : BitVec 64} (hbase : ¬ addr < vmArenaBaseaddr)
    (hs : s.slot s.pageTableBaseRegister (vaToVpn addr) = some r)
    (hper : (s.currentPte (vaToVpn addr)).permits writeFlag = true) {res : ℤ} {s' : State}
    (hrun : vmFault addr writeFlag s = .ok (res, s')) : res = 0 := by
  have hr : s.Held r := .inl ⟨_, _, hs⟩
  obtain ⟨hpte, hread⟩ := currentPte_eq h hs
  have hvalid : ¬ (s.arenas s.pageTableBaseRegister).length ≤ vaToVpn addr :=
    Nat.not_le.2 (List.getElem?_eq_some_iff.1 hs).1
  rw [hpte] at hread hper
  obtain ⟨hres, href, hdirty, -⟩ := Flags.of_permits hper
  rw [pte_referenced hres href] at hread
  simp only [vmFault, bind_apply, exec_ite, hbase, if_false, lowestInvalidVpn_eq h, ok_bind, hvalid,
    arenaPage_eq hs, get_apply, hread, getPage_eq] at hrun
  cases hd : (s.pages r).dirty with
  | true =>
    -- a permission for both kinds of access fails the first assertion
    simp only [hd, and_self, not_true_eq_false, require_fails not_false, error_bind,
      reduceCtorEq] at hrun
  | false =>
    obtain rfl : writeFlag = false := by
      cases writeFlag with
      | false => rfl
      | true =>
        rw [show (s.pages r).dirty = true from hdirty rfl] at hd
        cases hd
    simp only [hd, Bool.false_eq_true, Bool.true_eq_false, and_false, not_false_eq_true,
      require_apply trivial, ok_bind] at hrun
    cases ht : (s.pages r).type with
    | swapBacked =>
      -- a load that is permitted fails the assertion of the branch
      simp only [ht, if_true, faultSwapBacked, bind_apply, getPage_eq, ok_bind, exec_ite,
        Bool.true_eq_false, false_and, and_self, if_false, Bool.false_eq_true,
        require_fails not_false, error_bind, reduceCtorEq] at hrun
    | fileBacked =>
      have hf : (s.pages r).Framed := by
        refine ⟨hres, fun h0 => ?_⟩
        have hfresh := ((h.frames.flags_ok hr).fresh hres h0).1
        rw [ht] at hfresh
        cases hfresh
      have hv : (s.pages r).type = .swapBacked → vaToVpn addr = (s.pages r).vpn := fun h' => by
        rw [ht] at h'
        cases h'
      simp only [ht, reduceCtorEq, if_false, if_true, faultFileBacked, bind_apply, getPage_eq, ok_bind,
        Bool.true_eq_false, false_and, and_self, makePageDirty_eq h hr hf hv, pure_apply, note_eq,
        Except.ok.injEq, Prod.mk.injEq] at hrun
      exact hrun.1.symm

end VmFault

end VmPager
