import VmPager.Core.Fault
import VmPager.Inv.Create
import VmPager.Inv.Destroy

/-!
# What `vm_init`, `vm_create`, `vm_switch` and `vm_destroy` compute

Each is shown to return, in the state that `Inv.Create` and `Inv.Destroy` are about.
-/

namespace VmPager

open Lib.Exec Lib.Frames

theorem vmInit_eq (u : Setup) :
    vmInit u.memoryPages u.swapBlocks u.globals = .ok ((), u.initial) := by
  simp only [vmInit, fillMemoryPages, fillSwapBlocks, bind_apply, modify_apply, ok_bind,
    Setup.globals, List.take_nil, List.nil_append, List.length_nil, Nat.sub_zero]
  rfl

/-! ### Starting and switching -/

theorem vmCreate_eq (s : State) (parentPid childPid : Pid) (childPtbr : Ptbr) :
    vmCreate parentPid childPid childPtbr s = .ok (0, s.created childPid childPtbr) := by
  have hzero : (fun i => if i < numPtes then Pte.zero else (fun _ : ℕ => Pte.zero) i) =
      fun _ => Pte.zero := by
    funext i
    split <;> rfl
  simp only [vmCreate, sanitizePageTable, bind_apply, modify_apply, get_apply, ok_bind,
    Function.update_self, Function.update_idem, hzero, pure_apply]
  rfl

theorem vmSwitch_eq {s : State} {pid : Pid} {pt : Ptbr} (h : s.pageTables.lookup pid = some pt) :
    vmSwitch pid s = .ok ((), s.switched pt) := by
  simp only [vmSwitch, modify_apply, h]
  rfl

/-! ### The first loop of `vm_destroy` -/

section Loop

variable {s : State} (h : Inv none s)

lemma frameSet_snoc (s : State) (l : List PageRef) (r : PageRef) : s.frameSet (l ++ [r]) =
    if (s.pages r).type = .swapBacked ∧ (s.pages r).resident = true then
      (s.frameSet l).insert (s.pages r).ppn
    else s.frameSet l := by
  rw [State.frameSet, List.foldl_append]
  rfl

lemma blocksOf_snoc (s : State) (l : List PageRef) (r : PageRef) : s.blocksOf (l ++ [r]) =
    s.blocksOf l ++ if (s.pages r).type = .swapBacked then [(s.pages r).swapBlock] else [] := by
  unfold State.blocksOf
  rw [List.filter_append, List.map_append]
  congr 1
  by_cases ht : (s.pages r).type = .swapBacked
  · simp [State.IsSwap, ht]
  · simp [State.IsSwap, ht]

/-- Clearing one frame more. -/
lemma mapIdx_set (P : List (Option PageRef)) (S : List ℕ) (p : ℕ) :
    (P.mapIdx fun i o => if i ∈ S then none else o).set p none =
      P.mapIdx fun i o => if i ∈ S.insert p then none else o := by
  apply List.ext_getElem?
  intro i
  rw [List.getElem?_set, List.getElem?_mapIdx, List.getElem?_mapIdx]
  by_cases hi : p = i
  · subst hi
    simp only [List.length_mapIdx, List.mem_insert_self, if_true]
    by_cases hp : p < P.length
    · simp [hp]
    · simp [hp]
  · simp only [hi, if_false, List.mem_insert_iff, Ne.symm hi, false_or]

lemma reaped_page (s : State) (l : List PageRef) (q : PageRef) :
    ∃ ptes, (s.reaped l).pages q = { s.pages q with sharedPtes := ptes } := by
  rw [State.reaped_pages]
  split
  · exact ⟨_, rfl⟩
  · exact ⟨_, rfl⟩

/-- Before the first turn. -/
lemma reaped_nil (s : State) : s.reaped [] = s := by
  have hphys : (s.reaped []).physMemPages = s.physMemPages := by
    apply List.ext_getElem?
    intro i
    rw [State.reaped_physMemPages, List.getElem?_mapIdx]
    simp [State.frameSet]
  have hsame : s.reaped [] = { s with
      physMemPages := (s.reaped []).physMemPages, freeBlocks := s.freeBlocks ++ [] } := by
    simp [State.reaped, State.blocksOf]
  rw [hsame, hphys, List.append_nil]

/-- One page more, as a change of the pages. -/
lemma reaped_pages_snoc (s : State) (l : List PageRef) (r : PageRef) :
    (s.reaped (l ++ [r])).pages = if (s.pages r).type = .fileBacked then
      Function.update (s.reaped l).pages r
        { (s.reaped l).pages r with
          sharedPtes := ((s.reaped l).pages r).sharedPtes.erase s.pageTableBaseRegister }
    else (s.reaped l).pages := by
  have hidem : ∀ S : AList fun _ : Ptbr => List PteRef, (S.erase s.pageTableBaseRegister).erase
      s.pageTableBaseRegister = S.erase s.pageTableBaseRegister := fun S =>
    AList.ext (List.kerase_of_notMem_keys (List.notMem_keys_kerase _ S.nodupKeys))
  funext q
  by_cases ht : (s.pages r).type = .fileBacked
  · rw [if_pos ht]
    by_cases hq : q = r
    · subst hq
      rw [Function.update_self, State.reaped_pages, State.reaped_pages]
      by_cases hl : q ∈ l
      · simp [hl, ht, hidem]
      · simp [hl, ht]
    · rw [Function.update_of_ne hq, State.reaped_pages, State.reaped_pages]
      simp [hq]
  · rw [if_neg ht, State.reaped_pages, State.reaped_pages]
    by_cases hq : q = r
    · subst hq
      simp [ht]
    · simp [hq]

lemma reaped_freeBlocks_snoc (s : State) (l : List PageRef) (r : PageRef) :
    (s.reaped (l ++ [r])).freeBlocks = (s.reaped l).freeBlocks ++
      if (s.pages r).type = .swapBacked then [(s.pages r).swapBlock] else [] := by
  rw [State.reaped_freeBlocks, State.reaped_freeBlocks, blocksOf_snoc, List.append_assoc]

lemma reaped_physMemPages_snoc (s : State) (l : List PageRef) (r : PageRef) :
    (s.reaped (l ++ [r])).physMemPages =
      if (s.pages r).type = .swapBacked ∧ (s.pages r).resident = true then
        (s.reaped l).physMemPages.set (s.pages r).ppn none
      else (s.reaped l).physMemPages := by
  rw [State.reaped_physMemPages, State.reaped_physMemPages, frameSet_snoc]
  split
  · rw [mapIdx_set]
  · rfl

/-- One page more, from the changes of the three fields. -/
lemma reaped_snoc (s : State) (l : List PageRef) (r : PageRef) {P : List (Option PageRef)}
    {B : List ℕ} {G : PageRef → PageState} (hP : P = (s.reaped (l ++ [r])).physMemPages)
    (hB : B = (s.reaped (l ++ [r])).freeBlocks) (hG : G = (s.reaped (l ++ [r])).pages) :
    { s.reaped l with physMemPages := P, freeBlocks := B, pages := G } = s.reaped (l ++ [r]) := by
  rw [hP, hB, hG]
  rfl

/-- Reading an entry looks at the page tables alone. -/
lemma readPte_congr {s t : State} (ht : t.tables = s.tables) {pt : Ptbr} {vpn : ℕ} {e : Pte}
    (h : readPte pt vpn s = .ok (e, s)) : readPte pt vpn t = .ok (e, t) := by
  simp only [readPte, bind_apply, get_apply, ok_bind] at h ⊢
  rw [ht]
  cases hs : s.tables pt with
  | none => simp only [hs, throw_apply, reduceCtorEq] at h
  | some f =>
    simp only [hs, bind_apply] at h ⊢
    by_cases hv : vpn < numPtes
    · simp only [require_apply hv, ok_bind, pure_apply, Except.ok.injEq, Prod.mk.injEq,
        and_true] at h ⊢
      exact h
    · simp [require, hv, throw_apply, error_bind] at h

include h

/-- **A turn of the first loop.** -/
theorem destroyPage_eq {done : List PageRef} {r : PageRef}
    (hs : s.slot s.pageTableBaseRegister done.length = some r) :
    destroyPage r done.length (s.frameSet done) (s.reaped done) =
      .ok (s.frameSet (done ++ [r]), s.reaped (done ++ [r])) := by
  have hr : s.Held r := .inl ⟨_, _, hs⟩
  obtain ⟨ptes, hpage⟩ := reaped_page s done r
  have hty : ((s.reaped done).pages r).type = (s.pages r).type := by rw [hpage]
  have hres : ((s.reaped done).pages r).resident = (s.pages r).resident := by rw [hpage]
  have hblk : ((s.reaped done).pages r).swapBlock = (s.pages r).swapBlock := by rw [hpage]
  have hpages := reaped_pages_snoc s done r
  have hblocks := reaped_freeBlocks_snoc s done r
  have hphys := reaped_physMemPages_snoc s done r
  have hset := frameSet_snoc s done r
  cases ht : (s.pages r).type with
  | swapBacked =>
    rw [ht, if_neg PageType.noConfusion] at hpages
    rw [ht, if_pos rfl] at hblocks
    cases hrs : (s.pages r).resident with
    | true =>
      rw [if_pos ⟨ht, hrs⟩] at hphys hset
      -- the entry names the frame of the page
      obtain ⟨hpte, hread⟩ := currentPte_eq h hs
      have hppn : (s.currentPte done.length).ppage = (s.pages r).ppn := by
        rw [hpte, pte_ppage hrs]
      have hread' : readPte s.pageTableBaseRegister done.length (s.reaped done) =
          .ok (s.currentPte done.length, s.reaped done) :=
        readPte_congr (s := s) (t := s.reaped done) rfl hread
      have hlen : (s.pages r).ppn < (s.reaped done).physMemPages.length := by
        rw [State.reaped_physMemPages, List.length_mapIdx, h.frames.phys_length]
        rcases h.frames.ppn_cases hr with h0 | ho
        · have := h.frames.size_min
          omega
        · exact (h.frames.owner_pos ho).2
      simp only [destroyPage, bind_apply, getPage_eq, ok_bind, hty, ht, if_true, hres, hrs, vpnToPpn,
        get_apply, State.reaped_pageTableBaseRegister, hread', hppn, pure_apply, makeFreeBlock,
        modify_apply, hblk, setPhysMemPage_eq hlen, exec_ite]
      rw [← hset, ← reaped_snoc s done r rfl rfl rfl, hphys, hblocks, hpages]
      rfl
    | false =>
      rw [if_neg (by simp [hrs])] at hphys hset
      simp only [destroyPage, bind_apply, getPage_eq, ok_bind, hty, ht, if_true, hres, hrs,
        Bool.false_eq_true, if_false, pure_apply, makeFreeBlock, modify_apply, hblk, exec_ite]
      rw [hset, ← reaped_snoc s done r rfl rfl rfl, hphys, hblocks, hpages]
  | fileBacked =>
    rw [if_pos ht] at hpages
    rw [if_neg (by simp [ht]), List.append_nil] at hblocks
    rw [if_neg (by simp [ht])] at hphys hset
    have hnot : ¬ ((s.reaped done).pages r).type = .swapBacked := by
      rw [hty, ht]
      exact fun h0 => by cases h0
    simp only [destroyPage, bind_apply, getPage_eq, ok_bind, hnot, if_false, get_apply, modifyPage_eq,
      pure_apply, exec_ite]
    rw [hset, ← reaped_snoc s done r rfl rfl rfl, hphys, hblocks, hpages]
    rfl

/-- **The first loop.** -/
theorem destroyPages_eq : ∀ (l done : List PageRef),
    s.arenas s.pageTableBaseRegister = done ++ l →
    destroyPages l done.length (s.frameSet done) (s.reaped done) =
      .ok (s.frameSet (done ++ l), s.reaped (done ++ l)) := by
  intro l
  induction l with
  | nil => intro done _; rw [List.append_nil]; rfl
  | cons r l ih =>
    intro done harena
    have hs : s.slot s.pageTableBaseRegister done.length = some r := by
      rw [State.slot, harena, List.getElem?_append_right le_rfl, Nat.sub_self]
      rfl
    have harena' : s.arenas s.pageTableBaseRegister = (done ++ [r]) ++ l := by
      rw [harena, List.append_assoc, List.singleton_append]
    have hrest := ih (done ++ [r]) harena'
    rw [List.length_append, List.length_singleton, List.append_assoc, List.singleton_append] at hrest
    rw [destroyPages, bind_of_ok (destroyPage_eq h hs), hrest]

end Loop

/-! ### The frames go back -/

section Released

variable {s : State} {p : ℕ} {ppns : List ℕ}

/-- Writing null over null does nothing. -/
lemma set_none_of_owner (ho : s.owner p = none) (hlt : p < s.physMemPages.length) :
    s.physMemPages.set p none = s.physMemPages := by
  have hnone : s.physMemPages[p]? = some none := by
    rw [State.owner, List.getElem?_eq_getElem hlt, Option.join_some] at ho
    rw [List.getElem?_eq_getElem hlt, ho]
  apply List.ext_getElem?
  intro i
  rw [List.getElem?_set]
  by_cases hi : p = i
  · subst hi
    rw [if_pos rfl, if_pos hlt, hnone]
  · rw [if_neg hi]

/-- An active frame is given back before others. -/
lemma released_cons_of_mem (hmem : p ∈ s.activePages) (hact : s.activePages.Nodup) (hp : p ∉ ppns) :
    State.released { s with
      activePages := s.activePages.erase p
      freePages := s.freePages ++ [p] } ppns = s.released (p :: ppns) := by
  have hfree : ppns.filter (· ∈ s.activePages.erase p) = ppns.filter (· ∈ s.activePages) := by
    apply List.filter_congr
    intro q hq
    have hne : q ≠ p := fun e => hp (e ▸ hq)
    simp [List.mem_erase_of_ne hne]
  have hactive : (s.activePages.erase p).filter (· ∉ ppns) =
      s.activePages.filter (· ∉ p :: ppns) := by
    rw [hact.erase_eq_filter, List.filter_filter]
    apply List.filter_congr
    intro q _
    by_cases hqp : q = p <;> simp [hqp]
  simp only [State.released, hfree, hactive, List.filter_cons, hmem, decide_true, if_true,
    List.append_assoc, List.singleton_append]

/-- A frame that is not active stays where it is. -/
lemma released_cons_of_not_mem (hmem : p ∉ s.activePages) :
    s.released ppns = s.released (p :: ppns) := by
  have hfilter : s.activePages.filter (· ∉ ppns) = s.activePages.filter (· ∉ p :: ppns) := by
    apply List.filter_congr
    intro q hq
    have hne : q ≠ p := fun e => hmem (e ▸ hq)
    simp [hne]
  simp only [State.released, List.filter_cons, hmem, decide_false, Bool.false_eq_true, if_false,
    hfilter]

end Released

/-- **`make_free` on a set of frames**, whose `phys_mem_pages` are null already. -/
theorem makeFreeAll_eq : ∀ (ppns : List ℕ) (s : State), ppns.Nodup → s.activePages.Nodup →
    (∀ p ∈ s.activePages, p < s.physMemPages.length) →
    (∀ p ∈ ppns, s.owner p = none) →
    makeFreeAll ppns s = .ok ((), s.released ppns) := by
  intro ppns
  induction ppns with
  | nil =>
    intro s _ _ _ _
    have hs : s.released [] = s := by simp [State.released]
    rw [hs]
    rfl
  | cons p ppns ih =>
    intro s hnd hact hlt hown
    obtain ⟨hp, hnd⟩ := List.nodup_cons.1 hnd
    show (makeFree p >>= fun _ => makeFreeAll ppns) s = _
    by_cases hmem : p ∈ s.activePages
    · rw [bind_of_ok (makeFree_eq hmem (hlt p hmem)),
        set_none_of_owner (hown p (by simp)) (hlt p hmem), ih]
      · rw [← released_cons_of_mem hmem hact hp]
      · exact hnd
      · exact hact.erase p
      · exact fun q hq => hlt q (List.mem_of_mem_erase hq)
      · exact fun q hq => hown q (by simp [hq])
    · have hskip : makeFree p s = .ok ((), s) := by
        simp only [makeFree, bind_apply, get_apply, ok_bind, hmem, if_false, pure_apply]
      rw [bind_of_ok hskip, ih s hnd hact hlt fun q hq => hown q (by simp [hq]),
        released_cons_of_not_mem hmem]

/-! ### `vm_destroy` -/

lemma erasePageTable_eq {s : State} {pid : Pid} {pt : Ptbr}
    (hpid : s.pageTables.lookup pid = some pt)
    (hinj : ∀ pid', s.pageTables.lookup pid' = some pt → pid' = pid) :
    erasePageTable pt s = .ok ((), { s with pageTables := s.pageTables.erase pid }) := by
  have hmem := AList.mem_lookup_iff.1 hpid
  obtain ⟨itr, hitr⟩ : ∃ itr, s.pageTables.entries.find? (fun itr => itr.2 = pt) = some itr := by
    rw [← Option.isSome_iff_exists, List.find?_isSome]
    exact ⟨_, hmem, by simp⟩
  -- the entry found is that of the process
  have hpt : itr.2 = pt := by simpa using List.find?_some hitr
  have hlook := AList.mem_lookup_iff.2 (List.mem_of_find?_eq_some hitr)
  rw [hpt] at hlook
  have hfst : itr.1 = pid := hinj _ hlook
  simp only [erasePageTable, modify_apply, hitr, hfst]

/-- **`vm_destroy` releases what the current process holds**, its frames in the order in which the
set is iterated. -/
theorem vmDestroy_eq {s : State} (h : Inv none s) {pid : Pid}
    (hpid : s.pageTables.lookup pid = some s.pageTableBaseRegister) (order : IterOrder) :
    vmDestroy order s = .ok ((), s.destroyed pid
      (order.iter (s.frameSet (s.arenas s.pageTableBaseRegister)))) := by
  have hperm := order.perm (s.frameSet (s.arenas s.pageTableBaseRegister))
  generalize hppns : order.iter (s.frameSet (s.arenas s.pageTableBaseRegister)) = ppns at hperm
  have hloop := destroyPages_eq h (s.arenas s.pageTableBaseRegister) [] rfl
  rw [reaped_nil, List.nil_append] at hloop
  let t := s.reaped (s.arenas s.pageTableBaseRegister)
  have hfree : makeFreeAll ppns t = .ok ((), t.released ppns) := by
    refine makeFreeAll_eq ppns t (hperm.nodup_iff.2 (frameSet_nodup _ _)) h.frames.active_nodup ?_ ?_
    · intro p hp
      rw [State.reaped_physMemPages, List.length_mapIdx]
      exact h.frames.phys_lt hp
    · intro p hp
      have ho := destroyed_owner s pid ppns p
      rw [if_pos (hperm.mem_iff.1 hp)] at ho
      exact ho
  obtain ⟨tab, htab⟩ := Option.isSome_iff_exists.1 ((h.layout.live_iff _).1 ⟨pid, hpid⟩)
  let t₂ : State := { t.released ppns with
    arenas := Function.update s.arenas s.pageTableBaseRegister [] }
  have herase : erasePageTable s.pageTableBaseRegister t₂ =
      .ok ((), { t₂ with pageTables := s.pageTables.erase pid }) :=
    erasePageTable_eq hpid fun pid' hp => h.layout.ptbr_inj hp hpid
  have hcurrent : currentArena s = .ok (s.arenas s.pageTableBaseRegister, s) := rfl
  have hfirst : destroyPages (s.arenas s.pageTableBaseRegister) 0 [] s =
      .ok (s.frameSet (s.arenas s.pageTableBaseRegister), t) := hloop
  simp only [vmDestroy, bind_apply, get_apply, ok_bind, hcurrent, hfirst, hppns, hfree, modify_apply]
  show Except.bind (erasePageTable s.pageTableBaseRegister t₂) _ = _
  have htab' : t₂.tables s.pageTableBaseRegister = some tab := htab
  simp only [herase, ok_bind, sanitizePageTable, bind_apply, get_apply, htab', modify_apply,
    Function.update_idem]
  rfl

end VmPager
