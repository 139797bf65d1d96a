import VmPager.Inv.Map

/-!
# The end of a process

`State.reaped` is what the first loop of `vm_destroy` does for the pages of a list, `State.destroyed`
what the whole function does. The frames given back are those of the swap-backed pages of the
process; no other page had one of them, so the invariant is kept (`Inv.destroyed`).
-/

namespace VmPager

open Lib.Frames Lib.History

/-! ### What is released -/

/-- The set of the frames of the resident swap-backed pages of a list, as the loop collects it: fresh
pages put in the zero frame. -/
def State.frameSet (s : State) (l : List PageRef) : List ℕ :=
  l.foldl (fun ppns r =>
    if (s.pages r).type = .swapBacked ∧ (s.pages r).resident = true then ppns.insert (s.pages r).ppn
    else ppns) []

/-- The swap blocks of the swap-backed pages of a list. -/
def State.blocksOf (s : State) (l : List PageRef) : List ℕ :=
  (l.filter s.IsSwap).map fun r => (s.pages r).swapBlock

/-- The state after the first loop has seen the pages of a list. -/
@[simps] def State.reaped (s : State) (l : List PageRef) : State :=
  { s with
    physMemPages := s.physMemPages.mapIdx fun p o => if p ∈ s.frameSet l then none else o
    freeBlocks := s.freeBlocks ++ s.blocksOf l
    pages := fun q =>
      if q ∈ l ∧ (s.pages q).type = .fileBacked then
        { s.pages q with sharedPtes := (s.pages q).sharedPtes.erase s.pageTableBaseRegister }
      else s.pages q }

/-- The frames of a list go back to the free queue. -/
@[simps] def State.released (s : State) (ppns : List ℕ) : State :=
  { s with
    activePages := s.activePages.filter (· ∉ ppns)
    freePages := s.freePages ++ ppns.filter (· ∈ s.activePages) }

/-- The current process `pid` is gone; its frames went back in the order `ppns`. -/
@[simps] def State.destroyed (s : State) (pid : Pid) (ppns : List ℕ) : State :=
  { s with
    physMemPages := (s.reaped (s.arenas s.pageTableBaseRegister)).physMemPages
    freeBlocks := (s.reaped (s.arenas s.pageTableBaseRegister)).freeBlocks
    pages := (s.reaped (s.arenas s.pageTableBaseRegister)).pages
    activePages := (s.released ppns).activePages
    freePages := (s.released ppns).freePages
    arenas := Function.update s.arenas s.pageTableBaseRegister []
    pageTables := s.pageTables.erase pid
    tables := Function.update s.tables s.pageTableBaseRegister none }

lemma mem_frameSet (s : State) (l : List PageRef) (p : ℕ) : p ∈ s.frameSet l ↔
    ∃ r ∈ l, (s.pages r).type = .swapBacked ∧ (s.pages r).resident = true ∧ (s.pages r).ppn = p := by
  have key : ∀ (l : List PageRef) (acc : List ℕ), p ∈ l.foldl (fun ppns r =>
      if (s.pages r).type = .swapBacked ∧ (s.pages r).resident = true then
        ppns.insert (s.pages r).ppn else ppns) acc ↔ p ∈ acc ∨
      ∃ r ∈ l, (s.pages r).type = .swapBacked ∧ (s.pages r).resident = true ∧
        (s.pages r).ppn = p := by
    intro l
    induction l with
    | nil => simp
    | cons r l ih =>
      intro acc
      rw [List.foldl_cons, ih, List.exists_mem_cons_iff]
      split
      · rename_i hr
        rw [List.mem_insert_iff]
        simp only [hr, true_and]
        tauto
      · rename_i hr
        tauto
  rw [State.frameSet, key]
  simp

lemma frameSet_nodup (s : State) (l : List PageRef) : (s.frameSet l).Nodup := by
  have key : ∀ (l : List PageRef) (acc : List ℕ), acc.Nodup → (l.foldl (fun ppns r =>
      if (s.pages r).type = .swapBacked ∧ (s.pages r).resident = true then
        ppns.insert (s.pages r).ppn else ppns) acc).Nodup := by
    intro l
    induction l with
    | nil => exact fun _ h => h
    | cons r l ih =>
      intro acc h
      rw [List.foldl_cons]
      refine ih _ ?_
      split
      · exact h.insert
      · exact h
  exact key l [] List.nodup_nil

/-! ### What is left -/

section Destroyed

variable (s : State) (pid : Pid) (ppns : List ℕ)

lemma destroyed_slot (pt : Ptbr) (vpn : ℕ) : (s.destroyed pid ppns).slot pt vpn =
    if pt = s.pageTableBaseRegister then none else s.slot pt vpn := by
  unfold State.slot
  rw [State.destroyed_arenas]
  split
  · rename_i hpt
    subst hpt
    rw [Function.update_self]
    rfl
  · rename_i hpt
    rw [Function.update_of_ne hpt]

variable {s pid ppns} in
lemma destroyed_slot_some {pt : Ptbr} {vpn : ℕ} {r : PageRef}
    (hs : (s.destroyed pid ppns).slot pt vpn = some r) :
    pt ≠ s.pageTableBaseRegister ∧ s.slot pt vpn = some r := by
  rw [destroyed_slot] at hs
  split at hs
  · cases hs
  · exact ⟨‹_›, hs⟩

variable {s pid ppns} in
lemma destroyed_held {r : PageRef} (hr : (s.destroyed pid ppns).Held r) : s.Held r := by
  rcases hr with ⟨pt, vpn, hs⟩ | hf
  · exact .inl ⟨pt, vpn, (destroyed_slot_some hs).2⟩
  · exact .inr hf

/-- Pages keep all but their shared entries. -/
lemma destroyed_page (q : PageRef) :
    ∃ ptes, (s.destroyed pid ppns).pages q = { s.pages q with sharedPtes := ptes } := by
  rw [State.destroyed_pages, State.reaped_pages]
  split
  · exact ⟨_, rfl⟩
  · exact ⟨_, rfl⟩

lemma destroyed_flags (q : PageRef) :
    ((s.destroyed pid ppns).pages q).flags = (s.pages q).flags := by
  obtain ⟨ptes, hp⟩ := destroyed_page s pid ppns q
  rw [hp]
  rfl

lemma destroyed_onDisk (q : PageRef) : (s.destroyed pid ppns).onDisk q = s.onDisk q := by
  obtain ⟨ptes, hp⟩ := destroyed_page s pid ppns q
  unfold State.onDisk
  rw [hp]
  rfl

lemma destroyed_content (q : PageRef) : (s.destroyed pid ppns).content q = s.content q := by
  obtain ⟨ptes, hp⟩ := destroyed_page s pid ppns q
  unfold State.content
  rw [destroyed_onDisk, hp]
  rfl

lemma destroyed_owner (p : ℕ) : (s.destroyed pid ppns).owner p =
    if p ∈ s.frameSet (s.arenas s.pageTableBaseRegister) then none else s.owner p := by
  unfold State.owner
  rw [State.destroyed_physMemPages, State.reaped_physMemPages, List.getElem?_mapIdx]
  split
  · cases s.physMemPages[p]? <;> simp [*]
  · cases s.physMemPages[p]? <;> simp [*]

variable {s pid ppns} (h : Inv none s)
  (hpid : s.pageTables.lookup pid = some s.pageTableBaseRegister)
include h

/-- A page that is still in use is not a swap-backed page of the process. -/
lemma destroyed_not_swap {r : PageRef} (hr : (s.destroyed pid ppns).Held r)
    (ht : (s.pages r).type = .swapBacked) : r ∉ s.arenas s.pageTableBaseRegister := by
  intro hm
  obtain ⟨i, hi⟩ := List.mem_iff_getElem?.1 hm
  rcases hr with ⟨pt, vpn, hs⟩ | ⟨n, b, hf⟩
  · obtain ⟨hne, hs⟩ := destroyed_slot_some hs
    exact hne ((h.layout.swap_slot hs ht).1.symm.trans (h.layout.swap_slot hi ht).1)
  · rw [(h.layout.file_entry hf).1] at ht
    cases ht

/-- The frames given back are those of the process's own pages. -/
lemma mem_frameSet_owner {p : ℕ} (hp : p ≠ 0) :
    p ∈ s.frameSet (s.arenas s.pageTableBaseRegister) ↔
      ∃ r ∈ s.arenas s.pageTableBaseRegister, (s.pages r).type = .swapBacked ∧ s.owner p = some r := by
  rw [mem_frameSet]
  constructor
  · rintro ⟨r, hr, ht, hres, rfl⟩
    obtain ⟨i, hi⟩ := List.mem_iff_getElem?.1 hr
    exact ⟨r, hr, ht, h.frames.owned (.inl ⟨_, i, hi⟩) ⟨hres, hp⟩⟩
  · rintro ⟨r, hr, ht, ho⟩
    exact ⟨r, hr, ht, (h.frames.owner_framed ho).1, h.frames.owner_ppn ho⟩

/-- A page that is still in use keeps its frame. -/
lemma destroyed_frame_kept {r : PageRef} (hr : (s.destroyed pid ppns).Held r) {p : ℕ}
    (ho : s.owner p = some r) : p ∉ s.frameSet (s.arenas s.pageTableBaseRegister) := by
  rw [mem_frameSet_owner h (h.frames.owner_pos ho).1]
  rintro ⟨r', hr', ht, ho'⟩
  rw [ho] at ho'
  obtain rfl := Option.some.inj ho'
  exact destroyed_not_swap h hr ht hr'

/-- The page of a frame that is not given back is still in use: it is in another arena, or in the
file table. -/
lemma destroyed_owner_held {r : PageRef} {p : ℕ} (ho : s.owner p = some r)
    (hnot : p ∉ s.frameSet (s.arenas s.pageTableBaseRegister)) : (s.destroyed pid ppns).Held r := by
  have hr := h.frames.owner_held ho
  cases ht : (s.pages r).type with
  | fileBacked =>
    obtain ⟨n, -, hfile⟩ := h.layout.file_of_held hr ht
    exact .inr ⟨n, _, hfile⟩
  | swapBacked =>
    obtain ⟨pt, vpn, hs⟩ := h.layout.slot_of_swap hr ht
    refine .inl ⟨pt, vpn, ?_⟩
    rw [destroyed_slot, if_neg, hs]
    rintro rfl
    exact hnot ((mem_frameSet_owner h (h.frames.owner_pos ho).1).2
      ⟨r, List.mem_of_getElem? hs, ht, ho⟩)

/-- The queues have the frames they had: those given back have changed sides. -/
lemma destroyed_queues (hnd : ppns.Nodup) :
    ((s.destroyed pid ppns).freePages ++ (s.destroyed pid ppns).activePages).Perm
      (s.freePages ++ s.activePages) := by
  have hact := h.frames.active_nodup
  rw [State.destroyed_freePages, State.released_freePages, State.destroyed_activePages,
    State.released_activePages, List.append_assoc]
  refine List.Perm.append_left _ ?_
  have hdisj : (ppns.filter (· ∈ s.activePages) ++ s.activePages.filter (· ∉ ppns)).Nodup := by
    refine List.nodup_append.2 ⟨hnd.filter _, hact.filter _, fun a ha b hb hab => ?_⟩
    subst hab
    simp only [List.mem_filter, decide_eq_true_eq] at ha hb
    exact hb.2 ha.1
  refine (List.perm_ext_iff_of_nodup hdisj hact).2 fun a => ?_
  simp only [List.mem_append, List.mem_filter, decide_eq_true_eq]
  tauto

theorem Frames.destroyed (hp : ppns.Perm (s.frameSet (s.arenas s.pageTableBaseRegister))) :
    Frames none (s.destroyed pid ppns) := by
  have hF := h.frames
  have hact : ∀ {p}, p ∈ (s.destroyed pid ppns).activePages ↔
      p ∈ s.activePages ∧ p ∉ s.frameSet (s.arenas s.pageTableBaseRegister) := by
    intro p
    simp only [State.destroyed_activePages, State.released_activePages, List.mem_filter, hp.mem_iff,
      decide_eq_true_eq]
  refine { hF with
    phys_length := by
      rw [State.destroyed_physMemPages, State.reaped_physMemPages, List.length_mapIdx]
      exact hF.phys_length
    queues := (destroyed_queues h (hp.nodup_iff.2 (frameSet_nodup _ _))).trans hF.queues
    flags_ok := fun {r} hr => ?_
    owner_ok := fun {p r} ho => ?_
    owned := fun {r} hr hf => ?_
    active_owned := fun {p} ha _ => ?_
    hole_active := fun hh => by cases hh }
  · obtain ⟨ptes, hpage⟩ := destroyed_page s pid ppns r
    refine (hF.flags_ok (destroyed_held hr)).congr (destroyed_flags s pid ppns r) ?_
    rw [hpage]
  · rw [destroyed_owner] at ho
    split at ho
    · cases ho
    · rename_i hnot
      obtain ⟨h1, -, -, h4, h5⟩ := hF.owner_ok ho
      have hf := destroyed_flags s pid ppns r
      exact ⟨hact.2 ⟨h1, hnot⟩, by simp, destroyed_owner_held h ho hnot,
        (resident_congr hf).trans h4, (ppn_congr hf).trans h5⟩
  · have hr' := destroyed_held hr
    have hfl := destroyed_flags s pid ppns r
    have ho := hF.owned hr' ((framed_congr hfl).1 hf)
    rw [ppn_congr hfl, destroyed_owner, if_neg (destroyed_frame_kept h hr ho)]
    exact ho
  · obtain ⟨ha, hnot⟩ := hact.1 ha
    rw [destroyed_owner, if_neg hnot]
    exact hF.active_owned ha (by simp)

theorem Contents.destroyed : Contents (s.destroyed pid ppns) where
  clean {r} hr hf hd := by
    have hfl := destroyed_flags s pid ppns r
    rw [ppn_congr hfl, destroyed_onDisk]
    exact h.contents.clean (destroyed_held hr) ((framed_congr hfl).1 hf)
      ((dirty_congr hfl).symm.trans hd)
  zero := h.contents.zero

theorem Ghost.destroyed : Ghost (s.destroyed pid ppns) where
  dirty_iff {r} hr := by
    rw [dirty_congr (destroyed_flags s pid ppns r)]
    exact h.ghost.dirty_iff (destroyed_held hr)
  written {pt vpn r} hs ht := by
    obtain ⟨ptes, hp⟩ := destroyed_page s pid ppns r
    rw [hp] at ht ⊢
    exact h.ghost.written (destroyed_slot_some hs).2 ht
  owner {r} hr := by
    obtain ⟨ptes, hp⟩ := destroyed_page s pid ppns r
    rw [hp]
    exact h.ghost.owner (destroyed_held hr)
  events := h.ghost.events

theorem Coherent.destroyed : Coherent (s.destroyed pid ppns) := by
  intro pt t ht vpn
  rw [State.destroyed_tables] at ht
  have hne : pt ≠ s.pageTableBaseRegister := by
    rintro rfl
    rw [Function.update_self] at ht
    cases ht
  rw [Function.update_of_ne hne] at ht
  rw [h.coherent ht, State.pteFor, State.pteFor, destroyed_slot, if_neg hne]
  cases s.slot pt vpn with
  | none => rfl
  | some r =>
    dsimp only
    rw [destroyed_flags]

/-- A file page that is not in the arena has no entries of the process. -/
lemma ptesUnder_of_not_mem {n : Name} {b : ℕ} {r : PageRef} (hf : s.fileTable n b = some r)
    (hnot : ¬ (r ∈ s.arenas s.pageTableBaseRegister ∧ (s.pages r).type = .fileBacked)) :
    (s.pages r).ptesUnder s.pageTableBaseRegister = [] := by
  refine List.eq_nil_iff_forall_not_mem.2 fun e he => hnot ⟨?_, (h.layout.file_entry hf).1⟩
  exact List.mem_of_getElem? ((h.layout.shared_iff hf _ e).1 he).2

/-- The shared entries of a file page lose those of the process. -/
lemma destroyed_ptesUnder {n : Name} {b : ℕ} {r : PageRef} (hf : s.fileTable n b = some r)
    (pt : Ptbr) : ((s.destroyed pid ppns).pages r).ptesUnder pt =
      if pt = s.pageTableBaseRegister then [] else (s.pages r).ptesUnder pt := by
  rw [State.destroyed_pages, State.reaped_pages]
  split
  · unfold PageState.ptesUnder
    split
    · rename_i hpt
      rw [hpt, AList.lookup_erase]
      rfl
    · rename_i hpt
      rw [AList.lookup_erase_ne hpt]
  · rename_i hnot
    split
    · rename_i hpt
      subst hpt
      exact ptesUnder_of_not_mem h hf hnot
    · rfl

include hpid

lemma lookup_erase_iff {pid' : Pid} {pt : Ptbr} :
    (s.pageTables.erase pid).lookup pid' = some pt ↔
      s.pageTables.lookup pid' = some pt ∧ pt ≠ s.pageTableBaseRegister := by
  by_cases hp : pid' = pid
  · subst hp
    rw [AList.lookup_erase, hpid]
    simp only [reduceCtorEq, Option.some.injEq, false_iff, not_and, not_not]
    exact Eq.symm
  · rw [AList.lookup_erase_ne hp]
    refine (and_iff_left_of_imp fun hl hpt => ?_).symm
    subst hpt
    exact hp (h.layout.ptbr_inj hl hpid)

/-- The pages of all processes are those of the process and those that are left. -/
lemma livePages_destroyed : s.livePages.Perm
    (s.arenas s.pageTableBaseRegister ++ (s.destroyed pid ppns).livePages) := by
  obtain ⟨l, hne, hperm, herase⟩ := h.layout.livePages_split hpid
  have hrest : (s.destroyed pid ppns).livePages = l.flatMap s.arenas := by
    rw [State.livePages, State.destroyed_pageTables, herase, List.flatMap_def, List.flatMap_def]
    refine congrArg List.flatten (List.map_congr_left fun x hx => ?_)
    rw [State.destroyed_arenas, Function.update_of_ne (hne x hx)]
  rw [hrest]
  exact hperm s.arenas

lemma liveBlocks_destroyed : s.liveBlocks.Perm
    (s.blocksOf (s.arenas s.pageTableBaseRegister) ++ (s.destroyed pid ppns).liveBlocks) := by
  have hswap : (s.destroyed pid ppns).IsSwap = s.IsSwap := by
    funext q
    obtain ⟨ptes, hp⟩ := destroyed_page s pid ppns q
    rw [State.IsSwap, State.IsSwap, hp]
  have hblock : (fun q => ((s.destroyed pid ppns).pages q).swapBlock) =
      fun q => (s.pages q).swapBlock := by
    funext q
    obtain ⟨ptes, hp⟩ := destroyed_page s pid ppns q
    rw [hp]
  have hpages : s.livePages.Perm
      (s.arenas s.pageTableBaseRegister ++ (s.destroyed pid ppns).livePages) :=
    livePages_destroyed h hpid
  have hperm := (hpages.filter s.IsSwap).map fun q => (s.pages q).swapBlock
  rw [List.filter_append, List.map_append] at hperm
  unfold State.liveBlocks State.blocksOf
  rw [hswap, hblock]
  exact hperm

theorem Layout.destroyed : Layout (s.destroyed pid ppns) where
  ptbr_inj := by
    intro pid₁ pid₂ pt h₁ h₂
    exact h.layout.ptbr_inj ((lookup_erase_iff h hpid).1 h₁).1 ((lookup_erase_iff h hpid).1 h₂).1
  live_iff pt := by
    rw [State.destroyed_tables]
    constructor
    · rintro ⟨pid', hl⟩
      obtain ⟨hl, hne⟩ := (lookup_erase_iff h hpid).1 hl
      rw [Function.update_of_ne hne]
      exact (h.layout.live_iff pt).1 ⟨pid', hl⟩
    · intro ht
      by_cases hne : pt = s.pageTableBaseRegister
      · subst hne
        rw [Function.update_self] at ht
        cases ht
      · rw [Function.update_of_ne hne] at ht
        obtain ⟨pid', hl⟩ := (h.layout.live_iff pt).2 ht
        exact ⟨pid', (lookup_erase_iff h hpid).2 ⟨hl, hne⟩⟩
  arena_live := by
    intro pt vpn r hs
    obtain ⟨hne, hs⟩ := destroyed_slot_some hs
    rw [State.destroyed_tables, Function.update_of_ne hne]
    exact h.layout.arena_live hs
  arena_le pt := by
    rw [State.destroyed_arenas]
    by_cases hpt : pt = s.pageTableBaseRegister
    · subst hpt
      rw [Function.update_self]
      exact Nat.zero_le _
    · rw [Function.update_of_ne hpt]
      exact h.layout.arena_le pt
  held_lt hr := h.layout.held_lt (destroyed_held hr)
  swap_slot := by
    intro pt vpn r hs ht
    obtain ⟨ptes, hp⟩ := destroyed_page s pid ppns r
    rw [hp] at ht ⊢
    exact h.layout.swap_slot (destroyed_slot_some hs).2 ht
  file_slot := by
    intro pt vpn r hs ht
    obtain ⟨ptes, hp⟩ := destroyed_page s pid ppns r
    rw [hp] at ht ⊢
    exact h.layout.file_slot (destroyed_slot_some hs).2 ht
  file_entry := by
    intro n b r hf
    obtain ⟨ptes, hp⟩ := destroyed_page s pid ppns r
    rw [hp]
    exact h.layout.file_entry hf
  shared_iff := by
    intro n b r hf pt e
    rw [destroyed_ptesUnder h hf, destroyed_slot]
    split
    · simp
    · exact h.layout.shared_iff hf pt e
  shared_nodup := by
    intro n b r hf pt
    rw [destroyed_ptesUnder h hf]
    split
    · exact List.nodup_nil
    · exact h.layout.shared_nodup hf pt
  shared_key := by
    intro n b r hf pt hk
    rw [destroyed_ptesUnder h hf]
    rw [State.destroyed_pages, State.reaped_pages] at hk
    split at hk
    · obtain ⟨hpt, hk⟩ := AList.mem_erase.1 hk
      rw [if_neg hpt]
      exact h.layout.shared_key hf pt hk
    · rename_i hnot
      have hne := h.layout.shared_key hf pt hk
      rw [if_neg]
      · exact hne
      · rintro rfl
        exact hne (ptesUnder_of_not_mem h hf hnot)
  blocks_max := h.layout.blocks_max
  blocks := by
    rw [State.destroyed_freeBlocks, State.reaped_freeBlocks, List.append_assoc]
    exact (((liveBlocks_destroyed h hpid).symm).append_left s.freeBlocks).trans h.layout.blocks

/-- **The invariant through the end of a process.** -/
theorem Inv.destroyed (hp : ppns.Perm (s.frameSet (s.arenas s.pageTableBaseRegister))) :
    Inv none (s.destroyed pid ppns) :=
  ⟨Layout.destroyed h hpid, Coherent.destroyed h, Frames.destroyed h hp, Contents.destroyed h,
    Ghost.destroyed h⟩

end Destroyed

end VmPager
