import VmPager.Inv.Evict

/-!
# Mapping a page

The three ways in which `vm_map` puts a page at the end of the current arena (a new swap-backed page,
a file-backed page that is in the file table, one that is not) have one effect on what is in use:
`Grows`. The part of the invariant that is about frames, bytes and history follows from that alone;
the layout needs what each way adds to the free list, the file table and the shared entries.
-/

namespace VmPager

open Lib.Frames Lib.History

/-! ### The pages of all processes -/

section Split

variable {s : State} (hL : Layout s)
include hL

/-- The process of a page table among all processes. -/
lemma Layout.entries_split {pid : Pid} {pt : Ptbr} (h : s.pageTables.lookup pid = some pt) :
    ∃ l₁ l₂, s.pageTables.entries = l₁ ++ ⟨pid, pt⟩ :: l₂ ∧
      (s.pageTables.erase pid).entries = l₁ ++ l₂ ∧ ∀ itr ∈ l₁ ++ l₂, itr.2 ≠ pt := by
  have hmem : pid ∈ s.pageTables.entries.keys :=
    AList.lookup_isSome.1 (by rw [h]; rfl)
  obtain ⟨pt', l₁, l₂, hnot, heq, hk⟩ := List.exists_of_kerase hmem
  have hnd := s.pageTables.nodupKeys
  obtain rfl : pt' = pt := by
    have hm : (⟨pid, pt'⟩ : Sigma fun _ : Pid => Ptbr) ∈ s.pageTables.entries := by rw [heq]; simp
    rw [AList.mem_lookup_iff.2 hm] at h
    exact Option.some.inj h
  refine ⟨l₁, l₂, heq, hk, fun itr hi hpt => ?_⟩
  have hin : itr ∈ s.pageTables.entries := by
    rw [heq]
    rcases List.mem_append.1 hi with hi | hi <;> simp [hi]
  -- another process with this page table would be the process itself
  have hpid : itr.1 = pid := hL.ptbr_inj (AList.mem_lookup_iff.2 (by rw [← hpt]; exact hin)) h
  have hkeys : (l₁ ++ l₂).keys.Nodup := by
    rw [← hk]
    exact (hnd.kerase pid)
  have hne : pid ∉ (List.kerase pid s.pageTables.entries).keys := List.notMem_keys_kerase pid hnd
  rw [hk] at hne
  exact hne (by rw [← hpid]; exact List.mem_keys_of_mem hi)

/-- The pages of all processes, one process put first. -/
lemma Layout.livePages_split {pid : Pid} {pt : Ptbr} (h : s.pageTables.lookup pid = some pt) :
    ∃ l : List Ptbr, (∀ x ∈ l, x ≠ pt) ∧
      (∀ f : Ptbr → List PageRef, (s.pageTables.entries.flatMap fun itr => f itr.2).Perm
        (f pt ++ l.flatMap f)) ∧
      ∀ f : Ptbr → List PageRef, ((s.pageTables.erase pid).entries.flatMap fun itr => f itr.2) =
        l.flatMap f := by
  obtain ⟨l₁, l₂, heq, hk, hne⟩ := hL.entries_split h
  refine ⟨(l₁ ++ l₂).map (·.2), ?_, fun f => ?_, fun f => ?_⟩
  · intro x hx
    obtain ⟨itr, hi, rfl⟩ := List.mem_map.1 hx
    exact hne itr hi
  · rw [heq, List.flatMap_append, List.flatMap_cons, List.flatMap_map, List.flatMap_append]
    exact List.perm_append_comm_assoc _ _ _
  · rw [hk, List.flatMap_map]

end Split

/-! ### One page more -/

/-- The slot the next page of the current process gets. -/
def State.nextSlot (s : State) : PteRef :=
  ⟨s.pageTableBaseRegister, (s.arenas s.pageTableBaseRegister).length⟩

/-- From `s` to `s'` the page `r` has been put at the end of the current arena. It was in use
before, and then only its shared entries change, or it is new. -/
structure Grows (r : PageRef) (s s' : State) : Prop where
  arenas : s'.arenas = Function.update s.arenas s.pageTableBaseRegister
    (s.arenas s.pageTableBaseRegister ++ [r])
  tables : s'.tables = (s.writeWhere (· = s.nextSlot) (s'.pages r).flags.pte).tables
  pageTables : s'.pageTables = s.pageTables
  ptbr : s'.pageTableBaseRegister = s.pageTableBaseRegister
  maxBlocks : s'.maxBlocks = s.maxBlocks
  maxSize : s'.maxSize = s.maxSize
  freePages : s'.freePages = s.freePages
  activePages : s'.activePages = s.activePages
  physMemPages : s'.physMemPages = s.physMemPages
  physmem : s'.physmem = s.physmem
  disk : s'.disk = s.disk
  nextPage : s.nextPage ≤ s'.nextPage
  lt : r < s'.nextPage
  others : ∀ {q}, q ≠ r → s'.pages q = s.pages q
  known : s.Held r → ∃ ptes, s'.pages r = { s.pages r with sharedPtes := ptes }
  new : ¬ s.Held r → ((s'.pages r).type = .fileBacked ∧ (s'.pages r).flags = .out) ∨
    ((s'.pages r).type = .swapBacked ∧ (s'.pages r).flags = ⟨0, true, true, false⟩)
  fileTable : ∀ n b q, s'.fileTable n b = some q ↔ s.fileTable n b = some q ∨
    (q = r ∧ ¬ s.Held r ∧ (s'.pages r).type = .fileBacked ∧ (s'.pages r).filename = some n ∧
      (s'.pages r).fileBlock = b)

namespace Grows

variable {r : PageRef} {s s' : State} (g : Grows r s s')
include g

theorem slot (pt : Ptbr) (vpn : ℕ) :
    s'.slot pt vpn = if (⟨pt, vpn⟩ : PteRef) = s.nextSlot then some r else s.slot pt vpn := by
  unfold State.slot
  rw [g.arenas]
  by_cases hpt : pt = s.pageTableBaseRegister
  · subst hpt
    rw [Function.update_self, List.getElem?_append]
    by_cases hv : vpn = (s.arenas s.pageTableBaseRegister).length
    · subst hv
      simp [State.nextSlot]
    · have hne : (⟨s.pageTableBaseRegister, vpn⟩ : PteRef) ≠ s.nextSlot := fun he =>
        hv (congrArg PteRef.vpn he)
      rw [if_neg hne]
      split
      · rfl
      · rename_i hlt
        rw [List.getElem?_eq_none_iff.2 (Nat.not_lt.1 hlt), List.getElem?_eq_none_iff]
        simp only [List.length_cons, List.length_nil]
        omega
  · have hne : (⟨pt, vpn⟩ : PteRef) ≠ s.nextSlot := fun he => hpt (congrArg PteRef.table he)
    rw [Function.update_of_ne hpt, if_neg hne]

omit g in
lemma nextSlot_empty : s.slot s.nextSlot.table s.nextSlot.vpn = none :=
  List.getElem?_eq_none_iff.2 le_rfl

theorem slot_iff (pt : Ptbr) (vpn : ℕ) (q : PageRef) :
    s'.slot pt vpn = some q ↔ s.slot pt vpn = some q ∨ ((⟨pt, vpn⟩ : PteRef) = s.nextSlot ∧ q = r) := by
  rw [g.slot]
  split
  · rename_i he
    have hnone : s.slot pt vpn = none := by
      have := nextSlot_empty (s := s)
      rwa [← he] at this
    rw [hnone]
    simp [he, eq_comm]
  · rename_i he
    simp [he]

theorem held (q : PageRef) : s'.Held q ↔ s.Held q ∨ q = r := by
  constructor
  · rintro (⟨pt, vpn, hs⟩ | ⟨n, b, hf⟩)
    · exact ((g.slot_iff pt vpn q).1 hs).imp (fun hs => .inl ⟨pt, vpn, hs⟩) And.right
    · exact ((g.fileTable n b q).1 hf).imp (fun hf => .inr ⟨n, b, hf⟩) And.left
  · rintro ((⟨pt, vpn, hs⟩ | ⟨n, b, hf⟩) | rfl)
    · exact .inl ⟨pt, vpn, (g.slot_iff pt vpn q).2 (.inl hs)⟩
    · exact .inr ⟨n, b, (g.fileTable n b q).2 (.inl hf)⟩
    · exact .inl ⟨_, _, (g.slot_iff _ _ q).2 (.inr ⟨rfl, rfl⟩)⟩

/-- Another page has its place in the file table from before. -/
lemma fileTable_of_ne {q : PageRef} {n : Name} {b : ℕ} (hf : s'.fileTable n b = some q) (hqr : q ≠ r) :
    s.fileTable n b = some q :=
  ((g.fileTable n b q).1 hf).resolve_right fun h0 => hqr h0.1

/-- Pages in use keep all but their shared entries. -/
theorem keeps {q : PageRef} (hq : s.Held q) :
    ∃ ptes, s'.pages q = { s.pages q with sharedPtes := ptes } := by
  by_cases hqr : q = r
  · subst hqr
    exact g.known hq
  · exact ⟨_, g.others hqr⟩

theorem flags {q : PageRef} (hq : s.Held q) : (s'.pages q).flags = (s.pages q).flags := by
  obtain ⟨ptes, hp⟩ := g.keeps hq
  rw [hp]
  rfl

theorem backing {q : PageRef} (hq : s.Held q) : (s'.pages q).backing = (s.pages q).backing := by
  obtain ⟨ptes, hp⟩ := g.keeps hq
  rw [hp]
  rfl

theorem type {q : PageRef} (hq : s.Held q) : (s'.pages q).type = (s.pages q).type := by
  obtain ⟨ptes, hp⟩ := g.keeps hq
  rw [hp]

theorem onDisk {q : PageRef} (hq : s.Held q) : s'.onDisk q = s.onDisk q := by
  unfold State.onDisk
  rw [g.backing hq, g.disk]

/-- **Pages in use keep their bytes.** -/
theorem content {q : PageRef} (hq : s.Held q) : s'.content q = s.content q := by
  have hf := g.flags hq
  unfold State.content
  rw [resident_congr hf, ppn_congr hf, g.onDisk hq, frame_congr g.physmem]

/-- A new page has no frame. -/
lemma new_not_framed (hr : ¬ s.Held r) : ¬ (s'.pages r).Framed := by
  rintro ⟨hres, hppn⟩
  rcases g.new hr with ⟨-, h0⟩ | ⟨-, h0⟩
  · have h1 : (s'.pages r).resident = false := congrArg Flags.resident h0
    rw [hres] at h1
    cases h1
  · exact hppn (congrArg Flags.ppn h0)

lemma framed {q : PageRef} (hq : s'.Held q) (hf : (s'.pages q).Framed) :
    s.Held q ∧ (s.pages q).Framed := by
  have hq' : s.Held q := by
    rcases (g.held q).1 hq with h0 | rfl
    · exact h0
    · by_contra h0
      exact g.new_not_framed h0 hf
  exact ⟨hq', (framed_congr (g.flags hq')).1 hf⟩

/-- **The frames** are those of the pages that were in use. -/
theorem frames {hole : Option ℕ} (h : Frames hole s) : Frames hole s' where
  size_min := by rw [g.maxSize]; exact h.size_min
  size_max := by rw [g.maxSize]; exact h.size_max
  phys_length := by rw [g.physMemPages, g.maxSize]; exact h.phys_length
  queues := by rw [g.freePages, g.activePages, g.maxSize]; exact h.queues
  flags_ok := by
    intro q hq
    by_cases hq' : s.Held q
    · exact (h.flags_ok hq').congr (g.flags hq') (g.type hq')
    · obtain rfl := ((g.held q).1 hq).resolve_left hq'
      rcases g.new hq' with ⟨-, h0⟩ | ⟨ht, h0⟩
      · refine ⟨fun _ => h0, fun hres _ => ?_⟩
        rw [show (s'.pages q).resident = false from congrArg Flags.resident h0] at hres
        cases hres
      · refine ⟨fun hres => ?_, fun _ _ => ⟨ht, congrArg Flags.referenced h0,
          congrArg Flags.dirty h0⟩⟩
        rw [show (s'.pages q).resident = true from congrArg Flags.resident h0] at hres
        cases hres
  owner_ok := by
    intro p q ho
    rw [owner_congr g.physMemPages] at ho
    obtain ⟨h1, h2, h3, h4, h5⟩ := h.owner_ok ho
    have hf := g.flags h3
    exact ⟨by rw [g.activePages]; exact h1, h2, (g.held q).2 (.inl h3),
      (resident_congr hf).trans h4, (ppn_congr hf).trans h5⟩
  owned := by
    intro q hq hf
    obtain ⟨hq', hf'⟩ := g.framed hq hf
    rw [owner_congr g.physMemPages, ppn_congr (g.flags hq')]
    exact h.owned hq' hf'
  active_owned := by
    intro p hp hh
    rw [g.activePages] at hp
    rw [owner_congr g.physMemPages]
    exact h.active_owned hp hh
  hole_active := by
    intro p hh
    rw [g.activePages]
    exact h.hole_active hh

theorem contents (h : Contents s) : Contents s' where
  clean := by
    intro q hq hf hd
    obtain ⟨hq', hf'⟩ := g.framed hq hf
    have hfl := g.flags hq'
    rw [g.onDisk hq', frame_congr g.physmem, ppn_congr hfl]
    exact h.clean hq' hf' ((dirty_congr hfl).symm.trans hd)
  zero := by
    rw [frame_congr g.physmem]
    exact h.zero

/-- **The entries**: the new one is what its page calls for. -/
theorem coherent (h : Coherent s) : Coherent s' := by
  intro pt t ht vpn
  rw [g.tables, State.writeWhere_tables, Option.map_eq_some_iff] at ht
  obtain ⟨t₀, ht₀, rfl⟩ := ht
  unfold State.pteFor
  rw [g.slot]
  beta_reduce
  split
  · rfl
  · rw [h ht₀, State.pteFor]
    cases hs : s.slot pt vpn with
    | none => rfl
    | some q =>
      dsimp only
      rw [g.flags (.inl ⟨pt, vpn, hs⟩)]

/-- **The history** of the pages in use goes on when one of them is mapped again. -/
theorem ghost_known (hL : Layout s) (h : Ghost s) (hr : s.Held r) (htr : s'.trace = s.trace) :
    Ghost s' := by
  have hmax := g.maxSize
  have hheld : ∀ {q}, s'.Held q → s.Held q := by
    intro q hq
    rcases (g.held q).1 hq with h0 | rfl
    · exact h0
    · exact hr
  refine ⟨fun {q} hq => ?_, fun {pt vpn q} hs ht => ?_, fun {q} hq => ?_, ?_⟩
  · rw [htr, ← h.dirty_iff (hheld hq)]
    exact dirty_congr (g.flags (hheld hq))
  · have hq := hheld (.inl ⟨pt, vpn, hs⟩)
    obtain ⟨ptes, hp⟩ := g.keeps hq
    rw [g.type hq] at ht
    obtain ⟨pt₀, vpn₀, hs₀⟩ := hL.slot_of_swap hq ht
    rw [htr, hp]
    exact h.written hs₀ ht
  · rw [htr, g.backing (hheld hq)]
    exact h.owner (hheld hq)
  · rw [htr, hmax]
    exact h.events

/-- **A new page starts its history**, on a block that no page in use has. -/
theorem ghost_new (h : Ghost s) (hr : ¬ s.Held r)
    (htr : s'.trace =
      .mapped r (s'.pages r).backing.1 (s'.pages r).backing.2 :: s.trace)
    (hfree : ∀ q, s.Held q → (s.pages q).backing ≠ (s'.pages r).backing) : Ghost s' := by
  have hmax := g.maxSize
  refine ⟨fun {q} hq => ?_, fun {pt vpn q} hs ht => ?_, fun {q} hq => ?_, ?_⟩
  · rw [htr, granted_mapped]
    by_cases hqr : q = r
    · subst hqr
      have hd : (s'.pages q).dirty = false := by
        rcases g.new hr with ⟨-, h0⟩ | ⟨-, h0⟩ <;> exact congrArg Flags.dirty h0
      simp [hd]
    · have hq' := ((g.held q).1 hq).resolve_right hqr
      rw [← h.dirty_iff hq', dirty_congr (g.flags hq')]
      simp [Ne.symm hqr]
  · rw [htr]
    rcases (g.slot_iff pt vpn q).1 hs with hs | ⟨-, rfl⟩
    · have hq : s.Held q := .inl ⟨pt, vpn, hs⟩
      obtain ⟨ptes, hp⟩ := g.keeps hq
      rw [g.type hq] at ht
      rw [hp]
      rcases h.written hs ht with h0 | h1 | h2
      · exact .inl h0
      · exact .inr (.inl h1)
      · have hb : (s.pages q).backing = (none, (s.pages q).swapBlock) := by
          rw [PageState.backing, if_pos ht]
        have hne := hfree q hq
        rw [hb] at hne
        exact .inr (.inr (ownWrite_mapped_of_ne h2 hne))
    · rcases g.new hr with ⟨hty, -⟩ | ⟨-, h0⟩
      · rw [ht] at hty
        cases hty
      · exact .inl ⟨congrArg Flags.resident h0, congrArg Flags.ppn h0⟩
  · rw [htr, ownerOf_mapped]
    by_cases hqr : q = r
    · subst hqr
      rw [if_pos ⟨rfl, rfl⟩]
    · have hq' := ((g.held q).1 hq).resolve_right hqr
      rw [g.backing hq', if_neg, h.owner hq']
      rintro ⟨h1, h2⟩
      exact hfree q hq' (Prod.ext h1.symm h2.symm)
  · rw [htr, hmax]
    exact ⟨trivial, h.events⟩

/-! ### The layout -/

lemma livePages_perm (hL : Layout s) (hlive : (s.tables s.pageTableBaseRegister).isSome) :
    s'.livePages.Perm (r :: s.livePages) := by
  obtain ⟨pid, hpid⟩ := (hL.live_iff _).2 hlive
  obtain ⟨l, hne, hperm, -⟩ := hL.livePages_split hpid
  have hrest : l.flatMap s'.arenas = l.flatMap s.arenas := by
    rw [List.flatMap_def, List.flatMap_def]
    refine congrArg List.flatten (List.map_congr_left fun x hx => ?_)
    rw [g.arenas, Function.update_of_ne (hne x hx)]
  have h' := hperm s'.arenas
  rw [hrest, g.arenas, Function.update_self, List.append_assoc, List.singleton_append] at h'
  calc s'.livePages.Perm (s.arenas s.pageTableBaseRegister ++ r :: l.flatMap s.arenas) := by
        rw [State.livePages, g.pageTables, g.arenas]
        exact h'
    _ |>.Perm (r :: (s.arenas s.pageTableBaseRegister ++ l.flatMap s.arenas)) := List.perm_middle
    _ |>.Perm (r :: s.livePages) := ((hperm s.arenas).symm).cons r

lemma liveBlocks_perm (hL : Layout s) (hlive : (s.tables s.pageTableBaseRegister).isSome) :
    s'.liveBlocks.Perm ((if (s'.pages r).type = .swapBacked then [(s'.pages r).swapBlock] else []) ++
      s.liveBlocks) := by
  -- the pages in use have their kind and their block from before
  have hold : ((s.livePages.filter s'.IsSwap).map fun q => (s'.pages q).swapBlock) = s.liveBlocks := by
    have hheld : ∀ q ∈ s.livePages, s.Held q := by
      intro q hq
      obtain ⟨itr, -, hm⟩ := List.mem_flatMap.1 hq
      obtain ⟨vpn, hv⟩ := List.mem_iff_getElem?.1 hm
      exact .inl ⟨itr.2, vpn, hv⟩
    have hfilter : s.livePages.filter s'.IsSwap = s.livePages.filter s.IsSwap :=
      List.filter_congr fun q hq => by rw [State.IsSwap, State.IsSwap, g.type (hheld q hq)]
    rw [hfilter]
    refine List.map_congr_left fun q hq => ?_
    obtain ⟨ptes, hp⟩ := g.keeps (hheld q (List.mem_of_mem_filter hq))
    rw [hp]
  refine (((g.livePages_perm hL hlive).filter s'.IsSwap).map _).trans ?_
  rw [List.filter_cons]
  by_cases ht : (s'.pages r).type = .swapBacked
  · rw [if_pos (by simp [State.IsSwap, ht]), if_pos ht, List.map_cons, hold]
    rfl
  · rw [if_neg (by simp [State.IsSwap, ht]), if_neg ht, hold]
    rfl

/-- **The layout**, from what each way of mapping adds. -/
theorem layout (hL : Layout s) (hlive : (s.tables s.pageTableBaseRegister).isSome)
    (hlen : (s.arenas s.pageTableBaseRegister).length < numPtes)
    (hswap : (s'.pages r).type = .swapBacked →
      ¬ s.Held r ∧ (⟨(s'.pages r).ownerPtbr, (s'.pages r).vpn⟩ : PteRef) = s.nextSlot)
    (hfile : (s'.pages r).type = .fileBacked →
      ∃ n, (s'.pages r).filename = some n ∧ s'.fileTable n (s'.pages r).fileBlock = some r)
    (hshared : (s'.pages r).type = .fileBacked → ∀ pt (e : PteRef),
      e ∈ (s'.pages r).ptesUnder pt ↔ e.table = pt ∧ s'.slot pt e.vpn = some r)
    (hnodup : ∀ pt, ((s'.pages r).ptesUnder pt).Nodup)
    (hkey : ∀ pt ∈ (s'.pages r).sharedPtes, (s'.pages r).ptesUnder pt ≠ [])
    (hblocks : (s'.freeBlocks ++ ((if (s'.pages r).type = .swapBacked then
      [(s'.pages r).swapBlock] else []) ++ s.liveBlocks)).Perm (List.range s.maxBlocks)) :
    Layout s' where
  ptbr_inj := by
    rw [g.pageTables]
    exact hL.ptbr_inj
  live_iff pt := by
    rw [State.Live, g.pageTables, g.tables, State.writeWhere_tables, Option.isSome_map]
    exact hL.live_iff pt
  arena_live := by
    intro pt vpn q hs
    rw [g.tables, State.writeWhere_tables, Option.isSome_map]
    rcases (g.slot_iff pt vpn q).1 hs with hs | ⟨he, -⟩
    · exact hL.arena_live hs
    · rw [show pt = s.pageTableBaseRegister from congrArg PteRef.table he]
      exact hlive
  arena_le pt := by
    rw [g.arenas]
    by_cases hpt : pt = s.pageTableBaseRegister
    · subst hpt
      rw [Function.update_self, List.length_append, List.length_singleton]
      omega
    · rw [Function.update_of_ne hpt]
      exact hL.arena_le pt
  held_lt := by
    intro q hq
    rcases (g.held q).1 hq with hq | rfl
    · exact lt_of_lt_of_le (hL.held_lt hq) g.nextPage
    · exact g.lt
  swap_slot := by
    intro pt vpn q hs ht
    rcases (g.slot_iff pt vpn q).1 hs with hs | ⟨he, rfl⟩
    · have hq : s.Held q := .inl ⟨pt, vpn, hs⟩
      obtain ⟨ptes, hp⟩ := g.keeps hq
      rw [g.type hq] at ht
      rw [hp]
      exact hL.swap_slot hs ht
    · have h' := (hswap ht).2.trans he.symm
      exact ⟨congrArg PteRef.table h', congrArg PteRef.vpn h'⟩
  file_slot := by
    intro pt vpn q hs ht
    by_cases hqr : q = r
    · subst hqr
      exact hfile ht
    · rcases (g.slot_iff pt vpn q).1 hs with hs | ⟨-, he⟩
      · rw [g.others hqr] at ht ⊢
        obtain ⟨n, hn, hf⟩ := hL.file_slot hs ht
        exact ⟨n, hn, (g.fileTable _ _ _).2 (.inl hf)⟩
      · exact absurd he hqr
  file_entry := by
    intro n b q hf
    rcases (g.fileTable n b q).1 hf with hf | ⟨rfl, -, h1⟩
    · obtain ⟨ptes, hp⟩ := g.keeps (.inr ⟨n, b, hf⟩)
      rw [hp]
      exact hL.file_entry hf
    · exact h1
  shared_iff := by
    intro n b q hf pt e
    by_cases hqr : q = r
    · subst hqr
      refine hshared ?_ pt e
      rcases (g.fileTable n b q).1 hf with hf | ⟨-, -, h1, -⟩
      · rw [g.type (.inr ⟨n, b, hf⟩)]
        exact (hL.file_entry hf).1
      · exact h1
    · rw [g.others hqr, hL.shared_iff (g.fileTable_of_ne hf hqr), g.slot_iff]
      simp [hqr]
  shared_nodup := by
    intro n b q hf pt
    by_cases hqr : q = r
    · subst hqr
      exact hnodup pt
    · rw [g.others hqr]
      exact hL.shared_nodup (g.fileTable_of_ne hf hqr) pt
  shared_key := by
    intro n b q hf pt hk
    by_cases hqr : q = r
    · subst hqr
      exact hkey pt hk
    · rw [g.others hqr] at hk ⊢
      exact hL.shared_key (g.fileTable_of_ne hf hqr) pt hk
  blocks_max := by rw [g.maxBlocks]; exact hL.blocks_max
  blocks := by
    rw [g.maxBlocks]
    exact ((g.liveBlocks_perm hL hlive).append_left _).trans hblocks

end Grows

/-! ### The three ways -/

/-- The page that `vm_map` makes for a swap block. -/
def State.newSwapPage (s : State) (b : ℕ) : PageState where
  type := .swapBacked
  ppn := 0
  vpn := s.nextSlot.vpn
  referenced := true
  resident := true
  dirty := false
  swapBlock := b
  ownerPtbr := s.pageTableBaseRegister
  filename := none
  fileBlock := 0
  sharedPtes := ∅

/-- The page that `vm_map` makes for a file block, with its first shared entry. -/
def State.newFilePage (s : State) (n : Name) (b : ℕ) : PageState :=
  PageState.addPte {
    type := .fileBacked, ppn := 0, vpn := s.nextSlot.vpn, referenced := false, resident := false,
    dirty := false, swapBlock := 0, ownerPtbr := s.pageTableBaseRegister, filename := some n,
    fileBlock := b, sharedPtes := ∅ } s.pageTableBaseRegister s.nextSlot

/-- The page `r` is put at the end of the current arena, its entry written. -/
@[simps] def State.push (s : State) (r : PageRef) (e : Pte) : State :=
  { s.writeWhere (· = s.nextSlot) e with
    arenas := Function.update s.arenas s.pageTableBaseRegister
      (s.arenas s.pageTableBaseRegister ++ [r]) }

/-- A swap-backed page is mapped, on the block `b` at the front of the free list. -/
@[simps] def State.mapSwap (s : State) (b : ℕ) (rest : List ℕ) : State :=
  { s.push s.nextPage ⟨0, true, false⟩ with
    freeBlocks := rest
    pages := Function.update s.pages s.nextPage (s.newSwapPage b)
    nextPage := s.nextPage + 1
    trace := .mapped s.nextPage none b :: s.trace }

/-- A file-backed page of the file table is mapped. -/
@[simps] def State.mapKnown (s : State) (r : PageRef) : State :=
  { s.push r (s.pages r).flags.pte with
    pages := Function.update s.pages r ((s.pages r).addPte s.pageTableBaseRegister s.nextSlot) }

/-- A file-backed page that is not in the file table is mapped. -/
@[simps] def State.mapNew (s : State) (n : Name) (b : ℕ) : State :=
  { s.push s.nextPage Pte.zero with
    fileTable := Function.update s.fileTable n (Function.update (s.fileTable n) b (some s.nextPage))
    pages := Function.update s.pages s.nextPage (s.newFilePage n b)
    nextPage := s.nextPage + 1
    trace := .mapped s.nextPage (some n) b :: s.trace }

section Ways

variable {s : State} (hL : Layout s)
include hL

lemma nextPage_new : ¬ s.Held s.nextPage := fun h => lt_irrefl _ (hL.held_lt h)

theorem grows_mapSwap (b : ℕ) (rest : List ℕ) : Grows s.nextPage s (s.mapSwap b rest) := by
  have hpage : (s.mapSwap b rest).pages s.nextPage = s.newSwapPage b := Function.update_self ..
  have hnew := nextPage_new hL
  exact {
    arenas := rfl
    tables := by rw [hpage]; rfl
    pageTables := rfl
    ptbr := rfl
    maxBlocks := rfl
    maxSize := rfl
    freePages := rfl
    activePages := rfl
    physMemPages := rfl
    physmem := rfl
    disk := rfl
    nextPage := Nat.le_succ _
    lt := Nat.lt_succ_self _
    others := fun hq => Function.update_of_ne hq ..
    known := fun hr => absurd hr hnew
    new := fun _ => .inr (by rw [hpage]; exact ⟨rfl, rfl⟩)
    fileTable := fun n b q => ⟨.inl, fun hf => hf.resolve_right fun h0 => by
      rw [hpage] at h0
      exact PageType.noConfusion h0.2.2.1⟩ }

theorem grows_mapKnown {n : Name} {b : ℕ} {r : PageRef} (hf : s.fileTable n b = some r) :
    Grows r s (s.mapKnown r) := by
  have hpage : (s.mapKnown r).pages r = (s.pages r).addPte s.pageTableBaseRegister s.nextSlot :=
    Function.update_self ..
  have hr : s.Held r := .inr ⟨n, b, hf⟩
  exact {
    arenas := rfl
    tables := by rw [hpage]; rfl
    pageTables := rfl
    ptbr := rfl
    maxBlocks := rfl
    maxSize := rfl
    freePages := rfl
    activePages := rfl
    physMemPages := rfl
    physmem := rfl
    disk := rfl
    nextPage := le_rfl
    lt := hL.held_lt hr
    others := fun hq => Function.update_of_ne hq ..
    known := fun _ => ⟨_, hpage⟩
    new := fun h0 => absurd hr h0
    fileTable := fun n b q => ⟨.inl, fun hf => hf.resolve_right fun h0 => h0.2.1 hr⟩ }

theorem grows_mapNew {n : Name} {b : ℕ} (hf : s.fileTable n b = none) :
    Grows s.nextPage s (s.mapNew n b) := by
  have hpage : (s.mapNew n b).pages s.nextPage = s.newFilePage n b := Function.update_self ..
  have hnew := nextPage_new hL
  exact {
    arenas := rfl
    tables := by rw [hpage]; rfl
    pageTables := rfl
    ptbr := rfl
    maxBlocks := rfl
    maxSize := rfl
    freePages := rfl
    activePages := rfl
    physMemPages := rfl
    physmem := rfl
    disk := rfl
    nextPage := Nat.le_succ _
    lt := Nat.lt_succ_self _
    others := fun hq => Function.update_of_ne hq ..
    known := fun hr => absurd hr hnew
    new := fun _ => .inl (by rw [hpage]; exact ⟨rfl, rfl⟩)
    fileTable := fun m c q => by
      rw [hpage, State.mapNew_fileTable]
      have hfn : (s.newFilePage n b).filename = some n := rfl
      have hfb : (s.newFilePage n b).fileBlock = b := rfl
      have hty : (s.newFilePage n b).type = .fileBacked := rfl
      rw [hfn, hfb, hty]
      by_cases hm : m = n
      · subst hm
        by_cases hc : c = b
        · subst hc
          simp [hf, hnew, eq_comm]
        · simp [hc, Ne.symm hc]
      · simp [hm, Ne.symm hm] }

end Ways

/-! ### Shared entries -/

lemma ptesUnder_addPte (X : PageState) (pt pt' : Ptbr) (e : PteRef) :
    (X.addPte pt e).ptesUnder pt' =
      if pt' = pt then X.ptesUnder pt ++ [e] else X.ptesUnder pt' := by
  unfold PageState.ptesUnder PageState.addPte
  split
  · rename_i h
    subst h
    rw [AList.lookup_insert]
    rfl
  · rename_i h
    rw [AList.lookup_insert_ne h]

lemma addPte_key {X : PageState} {pt : Ptbr} {e : PteRef}
    (h : ∀ pt' ∈ X.sharedPtes, X.ptesUnder pt' ≠ []) :
    ∀ pt' ∈ (X.addPte pt e).sharedPtes, (X.addPte pt e).ptesUnder pt' ≠ [] := by
  intro pt' hk
  rw [ptesUnder_addPte]
  split
  · simp
  · rename_i hne
    exact h pt' ((AList.mem_insert _).1 hk |>.resolve_left hne)

lemma ptesUnder_empty {X : PageState} (h : X.sharedPtes = ∅) (pt : Ptbr) : X.ptesUnder pt = [] := by
  rw [PageState.ptesUnder, h, AList.lookup_empty]
  rfl

/-- The entry of the new slot completes the shared entries of a page. -/
lemma addPte_shared {s s' : State} {r : PageRef} {X : PageState} (g : Grows r s s')
    (hX : (s'.pages r) = X.addPte s.pageTableBaseRegister s.nextSlot)
    (h : ∀ pt (e : PteRef), e ∈ X.ptesUnder pt ↔ e.table = pt ∧ s.slot pt e.vpn = some r)
    (pt : Ptbr) (e : PteRef) :
    e ∈ (s'.pages r).ptesUnder pt ↔ e.table = pt ∧ s'.slot pt e.vpn = some r := by
  rw [hX, ptesUnder_addPte, g.slot_iff]
  split
  · rename_i hpt
    subst hpt
    rw [List.mem_append, h, List.mem_singleton]
    constructor
    · rintro (⟨ht, hs⟩ | rfl)
      · exact ⟨ht, .inl hs⟩
      · exact ⟨rfl, .inr ⟨rfl, rfl⟩⟩
    · rintro ⟨ht, hs | ⟨he, -⟩⟩
      · exact .inl ⟨ht, hs⟩
      · right
        rw [← he, ← ht]
  · rename_i hpt
    rw [h]
    refine and_congr_right fun _ => (or_iff_left ?_).symm
    rintro ⟨he, -⟩
    exact hpt (congrArg PteRef.table he)

lemma addPte_nodup {s : State} {r : PageRef} {X : PageState}
    (h : ∀ pt (e : PteRef), e ∈ X.ptesUnder pt ↔ e.table = pt ∧ s.slot pt e.vpn = some r)
    (hnd : ∀ pt, (X.ptesUnder pt).Nodup) (pt : Ptbr) :
    ((X.addPte s.pageTableBaseRegister s.nextSlot).ptesUnder pt).Nodup := by
  rw [ptesUnder_addPte]
  split
  · refine List.nodup_append.2 ⟨hnd _, List.nodup_singleton _, ?_⟩
    intro x hx y hy
    obtain rfl := List.mem_singleton.1 hy
    rintro rfl
    have hs := ((h _ _).1 hx).2
    have hnone : s.slot s.pageTableBaseRegister s.nextSlot.vpn = none := Grows.nextSlot_empty
    rw [hnone] at hs
    cases hs
  · exact hnd pt

/-! ### The invariant -/

section Inv

variable {hole : Option ℕ} {s : State} (h : Inv hole s)
  (hlive : (s.tables s.pageTableBaseRegister).isSome)
  (hlen : (s.arenas s.pageTableBaseRegister).length < numPtes)
include h hlive hlen

/-- **A swap-backed page is mapped.** -/
theorem Inv.mapSwap {b : ℕ} {rest : List ℕ} (hfree : s.freeBlocks = b :: rest) :
    Inv hole (s.mapSwap b rest) := by
  have hL := h.layout
  have g := grows_mapSwap hL b rest
  have hpage : (s.mapSwap b rest).pages s.nextPage = s.newSwapPage b := Function.update_self ..
  have hptes : ∀ pt, (s.newSwapPage b).ptesUnder pt = [] := ptesUnder_empty rfl
  -- the block was free
  have hnot : ∀ q, s.Held q → (s.pages q).backing ≠ (none, b) := by
    intro q hq hbk
    obtain ⟨ht, hb⟩ := hL.swap_of_backing hq hbk
    obtain ⟨pt, vpn, hs⟩ := hL.slot_of_swap hq ht
    have hmem : (s.pages q).swapBlock ∈ s.liveBlocks :=
      List.mem_map_of_mem (List.mem_filter.2 ⟨hL.mem_livePages hs, by simp [State.IsSwap, ht]⟩)
    have hnd := hL.blocks.nodup_iff.2 List.nodup_range
    rw [hfree, List.cons_append, List.nodup_cons] at hnd
    exact hnd.1 (List.mem_append_right _ (by rw [← hb]; exact hmem))
  refine ⟨g.layout hL hlive hlen ?_ ?_ ?_ ?_ ?_ ?_, g.coherent h.coherent, g.frames h.frames,
    g.contents h.contents,
    g.ghost_new h.ghost (nextPage_new hL) (by rw [hpage]; rfl) (by rw [hpage]; exact hnot)⟩
  · intro _
    rw [hpage]
    exact ⟨nextPage_new hL, rfl⟩
  · rw [hpage]
    exact fun h0 => by cases h0
  · rw [hpage]
    exact fun h0 => by cases h0
  · rw [hpage]
    intro pt
    rw [hptes]
    exact List.nodup_nil
  · rw [hpage]
    exact fun pt hk => absurd hk (AList.notMem_empty pt)
  · rw [hpage, if_pos (show (s.newSwapPage b).type = .swapBacked from rfl), State.mapSwap_freeBlocks,
      List.singleton_append]
    have hblocks := hL.blocks
    rw [hfree] at hblocks
    exact List.perm_middle.trans hblocks

/-- **A file-backed page of the file table is mapped.** -/
theorem Inv.mapKnown {n : Name} {b : ℕ} {r : PageRef} (hf : s.fileTable n b = some r) :
    Inv hole (s.mapKnown r) := by
  have hL := h.layout
  have g := grows_mapKnown hL hf
  have hpage : (s.mapKnown r).pages r = (s.pages r).addPte s.pageTableBaseRegister s.nextSlot :=
    Function.update_self ..
  obtain ⟨hty, hn, hb⟩ := hL.file_entry hf
  have hty' : ((s.mapKnown r).pages r).type = .fileBacked := by rw [hpage]; exact hty
  refine ⟨g.layout hL hlive hlen ?_ ?_ ?_ ?_ ?_ ?_, g.coherent h.coherent, g.frames h.frames,
    g.contents h.contents, g.ghost_known hL h.ghost (.inr ⟨n, b, hf⟩) rfl⟩
  · rw [hty']
    exact fun h0 => by cases h0
  · intro _
    rw [hpage]
    exact ⟨n, hn, show s.fileTable n (s.pages r).fileBlock = some r by rw [hb]; exact hf⟩
  · exact fun _ => addPte_shared g hpage fun pt e => hL.shared_iff hf pt e
  · rw [hpage]
    exact addPte_nodup (hL.shared_iff hf) (hL.shared_nodup hf)
  · rw [hpage]
    exact addPte_key (hL.shared_key hf)
  · rw [hty', if_neg PageType.noConfusion]
    exact hL.blocks

/-- **A file-backed page that is not in the file table is mapped.** -/
theorem Inv.mapNew {n : Name} {b : ℕ} (hf : s.fileTable n b = none) : Inv hole (s.mapNew n b) := by
  have hL := h.layout
  have g := grows_mapNew hL hf
  have hpage : (s.mapNew n b).pages s.nextPage = s.newFilePage n b := Function.update_self ..
  have hslot : ∀ pt vpn, s.slot pt vpn ≠ some s.nextPage :=
    fun pt vpn hs => nextPage_new hL (.inl ⟨pt, vpn, hs⟩)
  have hty : ((s.mapNew n b).pages s.nextPage).type = .fileBacked := by rw [hpage]; rfl
  -- the block had no page
  have hnot : ∀ q, s.Held q → (s.pages q).backing ≠ (some n, b) := by
    intro q hq hbk
    rw [hL.fileTable_of_backing hq hbk] at hf
    cases hf
  refine ⟨g.layout hL hlive hlen ?_ ?_ ?_ ?_ ?_ ?_, g.coherent h.coherent, g.frames h.frames,
    g.contents h.contents,
    g.ghost_new h.ghost (nextPage_new hL) (by rw [hpage]; rfl) (by rw [hpage]; exact hnot)⟩
  · rw [hty]
    exact fun h0 => by cases h0
  · intro _
    rw [hpage]
    refine ⟨n, rfl, ?_⟩
    show Function.update s.fileTable n (Function.update (s.fileTable n) b (some s.nextPage)) n b = _
    rw [Function.update_self, Function.update_self]
  · refine fun _ => addPte_shared g hpage fun pt e => ?_
    rw [ptesUnder_empty rfl]
    simp [hslot]
  · rw [hpage]
    refine addPte_nodup (r := s.nextPage) (fun pt e => ?_) fun pt => ?_ <;> rw [ptesUnder_empty rfl]
    · simp [hslot]
    · exact List.nodup_nil
  · rw [hpage]
    exact addPte_key fun pt hk => absurd hk (AList.notMem_empty pt)
  · rw [hty, if_neg PageType.noConfusion]
    exact hL.blocks

end Inv

end VmPager
