import VmPager.Runs.Clock

/-!
# Calls that are refused

What a call leaves behind when it is refused. A `vm_fault` that returns -1 keeps all mappings and the
page it was about. When the victim's block could not be written, the sweep is all that has happened;
when the page's block could not be read, at most one other page has left memory, and its frame is
free. A `vm_map` that returns null may have brought pages of the name in before it failed; it keeps
all mappings and the bytes of all pages.
-/

namespace VmPager

open Lib.Exec Lib.Frames Lib.SecondChance Lib.Transition

/-! ### What is kept -/

/-- The pages of every arena, the file table, the processes and the free swap blocks are as before. -/
structure KeepsMappings (s s' : State) : Prop where
  arenas : s'.arenas = s.arenas
  fileTable : s'.fileTable = s.fileTable
  pageTables : s'.pageTables = s.pageTables
  freeBlocks : s'.freeBlocks = s.freeBlocks

/-- The page and all its entries, in every process, are as before. -/
structure PageKept (s s' : State) (r : PageRef) : Prop where
  page : s'.pages r = s.pages r
  entries : ∀ {pt vpn}, s.slot pt vpn = some r → s'.pte pt vpn = s.pte pt vpn

/-- The page has lost its referenced flag, and its entries their read and write bits. -/
structure PageSwept (s s' : State) (r : PageRef) : Prop where
  page : s'.pages r = { s.pages r with referenced := false }
  entries : ∀ {pt vpn}, s.slot pt vpn = some r →
    s'.pte pt vpn = (s.pte pt vpn).map fun e => { e with readEnable := false, writeEnable := false }

/-- The page has left its frame `p`, and its block has the bytes of the frame. -/
structure PageEvicted (s s' : State) (r : PageRef) (p : ℕ) : Prop where
  owner : s.owner p = some r
  page : s'.pages r = (s.pages r).withFlags .out
  entries : ∀ {pt vpn}, s.slot pt vpn = some r → s'.pte pt vpn = some Pte.zero
  block : s'.onDisk r = s.frame p
  owner' : s'.owner p = none

/-- No page but those of `changed` has changed, but for the referenced flags the sweep has taken. -/
structure SweptBut (changed : PageRef → Prop) (s s' : State) : Prop where
  pages : ∀ {q}, ¬ changed q → PageKept s s' q ∨ PageSwept s s' q
  /-- Entries of no page. -/
  unmapped : ∀ {pt vpn}, s.slot pt vpn = none → s'.pte pt vpn = s.pte pt vpn
  /-- No page loses its bytes. -/
  content : ∀ {q}, s.Held q → s'.content q = s.content q

/-- The state after a fault that was refused because the victim's block could not be written. -/
structure WriteRefused (s s' : State) : Prop where
  failed : ∃ v r, s.owner v = some r ∧ (s.pages r).dirty = true ∧
    s'.trace = .fileWrite (s.pages r).backing.1 (s.pages r).backing.2 (v * vmPagesize) false :: s.trace
  others : SweptBut (fun _ => False) s s'
  queue : s.activePages ~r s'.activePages
  rest : s' = { s with
    activePages := s'.activePages, pages := s'.pages, tables := s'.tables, writes := s.writes.tail,
    trace := s'.trace }

/-- The block of the page cannot be read into the frame. -/
def State.readFailure (s : State) (r : PageRef) (p : ℕ) : Event :=
  .fileRead (s.pages r).backing.1 (s.pages r).backing.2 (p * vmPagesize) false

/-- The page is evicted from the frame, after it was written back if it was dirty. -/
def State.eviction (s : State) (r : PageRef) (p : ℕ) : List Event :=
  .evicted r :: if (s.pages r).dirty then
    [.fileWrite (s.pages r).backing.1 (s.pages r).backing.2 (p * vmPagesize) true] else []

/-- The state after a fault on `r` that was refused because its block could not be read into the
frame `p`. -/
structure ReadRefused (s s' : State) (r : PageRef) (p : ℕ) : Prop where
  free : p ∈ s'.freePages ∧ p ∉ s'.activePages
  frames : ∀ {q}, q ≠ p → s'.frame q = s.frame q
  /-- The frame was free, and no page has changed; or it was that of another page, which was written
  back if it was dirty. -/
  room : (s.freePages.head? = some p ∧ s'.trace = s.readFailure r p :: s.trace ∧
      s'.activePages = s.activePages ∧ (∀ q, PageKept s s' q) ∧ SweptBut (fun _ => False) s s') ∨
    (s.freePages = [] ∧ s.activePages ~r (s'.activePages ++ [p]) ∧
      ∃ v, v ≠ r ∧ PageEvicted s s' v p ∧ SweptBut (· = v) s s' ∧
        s'.trace = s.readFailure r p :: (s.eviction v p ++ s.trace))

/-- What a `vm_fault` that returns -1 leaves, for each reason. -/
inductive FaultRefused (s : State) (addr : BitVec 64) : State → Prop
  | invalid (hbad : addr < vmArenaBaseaddr ∨
      s.slot s.pageTableBaseRegister (vaToVpn addr) = none) : FaultRefused s addr s
  | write {s' : State} (h : WriteRefused s s') : FaultRefused s addr s'
  | read {s' : State} {r : PageRef} {p : ℕ}
      (hs : s.slot s.pageTableBaseRegister (vaToVpn addr) = some r) (h : ReadRefused s s' r p) :
      FaultRefused s addr s'

/-- The state after a `vm_map` that returned null. -/
structure MapRefused (s s' : State) (filename : BitVec 64) : Prop extends KeepsMappings s s' where
  /-- A page keeps its kind, its block and the entries that share it. -/
  identity : ∀ r, (s'.pages r).identity = (s.pages r).identity
  content : ∀ {r}, s.Held r → s'.content r = s.content r
  /-- The arena is full, or there is no swap block. -/
  early : filename = nullptr ∨ numPtes ≤ s.arenaSize → s' = s

/-! ### Entries follow the pages -/

section Entries

variable {hole hole' : Option ℕ} {s s' : State} (h : Inv hole s) (h' : Inv hole' s')
  (hl : SameLayout s s') {r : PageRef}
include h h' hl

lemma PageKept.of_page (hp : s'.pages r = s.pages r) : PageKept s s' r := by
  refine ⟨hp, fun {pt vpn} hs => ?_⟩
  have hs' : s'.slot pt vpn = some r := (hl.slot pt vpn).trans hs
  rw [pte_of_slot h'.layout h'.coherent hs', hp, pte_of_slot h.layout h.coherent hs]

lemma PageSwept.of_page (hp : s'.pages r = { s.pages r with referenced := false }) :
    PageSwept s s' r := by
  refine ⟨hp, fun {pt vpn} hs => ?_⟩
  have hs' : s'.slot pt vpn = some r := (hl.slot pt vpn).trans hs
  rw [pte_of_slot h'.layout h'.coherent hs', hp, pte_of_slot h.layout h.coherent hs]
  cases hres : (s.pages r).resident <;> cases href : (s.pages r).referenced <;>
    simp [Flags.pte, PageState.flags, Pte.zero, hres, href]

/-- Entries of no page. -/
lemma pte_of_unmapped {pt : Ptbr} {vpn : ℕ} (hs : s.slot pt vpn = none) :
    s'.pte pt vpn = s.pte pt vpn := by
  have hs' : s'.slot pt vpn = none := (hl.slot pt vpn).trans hs
  have ht := hl.tables pt
  rw [Coherent.pte h'.coherent, Coherent.pte h.coherent, State.pteFor, State.pteFor, hs, hs']
  cases hpt : s.tables pt <;> cases hpt' : s'.tables pt <;> simp_all

end Entries

/-- The pages after a sweep. -/
lemma swept_page_cases (s : State) (v : ℕ) (passed rest : List ℕ) (q : PageRef) :
    (s.swept v passed rest).pages q = s.pages q ∨
      (s.swept v passed rest).pages q = { s.pages q with referenced := false } := by
  by_cases hall : ∀ p ∈ passed, s.owner p ≠ some q
  · left
    show (s.unrefAll passed).pages q = _
    rw [unrefAll_page, decide_eq_true hall, Bool.and_true]
    rfl
  · right
    show (s.unrefAll passed).pages q = _
    rw [unrefAll_page, decide_eq_false hall, Bool.and_false]
    rfl

/-! ### A fault -/

section Fault

variable {s : State} (h : Inv none s)
include h

/-- **There is no frame**: the sweep has passed over some pages, and a write has failed. -/
theorem writeRefused_takeFrame (h0 : s.takeFrame.1 = 0) : WriteRefused s s.takeFrame.2 := by
  have hm := h.takeFrame.1
  have hinv := h.takeFrame_none h0
  rcases takeFrame_cases h with ⟨p, rest, hfree, htake⟩ | ⟨v, passed, rest, r, -, hsw, ho, -, htake⟩
  · -- a free frame is not the zero frame
    rw [htake] at h0
    exact absurd h0 (h.frames.free_pos (by simp [hfree])).1
  · have hv := (h.frames.owner_pos ho).1
    have ho' : (s.swept v passed rest).owner v = some r := by rw [swept_owner, ho]
    have hrot := sweep_isRotated hsw
    have hl : SameLayout s (s.swept v passed rest) := (h.swept hrot.perm.symm).2.layout
    have htr : (s.swept v passed rest).trace = s.trace := unrefAll_trace s passed
    rcases evictFrom_cases ho' with ⟨-, he⟩ | ⟨-, -, he⟩ | ⟨hd, -, he⟩
    · rw [htake, he] at h0
      exact absurd h0 hv
    · rw [htake, he] at h0
      exact absurd h0 hv
    · have hs' : s.takeFrame.2 = (s.swept v passed rest).writeFailed r v := by rw [htake, he]
      rw [hs'] at hm hinv ⊢
      rw [swept_dirty] at hd
      refine ⟨⟨v, r, ho, hd, ?_⟩, ⟨fun {q} _ => ?_, fun hs => pte_of_unmapped h hinv hm.layout hs,
        hm.content⟩, hrot, ?_⟩
      · rw [State.writeFailed_trace, htr, hl.backing]
      · rcases swept_page_cases s v passed rest q with hq | hq
        · exact .inl (.of_page h hinv hm.layout hq)
        · exact .inr (.of_page h hinv hm.layout hq)
      · unfold State.swept
        rw [unrefAll_eq]
        rfl

/-- What an eviction that finds the frame leaves: the page `r` is out of memory, and the others are as
the sweep leaves them. -/
structure Vacated (s t : State) (r : PageRef) (v : ℕ) (rest : List ℕ) : Prop where
  activePages : t.activePages = rest ++ [v]
  out : (t.pages r).flags = .out
  others : ∀ {q}, q ≠ r → t.pages q = s.pages q ∨ t.pages q = { s.pages q with referenced := false }
  trace : t.trace = s.eviction r v ++ s.trace

omit h in
theorem vacated_evictFrom {v : ℕ} {passed rest : List ℕ} {r : PageRef} (ho : s.owner v = some r)
    (hl : SameLayout s (s.swept v passed rest))
    (hne : ((s.swept v passed rest).evictFrom v).1 ≠ 0) :
    ((s.swept v passed rest).evictFrom v).1 = v ∧
      Vacated s ((s.swept v passed rest).evictFrom v).2 r v rest := by
  have ho' : (s.swept v passed rest).owner v = some r := by rw [swept_owner, ho]
  have hothers : ∀ {q}, q ≠ r → ((s.swept v passed rest).evictFrom v).2.pages q = s.pages q ∨
      ((s.swept v passed rest).evictFrom v).2.pages q = { s.pages q with referenced := false } := by
    intro q hq
    rw [evictFrom_page ho' hq]
    exact swept_page_cases s v passed rest q
  have hactive : ((s.swept v passed rest).evictFrom v).2.activePages = rest ++ [v] :=
    evictFrom_activePages ho'
  have htr : (s.swept v passed rest).trace = s.trace := unrefAll_trace s passed
  obtain ⟨hv, hout⟩ := evictFrom_found ho' hne
  refine ⟨hv, hactive, hout, hothers, ?_⟩
  rcases evictFrom_cases ho' with ⟨hd, he⟩ | ⟨hd, -, he⟩ | ⟨-, -, he⟩
  · rw [swept_dirty] at hd
    rw [he, State.dropPage_trace, htr, State.eviction, hd]
    rfl
  · rw [swept_dirty] at hd
    rw [he, State.dropPage_trace, State.wrote_trace, htr, hl.backing, State.eviction, hd]
    rfl
  · rw [he] at hne
    exact absurd rfl hne

omit h in
/-- When there is a frame and no block in it, the read has failed. -/
lemma loadBlock_failed {bk : Option Name × ℕ} (hne : s.takeFrame.1 ≠ 0) (h0 : (s.loadBlock bk).1 = 0) :
    ∃ left, (s.loadBlock bk).2 = s.takeFrame.2.readFailed bk s.takeFrame.1 left := by
  unfold State.loadBlock at h0 ⊢
  rw [if_neg hne] at h0 ⊢
  cases hreads : s.takeFrame.2.reads.head with
  | success =>
    rw [hreads] at h0
    exact absurd h0 hne
  | failure left => exact ⟨left, rfl⟩

omit h in
/-- The frame that was taken is not active again. -/
lemma activePages_readFailed {t : State} {bk : Option Name × ℕ} {v : ℕ} {left : Page} {q : PageRef}
    {rest : List ℕ} (hvac : Vacated s t q v rest) (hhole : Inv (some v) t) :
    (t.readFailed bk v left).activePages = rest := by
  have hnot : v ∉ rest := by
    have hnd := hhole.frames.active_nodup
    rw [hvac.activePages] at hnd
    exact fun hv => (List.nodup_append.1 hnd).2.2 v hv v (by simp) rfl
  rw [State.readFailed_activePages, hvac.activePages, List.erase_append_right _ hnot,
    List.erase_cons_head, List.append_nil]

section ReadFailed

variable {t : State} {bk : Option Name × ℕ} {v : ℕ} {left : Page}
  (hinv : Inv none (t.readFailed bk v left)) (hev : Evolves s (t.readFailed bk v left))
  {q : PageRef} {rest : List ℕ} (hvac : Vacated s t q v rest)
include hinv hev hvac

/-- The page whose frame was taken is out of memory. -/
lemma evicted_readFailed (hhole : Inv (some v) t) (ho : s.owner v = some q) :
    PageEvicted s (t.readFailed bk v left) q v := by
  have hout : ((t.readFailed bk v left).pages q).flags = .out := hvac.out
  refine ⟨ho, ?_, fun {pt vpn} hs => ?_, ?_, ?_⟩
  · rw [hev.layout.page q, hout]
  · rw [pte_of_slot hinv.layout hinv.coherent ((hev.layout.slot pt vpn).trans hs), hout]
    rfl
  · -- the bytes of the page are those of its frame before, and of its block now
    have hc := hev.content (h.frames.owner_held ho)
    have hf := h.frames.owner_framed ho
    have hres : ((t.readFailed bk v left).pages q).resident = false := congrArg Flags.resident hout
    rw [State.content, hres, if_neg Bool.false_ne_true, State.content, if_pos hf.1,
      h.frames.owner_ppn ho] at hc
    exact hc
  · rw [owner_set (p := v) (o := none) rfl (hhole.frames.phys_lt (hhole.frames.hole_active rfl)),
      if_pos rfl]

/-- The others are as the sweep left them. -/
lemma swept_readFailed : SweptBut (· = q) s (t.readFailed bk v left) where
  pages {x} hx := by
    rcases hvac.others hx with hq | hq
    · exact .inl (.of_page h hinv hev.layout hq)
    · exact .inr (.of_page h hinv hev.layout hq)
  unmapped hs := pte_of_unmapped h hinv hev.layout hs
  content := hev.content

end ReadFailed

/-- **A block cannot be read into its frame.** -/
theorem readRefused_loadBlock {r : PageRef} (hr : s.Held r) (hout : (s.pages r).resident = false)
    (hne : s.takeFrame.1 ≠ 0) (h0 : (s.loadBlock (s.pages r).backing).1 = 0) :
    ReadRefused s (s.loadBlock (s.pages r).backing).2 r s.takeFrame.1 := by
  obtain ⟨hev, -, hfail, -, -⟩ := h.loadBlock hr hout
  have hinv := hfail h0
  have hm := h.takeFrame.1
  have hhole := h.takeFrame_hole hne
  obtain ⟨left, hs'⟩ := loadBlock_failed hne h0
  rw [hs'] at hev hinv ⊢
  refine ⟨⟨?_, hhole.frames.active_nodup.not_mem_erase⟩, fun {q} hq => ?_, ?_⟩
  · simp
  · rw [frame_store_ne rfl hq, frame_congr hm.physmem]
  rcases takeFrame_cases h with ⟨p, rest, hfree, htake⟩ | ⟨v, passed, rest, q, hfree, hsw, ho, -, htake⟩
  · left
    rw [htake] at hinv hev ⊢
    have hnot : p ∉ s.activePages := by
      have hnd := h.frames.queues_nodup
      rw [hfree] at hnd
      exact fun ha => (List.nodup_cons.1 hnd).1 (List.mem_append_right _ ha)
    have hkept : ∀ q, PageKept s _ q := fun q => .of_page h hinv hev.layout rfl
    refine ⟨by rw [hfree]; rfl, rfl, ?_, hkept, fun {q} _ => .inl (hkept q),
      fun hs => pte_of_unmapped h hinv hev.layout hs, hev.content⟩
    show (s.activePages ++ [p]).erase p = s.activePages
    rw [List.erase_append_right _ hnot, List.erase_cons_head, List.append_nil]
  · right
    have hrot := sweep_isRotated hsw
    have hl : SameLayout s (s.swept v passed rest) := (h.swept hrot.perm.symm).2.layout
    have hqr : q ≠ r := by
      rintro rfl
      rw [(h.frames.owner_framed ho).1] at hout
      cases hout
    have hfound := vacated_evictFrom ho hl (htake ▸ hne)
    rw [← htake] at hfound
    obtain ⟨hp, hvac⟩ := hfound
    rw [hp] at hhole hinv hev ⊢
    refine ⟨hfree, ?_, q, hqr, evicted_readFailed h hinv hev hvac hhole ho,
      swept_readFailed h hinv hev hvac, ?_⟩
    · rw [activePages_readFailed hvac hhole]
      exact hrot
    · rw [State.readFailed_trace, hvac.trace]
      rfl

/-- **A fault that is refused** keeps its page, and says why it was refused. -/
theorem refused_faultPage {r : PageRef} (hr : s.Held r) {w : Bool} (hres : (s.faultPage r w).1 = -1) :
    (s.faultPage r w).2.pages r = s.pages r ∧
      (WriteRefused s (s.faultPage r w).2 ∨ ∃ p, ReadRefused s (s.faultPage r w).2 r p) := by
  unfold State.faultPage at hres ⊢
  cases hin : (s.pages r).resident with
  | true =>
    rw [hin, if_pos rfl] at hres
    rw [if_pos rfl]
    by_cases hppn : (s.pages r).ppn = 0
    · -- a fresh page
      rw [if_pos hppn] at hres ⊢
      by_cases h0 : s.takeFrame.1 = 0
      · rw [if_pos h0]
        exact ⟨h.takeFrame.1.frameless hr fun hf => hf.2 hppn, .inl (writeRefused_takeFrame h h0)⟩
      · rw [if_neg h0] at hres
        cases hres
    · rw [if_neg hppn] at hres
      cases hres
  | false =>
    rw [hin, if_neg Bool.false_ne_true] at hres
    rw [if_neg Bool.false_ne_true]
    by_cases h0 : (s.loadBlock (s.pages r).backing).1 = 0
    · rw [if_pos h0]
      refine ⟨(h.loadBlock hr hin).page, ?_⟩
      by_cases hz : s.takeFrame.1 = 0
      · have hload : (s.loadBlock (s.pages r).backing).2 = s.takeFrame.2 := by
          rw [State.loadBlock, if_pos hz]
        rw [hload]
        exact .inl (writeRefused_takeFrame h hz)
      · exact .inr ⟨_, readRefused_loadBlock h hr hin hz h0⟩
    · rw [if_neg h0] at hres
      cases hres

/-- **What a `vm_fault` that returns -1 leaves.** -/
theorem refused_vmFault {addr : BitVec 64} {w : Bool} {s' : State}
    (hrun : vmFault addr w s = .ok (-1, s')) :
    KeepsMappings s s' ∧
    (∀ {r}, s.slot s.pageTableBaseRegister (vaToVpn addr) = some r → PageKept s s' r) ∧
    FaultRefused s addr s' := by
  by_cases hbad : addr < vmArenaBaseaddr ∨ s.slot s.pageTableBaseRegister (vaToVpn addr) = none
  · rw [vmFault_invalid h hbad] at hrun
    cases hrun
    exact ⟨⟨rfl, rfl, rfl, rfl⟩, fun _ => ⟨rfl, fun _ => rfl⟩, .invalid hbad⟩
  · obtain ⟨hbase, hnone⟩ := not_or.1 hbad
    obtain ⟨r, hs⟩ := Option.ne_none_iff_exists'.1 hnone
    have hr : s.Held r := .inl ⟨_, _, hs⟩
    cases hden : (s.currentPte (vaToVpn addr)).permits w with
    | true => exact absurd (vmFault_permitted h hbase hs hden hrun) (by decide)
    | false =>
      rw [vmFault_eq h hbase hs hden, Except.ok.injEq] at hrun
      have hres : (s.faultPage r w).1 = -1 := congrArg Prod.fst hrun
      have hs' : (s.faultPage r w).2 = s' := congrArg Prod.snd hrun
      rw [(currentPte_eq h hs).1] at hden
      obtain ⟨hinv, hev⟩ := h.faultDenied hs hden
      obtain ⟨hpage, hcause⟩ := refused_faultPage h hr hres
      rw [hs'] at hinv hev hpage hcause
      refine ⟨⟨hev.layout.arenas, hev.layout.fileTable, hev.layout.pageTables, hev.layout.freeBlocks⟩,
        fun {q} hq => ?_, ?_⟩
      · obtain rfl := Option.some.inj (hs.symm.trans hq)
        exact .of_page h hinv hev.layout hpage
      · rcases hcause with hw | ⟨p, hread⟩
        · exact .write hw
        · exact .read hs hread

/-- **What a `vm_map` that returns null leaves.** -/
theorem refused_vmMap (hlive : s.Running) {filename : BitVec 64} {block : ℕ} {s' : State}
    (hrun : vmMap filename block s = .ok (nullptr, s')) : MapRefused s s' filename := by
  have hm := (vmMap_spec h hlive filename block).elim hrun
  rcases hm.steps h with ⟨-, hev⟩ | ⟨hne, -⟩
  · refine ⟨⟨hev.layout.arenas, hev.layout.fileTable, hev.layout.pageTables, hev.layout.freeBlocks⟩,
      hev.layout.pages, hev.content, fun hearly => ?_⟩
    generalize hva : nullptr = va at hm
    cases hm with
    | full => rfl
    | noBlock => rfl
    | swap hlen => exact absurd hva.symm (nextVa_ne_nullptr hlen)
    | noName hlen hname =>
      rcases hearly with hnull | hfull
      · exact absurd hnull hname
      · exact absurd hlen (Nat.not_lt.2 hfull)
    | known hlen => exact absurd hva.symm (nextVa_ne_nullptr hlen)
    | new hlen => exact absurd hva.symm (nextVa_ne_nullptr hlen)
  · exact absurd rfl hne

end Fault

/-- **A call that is refused is undone**, but for the sweep and one eviction. -/
theorem refused_call_undone {u : Setup} {k : Kernel} (h : (system u).Reachable k) :
    (∀ {addr w s'}, vmFault addr w k.pager = .ok (-1, s') →
      KeepsMappings k.pager s' ∧
      (∀ {r}, k.pager.slot k.pager.pageTableBaseRegister (vaToVpn addr) = some r →
        PageKept k.pager s' r) ∧
      FaultRefused k.pager addr s') ∧
    (k.current.isSome → ∀ {filename block s'}, vmMap filename block k.pager = .ok (nullptr, s') →
      MapRefused k.pager s' filename) := by
  have hsound := Sound.reachable h
  exact ⟨refused_vmFault hsound.inv, fun hcur => refused_vmMap hsound.inv (hsound.running hcur)⟩

/-- Every `file_write` fails, and process 1 has stored to the page in the only frame. -/
def Kernel.stuck : Kernel :=
  Setup.stuck.kernel [.create 0 1 10, .switch 1, .map nullptr 0, .map nullptr 0,
    .fault (vpnToVa 0) true, .store 0 ⟨0, vmPagesize_pos⟩ 97] (by decide +kernel)

/-- The other page faults, and the first cannot be evicted; a name past the pages cannot be read. -/
theorem refused_call_undone_stuck :
    (∃ s', vmFault (vpnToVa 1) true Kernel.stuck.pager = .ok (-1, s') ∧
      KeepsMappings Kernel.stuck.pager s' ∧ FaultRefused Kernel.stuck.pager (vpnToVa 1) s') ∧
    ∃ s', vmMap (vpnToVa 2) 0 Kernel.stuck.pager = .ok (nullptr, s') ∧
      MapRefused Kernel.stuck.pager s' (vpnToVa 2) := by
  have hreach : (system .stuck).Reachable Kernel.stuck := Setup.stuck.kernel_reachable _ _
  obtain ⟨hfault, hmap⟩ := refused_call_undone hreach
  obtain ⟨s₁, h₁⟩ := ok_of_gives (x := vmFault (vpnToVa 1) true) (a := -1) (s := Kernel.stuck.pager)
    (by decide +kernel)
  obtain ⟨s₂, h₂⟩ := ok_of_gives (x := vmMap (vpnToVa 2) 0) (a := nullptr) (s := Kernel.stuck.pager)
    (by decide +kernel)
  exact ⟨⟨s₁, h₁, (hfault h₁).1, (hfault h₁).2.2⟩, s₂, h₂, hmap (by decide +kernel) h₂⟩

end VmPager
