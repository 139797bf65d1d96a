import VmPager.Core.Step

/-!
# The moves of the pager

`Reclaim` lists the ends of a search for a frame and `FaultEnd` those of a fault. A call is a sequence
of faults on the current arena (those of `get_filename`, or the one of `vm_fault`) and at most one act
after them (`Outcome.split`). Faults and acts are the moves: what every move respects, whole runs
respect (`reaches_moves`, `reachable_invariant`).
-/

namespace VmPager

open Lib.Exec Lib.SecondChance Lib.Transition

/-! ### The ends of a search -/

section Swept

variable (s : State) (v : ℕ) (passed rest : List ℕ)

@[simp] lemma swept_trace : (s.swept v passed rest).trace = s.trace := unrefAll_trace s passed
@[simp] lemma swept_writes : (s.swept v passed rest).writes = s.writes := unrefAll_writes s passed
@[simp] lemma swept_activePages : (s.swept v passed rest).activePages = rest ++ [v] := rfl
@[simp] lemma swept_freePages : (s.swept v passed rest).freePages = s.freePages := by
  rw [State.swept, unrefAll_eq]
  rfl
@[simp] lemma swept_disk : (s.swept v passed rest).disk = s.disk := by
  rw [State.swept, unrefAll_eq]
  rfl

@[simp] lemma swept_backing (r : PageRef) :
    ((s.swept v passed rest).pages r).backing = (s.pages r).backing := by
  rw [State.swept, State.setActive_pages, unrefAll_page, withFlags_backing]

/-- The frames passed over have lost their marks. -/
lemma swept_marked {s : State} (h : Frames none s) (v : ℕ) (passed rest : List ℕ) :
    (s.swept v passed rest).marked = unmark s.marked passed := by
  funext p
  simp only [unmark, State.marked, swept_owner]
  cases ho : s.owner p with
  | none => rfl
  | some r =>
    have hd : (∀ q ∈ passed, s.owner q ≠ some r) ↔ p ∉ passed := by
      constructor
      · exact fun hall hp => hall p hp ho
      · rintro hp q hq hoq
        rw [← h.owner_ppn ho, h.owner_ppn hoq] at hp
        exact hp hq
    show ((s.unrefAll passed).pages r).referenced = ((s.pages r).referenced && decide (p ∉ passed))
    rw [unrefAll_page, decide_eq_decide.2 hd]
    rfl

/-- What a write-back and an eviction leave in the history. -/
lemma written_trace (r : PageRef) : (((s.swept v passed rest).wrote r v).dropPage r v).trace =
    [.evicted r, .fileWrite (s.pages r).backing.1 (s.pages r).backing.2 (v * vmPagesize) true] ++
      s.trace := by
  rw [State.dropPage_trace, State.wrote_trace, swept_trace, swept_backing]
  rfl

/-- And on disk. -/
lemma written_disk (r : PageRef) : (((s.swept v passed rest).wrote r v).dropPage r v).disk =
    Function.update s.disk (s.pages r).backing.1
      (Function.update (s.disk (s.pages r).backing.1) (s.pages r).backing.2 (s.frame v)) := by
  have hframe : (s.swept v passed rest).frame v = s.frame v := by
    rw [State.swept, unrefAll_eq]
    rfl
  rw [← swept_backing s v passed rest, ← hframe, ← swept_disk s v passed rest]
  rfl

/-- What a write-back that fails leaves in the history. -/
lemma stuck_trace (r : PageRef) : ((s.swept v passed rest).writeFailed r v).trace =
    .fileWrite (s.pages r).backing.1 (s.pages r).backing.2 (v * vmPagesize) false :: s.trace := by
  rw [State.writeFailed_trace, swept_trace, swept_backing]

end Swept

/-- No frame is free, and the clock's sweep ends at the frame `v`, which has the page `r`. -/
structure State.Search (s : State) (v : ℕ) (passed rest : List ℕ) (r : PageRef) : Prop where
  full : s.freePages = []
  sweep : sweep (s.activePages.length + 1) s.marked s.activePages = some (v, passed, rest)
  owner : s.owner v = some r

/-- The sweep only turns the queue. -/
lemma State.Search.rotated {s : State} {v : ℕ} {passed rest : List ℕ} {r : PageRef}
    (hs : s.Search v passed rest r) : s.activePages ~r (rest ++ [v]) :=
  sweep_isRotated hs.sweep

/-- The victim of the search is still in memory after the sweep. -/
lemma State.Search.owner_swept {s : State} {v : ℕ} {passed rest : List ℕ} {r : PageRef}
    (hs : s.Search v passed rest r) : (s.swept v passed rest).owner v = some r := by
  rw [swept_owner, hs.owner]

lemma State.Search.inv {s : State} {v : ℕ} {passed rest : List ℕ} {r : PageRef}
    (hs : s.Search v passed rest r) (h : Inv none s) : Inv none (s.swept v passed rest) :=
  (h.swept hs.rotated.perm.symm).1

/-- How a search for a frame ends: the frame, 0 when there is none, and the state. -/
inductive Reclaim (s : State) : ℕ → State → Prop
  | free {p : ℕ} {rest : List ℕ} (hfree : s.freePages = p :: rest) :
      Reclaim s p (s.takeFree p rest)
  | clean {v : ℕ} {passed rest : List ℕ} {r : PageRef} (hs : s.Search v passed rest r)
      (hd : (s.pages r).dirty = false) : Reclaim s v ((s.swept v passed rest).dropPage r v)
  | written {v : ℕ} {passed rest : List ℕ} {r : PageRef} (hs : s.Search v passed rest r)
      (hd : (s.pages r).dirty = true) (hw : s.writes.head = true) :
      Reclaim s v (((s.swept v passed rest).wrote r v).dropPage r v)
  | stuck {v : ℕ} {passed rest : List ℕ} {r : PageRef} (hs : s.Search v passed rest r)
      (hd : (s.pages r).dirty = true) (hw : s.writes.head = false) :
      Reclaim s 0 ((s.swept v passed rest).writeFailed r v)

/-- **A search ends in one of the four ways.** -/
theorem Inv.reclaim {s : State} (h : Inv none s) : Reclaim s s.takeFrame.1 s.takeFrame.2 := by
  rcases takeFrame_cases h with
    ⟨p, rest, hfree, htake⟩ | ⟨v, passed, rest, r, hfree, hsw, ho, -, htake⟩
  · rw [htake]
    exact .free hfree
  · have hs : s.Search v passed rest r := ⟨hfree, hsw, ho⟩
    have ho' : (s.swept v passed rest).owner v = some r := by rw [swept_owner, ho]
    have hw := swept_writes s v passed rest
    have hd := swept_dirty s v passed rest r
    rw [htake]
    rcases evictFrom_cases ho' with ⟨hdirty, he⟩ | ⟨hdirty, hwrite, he⟩ | ⟨hdirty, hwrite, he⟩
    · rw [he]
      exact .clean hs (hd ▸ hdirty)
    · rw [he]
      exact .written hs (hd ▸ hdirty) (hw ▸ hwrite)
    · rw [he]
      exact .stuck hs (hd ▸ hdirty) (hw ▸ hwrite)

/-! ### The ends of a fault -/

/-- How a fault on the page `r` ends: what `vm_fault` returns, and the state. -/
inductive FaultEnd (s : State) (r : PageRef) (w : Bool) : ℤ → State → Prop
  | touched (hf : (s.pages r).Framed) : FaultEnd s r w 0 (s.touch r w)
  | noFrame {t : State} (hf : ¬ (s.pages r).Framed) (hr : Reclaim s 0 t) : FaultEnd s r w (-1) t
  | zeroed {p : ℕ} {t : State} (hf : ¬ (s.pages r).Framed) (hp : p ≠ 0) (hr : Reclaim s p t)
      (hw : w = true) (hres : (s.pages r).resident = true) :
      FaultEnd s r w 0 ((t.zeroFrame p).fill r p true w)
  | loaded {p : ℕ} {t : State} (hf : ¬ (s.pages r).Framed) (hp : p ≠ 0) (hr : Reclaim s p t)
      (hread : s.reads.head = .success) (hres : (s.pages r).resident = false) :
      FaultEnd s r w 0 ((t.readInto (s.pages r).backing p).fill r p w w)
  | unread {p : ℕ} {t : State} {left : Page} (hf : ¬ (s.pages r).Framed) (hp : p ≠ 0)
      (hr : Reclaim s p t) (hread : s.reads.head = .failure left)
      (hres : (s.pages r).resident = false) :
      FaultEnd s r w (-1) (t.readFailed (s.pages r).backing p left)

/-- **A fault ends in one of the five ways.** -/
theorem Inv.faultEnd {s : State} (h : Inv none s) {r : PageRef} {w : Bool}
    (hfresh : (s.pages r).resident = true → (s.pages r).ppn = 0 → w = true) :
    FaultEnd s r w (s.faultPage r w).1 (s.faultPage r w).2 := by
  have hr := h.reclaim
  have hreads := h.takeFrame.1.reads
  unfold State.faultPage
  cases hres : (s.pages r).resident with
  | true =>
    by_cases hppn : (s.pages r).ppn = 0
    · have hf : ¬ (s.pages r).Framed := fun hf => hf.2 hppn
      by_cases h0 : s.takeFrame.1 = 0
      · rw [h0] at hr
        simp only [if_true, hppn, h0]
        exact .noFrame hf hr
      · simp only [if_true, hppn, h0, if_false]
        exact .zeroed hf h0 hr (hfresh hres hppn) hres
    · simp only [if_true, hppn, if_false]
      exact .touched ⟨hres, hppn⟩
  | false =>
    have hf : ¬ (s.pages r).Framed := fun hf => by simp [hf.1] at hres
    unfold State.loadBlock
    by_cases h0 : s.takeFrame.1 = 0
    · rw [h0] at hr
      simp only [Bool.false_eq_true, if_false, h0, if_true]
      exact .noFrame hf hr
    · rw [hreads]
      cases hhead : s.reads.head with
      | success =>
        simp only [Bool.false_eq_true, if_false, h0]
        exact .loaded hf h0 hr hhead hres
      | failure left =>
        simp only [Bool.false_eq_true, if_false, h0, if_true]
        exact .unread hf h0 hr hhead hres

/-- A search is the one of `State.takeFrame`. -/
lemma Reclaim.eq {s t : State} {p : ℕ} (hr : Reclaim s p t) : s.takeFrame = (p, t) := by
  cases hr with
  | free hfree => simp only [State.takeFrame, hfree]
  | @clean v passed rest r hs hd =>
    have ho := hs.owner_swept
    simp only [State.takeFrame, hs.full, hs.sweep, State.evictFrom, ho, swept_dirty, hd,
      Bool.false_eq_true, if_false]
  | @written v passed rest r hs hd hw =>
    have ho := hs.owner_swept
    have hw' : (s.swept p passed rest).writes.head = true := by
      rw [swept_writes, hw]
    simp only [State.takeFrame, hs.full, hs.sweep, State.evictFrom, ho, swept_dirty, hd, hw', if_true]
  | @stuck v passed rest r hs hd hw =>
    have ho := hs.owner_swept
    have hw' : (s.swept v passed rest).writes.head = false := by
      rw [swept_writes, hw]
    simp only [State.takeFrame, hs.full, hs.sweep, State.evictFrom, ho, swept_dirty, hd, hw', if_true,
      Bool.false_eq_true, if_false]

/-- There is no frame when the victim cannot be written back, and only then. -/
lemma Reclaim.of_zero {s t : State} (h : Inv none s) (hr : Reclaim s 0 t) :
    ∃ v passed rest r, s.Search v passed rest r ∧ (s.pages r).dirty = true ∧
      s.writes.head = false ∧ t = (s.swept v passed rest).writeFailed r v := by
  generalize hp : 0 = p at hr
  cases hr with
  | @free p rest hfree => exact absurd hp.symm (h.frames.free_pos (p := p) (by simp [hfree])).1
  | clean hs => exact absurd hp.symm (h.frames.owner_pos hs.owner).1
  | written hs => exact absurd hp.symm (h.frames.owner_pos hs.owner).1
  | stuck hs hd hw => exact ⟨_, _, _, _, hs, hd, hw, rfl⟩

theorem Reclaim.room {s t : State} {p : ℕ} (hr : Reclaim s p t) (h : Inv none s) :
    RoomMade s (p, t) :=
  hr.eq ▸ h.takeFrame

/-- A fault is the one of `State.faultPage`. -/
lemma FaultEnd.eq {s s' : State} (h : Inv none s) {r : PageRef} {w : Bool} {res : ℤ}
    (hend : FaultEnd s r w res s') : s.faultPage r w = (res, s') := by
  unfold State.faultPage
  cases hend with
  | touched hf => rw [if_pos hf.1, if_neg hf.2]
  | noFrame hf hr =>
    have htake := hr.eq
    by_cases hres : (s.pages r).resident = true
    · have hppn : (s.pages r).ppn = 0 := not_not.1 fun hppn => hf ⟨hres, hppn⟩
      rw [if_pos hres, if_pos hppn, htake, if_pos rfl]
    · rw [if_neg hres, State.loadBlock, htake, if_pos rfl, if_pos rfl]
  | zeroed hf hp hr hw hres =>
    have htake := hr.eq
    have hppn : (s.pages r).ppn = 0 := not_not.1 fun hppn => hf ⟨hres, hppn⟩
    rw [if_pos hres, if_pos hppn, htake, if_neg hp]
  | @loaded p t hf hp hr hread hres =>
    have htake := hr.eq
    have hreads : t.reads = s.reads := (hr.room h).1.reads
    simp only [hres, Bool.false_eq_true, if_false, State.loadBlock, htake, hp, hreads, hread]
  | @unread p t left hf hp hr hread hres =>
    have htake := hr.eq
    have hreads : t.reads = s.reads := (hr.room h).1.reads
    simp only [hres, Bool.false_eq_true, if_false, State.loadBlock, htake, hp, hreads, hread, if_true]

/-! ### Faults -/

/-- A fault on an access that the entry of a page of the current arena denies. -/
inductive PageFault (s : State) : State → Prop
  | intro {vpn : ℕ} {r : PageRef} {w : Bool} {res : ℤ} {s' : State}
      (hs : s.slot s.pageTableBaseRegister vpn = some r)
      (hden : (s.pages r).flags.pte.permits w = false) (hend : FaultEnd s r w res s')
      (inv : Inv none s') (evolves : Evolves s s') : PageFault s s'

theorem PageFault.inv {s s' : State} (hf : PageFault s s') : Inv none s' := by
  cases hf with
  | intro _ _ _ h' => exact h'

theorem PageFault.evolves {s s' : State} (hf : PageFault s s') : Evolves s s' := by
  cases hf with
  | intro _ _ _ _ hev => exact hev

theorem Inv.pageFault {s : State} (h : Inv none s) {vpn : ℕ} {r : PageRef} {w : Bool}
    (hs : s.slot s.pageTableBaseRegister vpn = some r)
    (hden : (s.pages r).flags.pte.permits w = false) : PageFault s (s.faultPage r w).2 := by
  obtain ⟨h', hev⟩ := h.faultDenied hs hden
  exact .intro hs hden (h.faultEnd (fresh_of_denied h (.inl ⟨_, _, hs⟩) hden)) h' hev

/-- Faults, one after the other. -/
abbrev Faults : State → State → Prop := Relation.ReflTransGen PageFault

theorem Inv.faults {s s' : State} (h : Inv none s) (hf : Faults s s') :
    Inv none s' ∧ Evolves s s' := by
  induction hf with
  | refl => exact ⟨h, Evolves.refl s⟩
  | tail _ hlast ih => exact ⟨hlast.inv, ih.2.trans hlast.evolves⟩

/-- **The rule for faults**, of which all but bytes may be changed by the ones before. -/
theorem Faults.preserves {R : State → State → Prop} (hrefl : ∀ s, R s s)
    (htrans : ∀ a b c, Evolves a b → Evolves b c → R a b → R b c → R a c)
    (hfault : ∀ s s', Inv none s → PageFault s s' → R s s') {s s' : State} (h : Inv none s)
    (hf : Faults s s') : R s s' := by
  induction hf with
  | refl => exact hrefl s
  | tail hf hlast ih =>
    obtain ⟨h₁, hev⟩ := h.faults hf
    exact htrans _ _ _ hev hlast.evolves ih (hfault _ _ h₁ hlast)

/-! ### Acts -/

/-- What a call does to the state but for faults. -/
inductive Act (s : State) : State → Prop
  | create {pid : Pid} {pt : Ptbr} (hpid : s.pageTables.lookup pid = none)
      (hpt : s.tables pt = none) : Act s (s.created pid pt)
  | switch {pid : Pid} {pt : Ptbr} (hpid : s.pageTables.lookup pid = some pt) :
      Act s (s.switched pt)
  | swap {b : ℕ} {rest : List ℕ} (hlive : s.Running) (hlen : s.arenaSize < numPtes)
      (hfree : s.freeBlocks = b :: rest) : Act s (s.mapSwap b rest)
  | known {n : Name} {b : ℕ} {r : PageRef} (hlive : s.Running) (hlen : s.arenaSize < numPtes)
      (hf : s.fileTable n b = some r) : Act s (s.mapKnown r)
  | new {n : Name} {b : ℕ} (hlive : s.Running) (hlen : s.arenaSize < numPtes)
      (hf : s.fileTable n b = none) : Act s (s.mapNew n b)
  | destroy {pid : Pid} (order : IterOrder)
      (hpid : s.pageTables.lookup pid = some s.pageTableBaseRegister) :
      Act s (s.destroyed pid (order.iter (s.frameSet (s.arenas s.pageTableBaseRegister))))
  | store {vpn : ℕ} {r : PageRef} (hs : s.slot s.pageTableBaseRegister vpn = some r)
      (hf : (s.pages r).Framed) (hd : (s.pages r).dirty = true) (offset : Fin vmPagesize)
      (byte : UInt8) : Act s (s.stored (s.pages r).ppn offset byte)

theorem Inv.act {s s' : State} (h : Inv none s) (ha : Act s s') : Inv none s' := by
  cases ha with
  | create hpid hpt => exact h.created hpid hpt
  | switch => exact h.switched _
  | swap hlive hlen hfree => exact h.mapSwap hlive hlen hfree
  | known hlive hlen hf => exact h.mapKnown hlive hlen hf
  | new hlive hlen hf => exact h.mapNew hlive hlen hf
  | destroy order hpid => exact h.destroyed hpid (IterOrder.perm _ _)
  | store hs hf hd => exact h.stored (.inl ⟨_, _, hs⟩) hf _ _ hd

section Act

variable {s s' : State} (h : Inv none s)

/-- An act records at most a mapping. -/
lemma Act.trace (ha : Act s s') :
    s'.trace = s.trace ∨ ∃ r n b, s'.trace = .mapped r n b :: s.trace := by
  cases ha with
  | swap => exact .inr ⟨_, _, _, rfl⟩
  | new => exact .inr ⟨_, _, _, rfl⟩
  | _ => exact .inl rfl

/-- An act leaves the blocks and the outcomes of the disk calls to come. -/
lemma Act.infrastructure (ha : Act s s') :
    s'.disk = s.disk ∧ s'.writes = s.writes ∧ s'.reads = s.reads := by
  cases ha <;> exact ⟨rfl, rfl, rfl⟩

lemma Act.nextPage (ha : Act s s') : s.nextPage ≤ s'.nextPage := by
  cases ha with
  | swap => exact Nat.le_succ _
  | new => exact Nat.le_succ _
  | _ => exact le_rfl

/-- An act leaves the pages that there are, but for their shared entries. -/
lemma Act.page (ha : Act s s') {q : PageRef} (hq : q < s.nextPage) :
    ∃ ptes, s'.pages q = { s.pages q with sharedPtes := ptes } := by
  cases ha with
  | swap => exact ⟨_, by rw [State.mapSwap_pages, Function.update_of_ne hq.ne]⟩
  | @known n b r =>
    rw [State.mapKnown_pages, Function.update_apply]
    split
    · rename_i hqr
      rw [hqr]
      exact ⟨_, rfl⟩
    · exact ⟨_, rfl⟩
  | new => exact ⟨_, by rw [State.mapNew_pages, Function.update_of_ne hq.ne]⟩
  | destroy => exact destroyed_page s _ _ q
  | _ => exact ⟨_, rfl⟩

lemma Act.flags (ha : Act s s') {q : PageRef} (hq : q < s.nextPage) :
    (s'.pages q).flags = (s.pages q).flags := by
  obtain ⟨ptes, hp⟩ := ha.page hq
  rw [hp]
  rfl

lemma Act.backing (ha : Act s s') {q : PageRef} (hq : q < s.nextPage) :
    (s'.pages q).backing = (s.pages q).backing := by
  obtain ⟨ptes, hp⟩ := ha.page hq
  rw [hp]
  rfl

/-- The active queue loses frames at most, those of the process that ends. -/
lemma Act.activePages (ha : Act s s') :
    s'.maxSize = s.maxSize ∧ s'.activePages.Sublist s.activePages := by
  cases ha with
  | destroy => exact ⟨rfl, List.filter_sublist⟩
  | _ => exact ⟨rfl, List.Sublist.refl _⟩

include h

/-- An act brings no page that there was back into use. -/
lemma Act.held (ha : Act s s') {q : PageRef} (hq : q < s.nextPage) (hq' : s'.Held q) : s.Held q := by
  cases ha with
  | create _ hpt => exact (created_held h.layout hpt q).1 hq'
  | swap => exact (((grows_mapSwap h.layout _ _).held q).1 hq').resolve_right hq.ne
  | known _ _ hf =>
    rcases ((grows_mapKnown h.layout hf).held q).1 hq' with hq' | rfl
    · exact hq'
    · exact .inr ⟨_, _, hf⟩
  | new _ _ hf => exact (((grows_mapNew h.layout hf).held q).1 hq').resolve_right hq.ne
  | destroy => exact destroyed_held hq'
  | switch => exact hq'
  | store => exact hq'

end Act

/-! ### Moves -/

inductive Move (s s' : State) : Prop
  | fault (hf : PageFault s s')
  | act (ha : Act s s')

/-- Moves, one after the other. -/
abbrev Moves : State → State → Prop := Relation.ReflTransGen Move

theorem Faults.moves {s s' : State} (hf : Faults s s') : Moves s s' :=
  Relation.ReflTransGen.mono (fun _ _ => Move.fault) _ _ hf

theorem Inv.moves {s s' : State} (h : Inv none s) (hm : Moves s s') : Inv none s' := by
  induction hm with
  | refl => exact h
  | tail _ hlast ih =>
    cases hlast with
    | fault hf => exact hf.inv
    | act ha => exact ih.act ha

/-- **The rule for moves**: a preorder that every move respects is respected by moves one after the
other. -/
theorem Moves.preserves {R : State → State → Prop} (hrefl : ∀ s, R s s)
    (htrans : ∀ a b c, R a b → R b c → R a c) (hmove : ∀ s s', Inv none s → Move s s' → R s s')
    {s s' : State} (h : Inv none s) (hm : Moves s s') : R s s' := by
  induction hm with
  | refl => exact hrefl s
  | tail hm hlast ih => exact htrans _ _ _ ih (hmove _ _ (h.moves hm) hlast)

/-- Moves add to the history. -/
lemma Moves.trace {s s' : State} (h : Inv none s) (hm : Moves s s') : s.trace <:+ s'.trace := by
  apply hm.preserves (R := fun s s' => s.trace <:+ s'.trace)
  · exact fun s => List.suffix_refl _
  · exact fun _ _ _ => List.IsSuffix.trans
  · intro s s' _ hmove
    cases hmove with
    | fault hf =>
      obtain ⟨es, hes⟩ := hf.evolves.trace
      exact ⟨es, hes.symm⟩
    | act ha =>
      rcases ha.trace with ht | ⟨r, n, b, ht⟩
      · rw [ht]
      · rw [ht]
        exact List.suffix_cons ..
  · exact h

/-! ### Calls are moves -/

/-- `vm_fault` on an access that the entry denies is a fault, or leaves the state. -/
lemma vmFault_faults {s s' : State} (h : Inv none s) {addr : BitVec 64} {w : Bool} {res : ℤ}
    (hden : (s.currentPte (vaToVpn addr)).permits w = false)
    (hrun : vmFault addr w s = .ok (res, s')) : Faults s s' := by
  by_cases hbase : addr < vmArenaBaseaddr
  · rw [vmFault_invalid h (.inl hbase)] at hrun
    cases hrun
    exact .refl
  · cases hs : s.slot s.pageTableBaseRegister (vaToVpn addr) with
    | none =>
      rw [vmFault_invalid h (.inr hs)] at hrun
      cases hrun
      exact .refl
    | some r =>
      rw [vmFault_eq h hbase hs hden] at hrun
      have hs' : (s.faultPage r w).2 = s' := congrArg Prod.snd (Except.ok.inj hrun)
      rw [(currentPte_eq h hs).1] at hden
      rw [← hs']
      exact .single (h.pageFault hs hden)

/-- The scan of a page reads only. -/
lemma scanPage_reads {s s' : State} {ppn offset : ℕ} {str : Name} {r : Name × UInt8}
    (hrun : scanPage ppn offset str s = .ok (r, s')) : s' = s := by
  simp only [scanPage, bind_apply, get_apply, ok_bind] at hrun
  generalize readChars s.physmem (lastAddrInPpn ppn) (loopBound + 1) _ _ str = chars at hrun
  cases chars with
  | none => cases hrun
  | some c =>
    cases hrun
    rfl

lemma arenaPage_reads {s s' : State} {vpn : ℕ} {r : PageRef}
    (hrun : arenaPage vpn s = .ok (r, s')) : s' = s := by
  simp only [arenaPage, currentArena, bind_apply, get_apply, ok_bind, pure_apply] at hrun
  cases hv : (s.arenas s.pageTableBaseRegister)[vpn]? with
  | none =>
    rw [hv] at hrun
    cases hrun
  | some q =>
    rw [hv] at hrun
    cases hrun
    rfl

/-- **`get_filename` changes the state by faults alone.** -/
theorem getFilenameLoop_faults {va : BitVec 64} : ∀ (fuel : ℕ) {s s' : State} {faultVa : BitVec 64}
    {vpn offset : ℕ} {str : Name} {res : Option Name}, Inv none s → vaToVpn faultVa = vpn →
    getFilenameLoop va fuel faultVa vpn offset str s = .ok (res, s') → Faults s s' := by
  intro fuel
  induction fuel with
  | zero =>
    intro s s' faultVa vpn offset str res _ _ hrun
    cases hrun
  | succ fuel ih =>
    intro s s' faultVa vpn offset str res h hvpn hrun
    by_cases hbad : va.slt vmArenaBaseaddr = true ∨
        (s.arenas s.pageTableBaseRegister).length ≤ vpn
    · simp only [getFilenameLoop, bind_apply, lowestInvalidVpn_eq h, ok_bind, exec_ite, hbad,
        if_true, pure_apply] at hrun
      cases hrun
      exact .refl
    · obtain ⟨r, hs⟩ : ∃ r, s.slot s.pageTableBaseRegister vpn = some r :=
        ⟨_, List.getElem?_eq_getElem (Nat.not_le.1 fun hle => hbad (.inr hle))⟩
      simp only [getFilenameLoop, bind_apply, lowestInvalidVpn_eq h, ok_bind, exec_ite, hbad,
        if_false, get_apply, (currentPte_eq h hs).2, ite_bind, getPage_eq] at hrun
      obtain ⟨⟨code, t⟩, ht, hrest⟩ := ok_of_bind hrun
      -- the page is faulted in, when its entry denies the load
      have hfaults : Faults s t := by
        split at ht
        · rename_i hden
          subst hvpn
          exact vmFault_faults h (w := false) hden ht
        · cases ht
          exact .refl
      by_cases hcode : code = -1
      · rw [if_pos hcode] at hrest
        cases hrest
        exact hfaults
      · rw [if_neg hcode] at hrest
        obtain ⟨⟨page, t₁⟩, ht₁, hscan⟩ := ok_of_bind hrest
        obtain ⟨⟨str', t₂⟩, ht₂, hend⟩ := ok_of_bind hscan
        obtain rfl : t₁ = t := arenaPage_reads ht₁
        obtain rfl : t₂ = t₁ := scanPage_reads ht₂
        by_cases hnul : str'.2 = 0
        · rw [if_pos hnul] at hend
          cases hend
          exact hfaults
        · rw [if_neg hnul] at hend
          exact hfaults.trans (ih (h.faults hfaults).1
            (vaToVpn_vpnToVa (Nat.mod_lt _ (Nat.two_pow_pos 32))) hend)

theorem getFilename_faults {s s' : State} (h : Inv none s) {va : BitVec 64} {res : Option Name}
    (hrun : getFilename va s = .ok (res, s')) : Faults s s' :=
  getFilenameLoop_faults loopBound h rfl hrun

/-- A call of `vm_map` reads the name, and then puts a page into the arena, or does not. -/
lemma Mapping.split {s s' : State} (h : Inv none s) (hlive : s.Running) {filename : BitVec 64}
    {block : ℕ} {va : BitVec 64} (hm : Mapping s filename block va s') :
    ∃ t, Faults s t ∧ (s' = t ∨ Act t s') := by
  cases hm with
  | full => exact ⟨s, .refl, .inl rfl⟩
  | noBlock => exact ⟨s, .refl, .inl rfl⟩
  | swap hlen _ hfree => exact ⟨s, .refl, .inr (.swap hlive hlen hfree)⟩
  | noName _ _ hread => exact ⟨s', getFilename_faults h hread, .inl rfl⟩
  | known hlen _ hread hf =>
    obtain ⟨hlive', hsize⟩ := (getFilename_evolves h hread).2.running hlive
    exact ⟨_, getFilename_faults h hread, .inr (.known hlive' (hsize ▸ hlen) hf)⟩
  | new hlen _ hread hf =>
    obtain ⟨hlive', hsize⟩ := (getFilename_evolves h hread).2.running hlive
    exact ⟨_, getFilename_faults h hread, .inr (.new hlive' (hsize ▸ hlen) hf)⟩

/-- **A call is a sequence of faults and at most one act.** -/
theorem Outcome.split {s s' : State} (h : Inv none s) {c : Call} {ret : Ret}
    (ho : Outcome s c ret s') : ∃ t, Faults s t ∧ (s' = t ∨ Act t s') := by
  cases ho with
  | create hpid hpt => exact ⟨s, .refl, .inr (.create hpid hpt)⟩
  | switch hpid => exact ⟨s, .refl, .inr (.switch hpid)⟩
  | invalid => exact ⟨s, .refl, .inl rfl⟩
  | fault _ hs hden => exact ⟨_, .single (h.pageFault hs hden), .inl rfl⟩
  | map hlive hm => exact hm.split h hlive
  | destroy hpid => exact ⟨s, .refl, .inr (.destroy _ hpid)⟩
  | load => exact ⟨s, .refl, .inl rfl⟩
  | store hs hf hd => exact ⟨s, .refl, .inr (.store hs hf hd _ _)⟩

theorem Outcome.moves {s s' : State} (h : Inv none s) {c : Call} {ret : Ret}
    (ho : Outcome s c ret s') : Moves s s' := by
  obtain ⟨t, hf, rfl | ha⟩ := ho.split h
  · exact hf.moves
  · exact hf.moves.tail (.act ha)

section Runs

variable {u : Setup} {k k' : Kernel}

/-- **A part of a run is a sequence of moves.** -/
theorem reaches_moves (h : (system u).Reachable k) {ls : List Label}
    (hr : (system u).Reaches k ls k') : Moves k.pager k'.pager := by
  apply hr.preserves (R := fun k k' => Moves k.pager k'.pager)
  · exact fun _ => .refl
  · exact fun _ _ _ hab hbc => hab.trans hbc
  · exact fun k l k' hk hs => (step_outcome hk hs).moves (Sound.reachable hk).inv
  · exact h

/-- A run is a sequence of moves from the state that `vm_init` leaves. -/
theorem reachable_moves (h : (system u).Reachable k) : Moves u.initial k.pager := by
  obtain ⟨ls, hrun⟩ := h
  obtain ⟨k₀, hinit, hr⟩ := hrun.reaches
  rw [← init_pager hinit]
  exact reaches_moves (.init hinit) hr

/-- **An invariant of the moves** holds in every reachable state. -/
theorem reachable_invariant {I : State → Prop} (hinit : I u.initial)
    (hmove : ∀ s s', Inv none s → Move s s' → I s → I s') (h : (system u).Reachable k) :
    I k.pager :=
  (reachable_moves h).preserves (R := fun s s' => I s → I s') (fun _ => id)
    (fun _ _ _ hab hbc ha => hbc (hab ha)) hmove (Inv.initial u) hinit

end Runs

end VmPager
