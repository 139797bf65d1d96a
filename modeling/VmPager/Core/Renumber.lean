import VmPager.Core.Moves

/-!
# Frames by other numbers

Nothing the pager does depends on which frame a page has: two states that agree up to the numbers of
the frames in use, and have as many free frames, go on in the same way (`Renumbers`). Which frames are
free, in which order and with which bytes, is not compared.
-/

namespace VmPager

open Lib.Exec Lib.Frames Lib.SecondChance

/-! ### The relation -/

lemma SameLayout.symm {s t : State} (h : SameLayout s t) : SameLayout t s :=
  ⟨h.fileTable.symm, h.arenas.symm, h.pageTables.symm, h.freeBlocks.symm, h.maxBlocks.symm,
    h.maxSize.symm, h.nextPage.symm, h.ptbr.symm, fun pt => (h.tables pt).symm,
    fun r => (h.pages r).symm⟩

/-- Both states go on without a change of layout. -/
lemma SameLayout.between {s t s' t' : State} (h : SameLayout s t) (hs : SameLayout s s')
    (ht : SameLayout t t') : SameLayout s' t' :=
  (hs.symm.trans h).trans ht

lemma SameLayout.blocksOf {s t : State} (h : SameLayout s t) (l : List PageRef) :
    t.blocksOf l = s.blocksOf l := by
  have hs : t.IsSwap = s.IsSwap := funext fun r => by simp only [State.IsSwap, h.type]
  have hb : (fun r => (t.pages r).swapBlock) = fun r => (s.pages r).swapBlock :=
    funext fun r => by rw [h.page r]; rfl
  rw [State.blocksOf, State.blocksOf, hs, hb]

/-- Flags with the frame called `f` of its number. -/
def Flags.renumber (f : ℕ → ℕ) (F : Flags) : Flags := { F with ppn := f F.ppn }

lemma Flags.permits_renumber (f : ℕ → ℕ) (F : Flags) (w : Bool) :
    (F.renumber f).pte.permits w = F.pte.permits w := by
  obtain ⟨ppn, referenced, resident, dirty⟩ := F
  cases referenced <;> cases resident <;> rfl

/-- An event without the addresses of frames. -/
def Event.unplaced : Event → Event
  | .fileRead filename block _ ok => .fileRead filename block 0 ok
  | .fileWrite filename block _ ok => .fileWrite filename block 0 ok
  | .memcpy _ src => .memcpy 0 src
  | e => e

/-- The states agree, but for the free frames; the frame `p` that is in use in `s` is `f p` in `t`. -/
structure Renumbers (f : ℕ → ℕ) (s t : State) : Prop where
  layout : SameLayout s t
  disk : t.disk = s.disk
  writes : t.writes = s.writes
  reads : t.reads = s.reads
  trace : t.trace.map Event.unplaced = s.trace.map Event.unplaced
  zero : f 0 = 0
  active : t.activePages = s.activePages.map f
  free : t.freePages.length = s.freePages.length
  flags : ∀ {r}, s.Held r → (t.pages r).flags = (s.pages r).flags.renumber f
  owner : ∀ {p}, p ∈ s.activePages → t.owner (f p) = s.owner p
  frame : ∀ {p r}, s.owner p = some r → t.frame (f p) = s.frame p

namespace Renumbers

section Reads

variable {f : ℕ → ℕ} {s t : State} {hole hole' : Option ℕ} {p q : ℕ} {r : PageRef}
  (h : Renumbers f s t)
include h

/-! ### What the functions look at -/

lemma resident (hr : s.Held r) : (t.pages r).resident = (s.pages r).resident :=
  congrArg Flags.resident (h.flags hr)

lemma dirty (hr : s.Held r) : (t.pages r).dirty = (s.pages r).dirty :=
  congrArg Flags.dirty (h.flags hr)

lemma referenced (hr : s.Held r) : (t.pages r).referenced = (s.pages r).referenced :=
  congrArg Flags.referenced (h.flags hr)

lemma ppn (hr : s.Held r) : (t.pages r).ppn = f (s.pages r).ppn := congrArg Flags.ppn (h.flags hr)

/-- Different frames have different numbers. -/
lemma inj (ht : Frames hole' t) (hp : p ∈ s.activePages) (hq : q ∈ s.activePages)
    (hf : f p = f q) : p = q := by
  have hnd := ht.active_nodup
  rw [h.active] at hnd
  exact List.inj_on_of_nodup_map hnd hp hq hf

lemma mem_active (hp : p ∈ s.activePages) : f p ∈ t.activePages := by
  rw [h.active]
  exact List.mem_map_of_mem hp

lemma ne_zero (ht : Frames hole' t) (hp : p ∈ s.activePages) : f p ≠ 0 :=
  (ht.active_pos (h.mem_active hp)).1

/-- A page has the zero frame in both states, or in none. -/
lemma ppn_zero (hs : Frames hole s) (ht : Frames hole' t) (hr : s.Held r) :
    (t.pages r).ppn = 0 ↔ (s.pages r).ppn = 0 := by
  rw [h.ppn hr]
  constructor
  · intro hf
    rcases hs.ppn_cases hr with h0 | ho
    · exact h0
    · exact absurd hf (h.ne_zero ht (hs.owner_ok ho).1)
  · intro h0
    rw [h0, h.zero]

lemma framed (hs : Frames hole s) (ht : Frames hole' t) (hr : s.Held r) :
    (t.pages r).Framed ↔ (s.pages r).Framed := by
  rw [PageState.Framed, PageState.Framed, h.resident hr, ne_eq, ne_eq, h.ppn_zero hs ht hr]

lemma permits (hr : s.Held r) (w : Bool) :
    (t.pages r).flags.pte.permits w = (s.pages r).flags.pte.permits w := by
  rw [h.flags hr, Flags.permits_renumber]

lemma marked (hs : Frames hole s) (hp : p ∈ s.activePages) : t.marked (f p) = s.marked p := by
  unfold State.marked
  rw [h.owner hp]
  cases ho : s.owner p with
  | none => rfl
  | some r => exact h.referenced (hs.owner_held ho)

/-- **A page has the same bytes.** -/
theorem content (hs : Inv hole s) (ht : Inv hole' t) (hr : s.Held r) : t.content r = s.content r := by
  unfold State.content State.onDisk
  rw [h.resident hr, h.ppn hr, h.disk, h.layout.backing]
  split
  · rcases hs.frames.ppn_cases hr with h0 | ho
    · rw [h0, h.zero, hs.contents.zero, ht.contents.zero]
    · exact h.frame ho
  · rfl

end Reads

/-! ### The sweep -/

section Sweep

variable {f f' : ℕ → ℕ} {s t : State} {hole hole' : Option ℕ} {v p : ℕ} {passed rest : List ℕ}
  {r : PageRef} (h : Renumbers f s t)
include h

/-- Another numbering will do that is the same on the frames in use. -/
lemma congr (hs : Frames hole s) (h0 : f' 0 = 0) (heq : ∀ p ∈ s.activePages, f' p = f p) :
    Renumbers f' s t := by
  refine { h with
    zero := h0
    active := ?_
    flags := fun {r} hr => ?_
    owner := fun {p} hp => ?_
    frame := fun {p r} ho => ?_ }
  · rw [h.active]
    exact List.map_congr_left fun p hp => (heq p hp).symm
  · have hppn : f' (s.pages r).ppn = f (s.pages r).ppn := by
      rcases hs.ppn_cases hr with hz | ho
      · rw [hz, h0, h.zero]
      · exact heq _ (hs.owner_ok ho).1
    rw [h.flags hr, Flags.renumber, Flags.renumber]
    exact congrArg (fun n => (⟨n, _, _, _⟩ : Flags)) hppn.symm
  · rw [heq p hp]
    exact h.owner hp
  · rw [heq p (hs.owner_ok ho).1]
    exact h.frame ho

/-- A frame is taken from each free queue. -/
lemma takeFree {p' : ℕ} {rest' : List ℕ} (hs : Inv none s) (ht : Inv none t)
    (hfree : s.freePages = p :: rest) (hfree' : t.freePages = p' :: rest') :
    Renumbers (Function.update f p p') (s.takeFree p rest) (t.takeFree p' rest') := by
  have hs' := (hs.takeFree hfree).1.frames
  have ht' := (ht.takeFree hfree').1.frames
  have hnot : p ∉ s.activePages := by
    intro hp
    have hnd := hs'.active_nodup
    rw [State.takeFree_activePages] at hnd
    exact (List.nodup_append.1 hnd).2.2 p hp p (List.mem_singleton_self p) rfl
  have hne : ∀ {x}, x ∈ s.activePages → x ≠ p := fun hx he => hnot (he ▸ hx)
  have hp0 : p ≠ 0 := (hs'.active_pos (hs'.hole_active rfl)).1
  have h₁ : Renumbers (Function.update f p p') s t := by
    apply h.congr hs.frames
    · rw [Function.update_of_ne hp0.symm, h.zero]
    · exact fun x hx => Function.update_of_ne (hne hx) _ _
  refine { h₁ with
    layout := { h.layout with }
    active := ?_
    free := ?_
    owner := fun {x} hx => ?_ }
  · rw [State.takeFree_activePages, State.takeFree_activePages, List.map_append, ← h₁.active,
      List.map_singleton, Function.update_self]
  · have hlen := h.free
    rw [hfree, hfree'] at hlen
    exact Nat.succ.inj hlen
  · rcases List.mem_append.1 hx with hx | hx
    · exact h₁.owner hx
    · rw [List.mem_singleton.1 hx, Function.update_self, hs'.owner_hole, ht'.owner_hole]

/-- The same pages are passed over. -/
lemma swept (hs : Inv none s) (ht : Inv none t) (hsw : (rest ++ [v]).Perm s.activePages)
    (hpassed : ∀ p ∈ passed, p ∈ s.activePages) :
    Renumbers f (s.swept v passed rest) (t.swept (f v) (passed.map f) (rest.map f)) := by
  have hm : MakesRoom s (s.swept v passed rest) := (hs.swept hsw).2
  have hsw' : (rest.map f ++ [f v]).Perm t.activePages := by
    have hmap := hsw.map f
    rwa [List.map_append, List.map_singleton, ← h.active] at hmap
  have hm' : MakesRoom t (t.swept (f v) (passed.map f) (rest.map f)) := (ht.swept hsw').2
  refine {
    layout := h.layout.between hm.layout hm'.layout
    disk := by rw [swept_disk, swept_disk, h.disk]
    writes := by rw [swept_writes, swept_writes, h.writes]
    reads := by rw [hm.reads, hm'.reads, h.reads]
    trace := by rw [swept_trace, swept_trace, h.trace]
    zero := h.zero
    active := by rw [swept_activePages, swept_activePages, List.map_append, List.map_singleton]
    free := by rw [swept_freePages, swept_freePages, h.free]
    flags := fun {r} hr => ?_
    owner := fun {p} hp => ?_
    frame := fun {p r} ho => ?_ }
  · have hr' := (hm.layout.held r).1 hr
    have hiff : (∀ p ∈ passed.map f, t.owner p ≠ some r) ↔ ∀ p ∈ passed, s.owner p ≠ some r := by
      rw [List.forall_mem_map]
      exact forall₂_congr fun p hp => by rw [h.owner (hpassed p hp)]
    show ((t.unrefAll (passed.map f)).pages r).flags = ((s.unrefAll passed).pages r).flags.renumber f
    rw [unrefAll_page, unrefAll_page, flags_withFlags, flags_withFlags, h.referenced hr', h.flags hr',
      decide_eq_decide.2 hiff]
    rfl
  · rw [swept_owner, swept_owner]
    exact h.owner (hsw.mem_iff.1 hp)
  · rw [swept_owner] at ho
    rw [frame_congr hm.physmem, frame_congr hm'.physmem]
    exact h.frame ho

end Sweep

/-! ### An eviction -/

section Evict

variable {f : ℕ → ℕ} {s t : State} {hole hole' : Option ℕ} {p v : ℕ} {r q : PageRef}
  (h : Renumbers f s t)
include h

/-- One event more, for each. -/
lemma trace_cons {e e' : Event} (he : e'.unplaced = e.unplaced) :
    (e' :: t.trace).map Event.unplaced = (e :: s.trace).map Event.unplaced := by
  rw [List.map_cons, List.map_cons, he, h.trace]

/-- The write-back of a page writes the same bytes to the same block. -/
lemma wrote (ho : s.owner p = some r) : Renumbers f (s.wrote r p) (t.wrote r (f p)) := by
  refine { h with
    layout := { h.layout with }
    disk := ?_
    writes := congrArg Stream'.tail h.writes
    trace := h.trace_cons ?_ }
  · show Function.update t.disk _ _ = Function.update s.disk _ _
    rw [h.layout.backing, h.disk, h.frame ho]
  · simp only [Event.unplaced, h.layout.backing]

lemma writeFailed : Renumbers f (s.writeFailed r p) (t.writeFailed r (f p)) := by
  refine { h with
    layout := { h.layout with }
    writes := congrArg Stream'.tail h.writes
    trace := h.trace_cons ?_ }
  simp only [Event.unplaced, h.layout.backing]

/-- A frame gets a page, or loses the one it had. -/
lemma owner_set {s' t' : State} {o : Option PageRef} (hs : Frames hole s) (ht : Frames hole' t)
    (hp : p ∈ s.activePages) (hs' : s'.physMemPages = s.physMemPages.set p o)
    (ht' : t'.physMemPages = t.physMemPages.set (f p) o) {x : ℕ} (hx : x ∈ s.activePages) :
    t'.owner (f x) = s'.owner x := by
  rw [VmPager.owner_set hs' (hs.phys_lt hp), VmPager.owner_set ht' (ht.phys_lt (h.mem_active hp)),
    h.owner hx]
  by_cases hxp : x = p
  · rw [if_pos hxp, if_pos (congrArg f hxp)]
  · rw [if_neg hxp, if_neg fun hf => hxp (h.inj ht hx hp hf)]

/-- Other flags for a page, and its entries with it. -/
lemma flags_refresh (r : PageRef) (F : Flags) (hq : s.Held q) :
    ((t.refresh r (F.renumber f)).pages q).flags = ((s.refresh r F).pages q).flags.renumber f := by
  rw [refresh_page, refresh_page]
  split
  · rfl
  · exact h.flags hq

lemma dropPage (hs : Frames hole s) (ht : Frames hole' t) (ho : s.owner p = some r) :
    Renumbers f (s.dropPage r p) (t.dropPage r (f p)) := by
  have hp := (hs.owner_ok ho).1
  have hout : Flags.out.renumber f = Flags.out := by
    rw [Flags.renumber, show f Flags.out.ppn = 0 from h.zero]
    rfl
  refine { h with
    layout := h.layout.between (sameLayout_dropPage s r p) (sameLayout_dropPage t r (f p))
    trace := h.trace_cons rfl
    flags := fun {q} hq => ?_
    owner := h.owner_set hs ht hp rfl rfl
    frame := fun {x q} hx => ?_ }
  · have hq' := h.flags_refresh r .out (((sameLayout_dropPage s r p).held q).1 hq)
    rw [hout] at hq'
    exact hq'
  · rw [VmPager.owner_set rfl (hs.phys_lt hp)] at hx
    split at hx
    · cases hx
    · exact h.frame hx

/-- **The same page is evicted**, or fails to be written back. -/
theorem evictFrom (hs : Inv none s) (ht : Inv none t) (hv : v ∈ s.activePages) :
    (t.evictFrom (f v)).1 = f (s.evictFrom v).1 ∧
      Renumbers f (s.evictFrom v).2 (t.evictFrom (f v)).2 := by
  obtain ⟨r, ho⟩ := hs.frames.active_owned hv (by simp)
  have ho' : t.owner (f v) = some r := by rw [h.owner hv, ho]
  have hr := hs.frames.owner_held ho
  unfold State.evictFrom
  rw [ho, ho']
  dsimp only
  rw [h.dirty hr, h.writes]
  split
  · split
    · exact ⟨rfl, (h.wrote ho).dropPage { hs.frames with } { ht.frames with } ho⟩
    · exact ⟨h.zero.symm, h.writeFailed⟩
  · exact ⟨rfl, h.dropPage hs.frames ht.frames ho⟩

/-- **The search for a frame** ends in the same way, with a frame that may have another number. -/
theorem takeFrame (hs : Inv none s) (ht : Inv none t) : ∃ f', t.takeFrame.1 = f' s.takeFrame.1 ∧
    Renumbers f' s.takeFrame.2 t.takeFrame.2 := by
  unfold State.takeFrame
  cases hfree : s.freePages with
  | cons p rest =>
    cases hfree' : t.freePages with
    | nil =>
      have hlen := h.free
      rw [hfree, hfree'] at hlen
      cases hlen
    | cons p' rest' =>
      exact ⟨Function.update f p p', (Function.update_self p p' f).symm,
        h.takeFree hs ht hfree hfree'⟩
  | nil =>
    have hfree' : t.freePages = [] := by
      rw [← List.length_eq_zero_iff, h.free, hfree]
      rfl
    have hsweep : sweep (s.activePages.length + 1) t.marked (s.activePages.map f) = _ :=
      sweep_map (fun x hx y hy => h.inj ht.frames hx hy) (fun x hx => h.marked hs.frames hx)
    rw [← h.active] at hsweep
    rw [hfree', h.active, List.length_map, ← h.active, hsweep]
    dsimp only
    cases hsw : sweep (s.activePages.length + 1) s.marked s.activePages with
    | none => exact ⟨f, h.zero.symm, h⟩
    | some res =>
      obtain ⟨v, passed, rest⟩ := res
      have hperm := (sweep_isRotated hsw).perm.symm
      have hpassed := sweep_passed hs.frames.active_nodup (Nat.lt_succ_self _) hsw
      have hperm' : (rest.map f ++ [f v]).Perm t.activePages := by
        have hmap := hperm.map f
        rwa [List.map_append, List.map_singleton, ← h.active] at hmap
      have hs₁ : Inv none (s.swept v passed rest) := (hs.swept hperm).1
      have ht₁ : Inv none (t.swept (f v) (passed.map f) (rest.map f)) := (ht.swept hperm').1
      exact ⟨f, (h.swept hs ht hperm hpassed).evictFrom hs₁ ht₁ (by simp)⟩

end Evict

/-! ### A fault -/

section Fault

variable {f : ℕ → ℕ} {s t s' t' : State} {p : ℕ} {r : PageRef} (h : Renumbers f s t)
include h

/-- The frame that is being filled has no page yet. -/
lemma hole_frame (hs : Frames (some p) s) (ht : Frames (some (f p)) t) (hw : HoleWrite p s s')
    (hw' : HoleWrite (f p) t t') (hphys : s'.physMemPages = s.physMemPages) {x : ℕ} {q : PageRef}
    (ho : s'.owner x = some q) : t'.frame (f x) = s'.frame x := by
  rw [owner_congr hphys] at ho
  have hx : x ≠ p := by
    rintro rfl
    rw [hs.owner_hole] at ho
    cases ho
  have hfx : f x ≠ f p := fun hf => hx (h.inj ht (hs.owner_ok ho).1 (hs.hole_active rfl) hf)
  rw [hw.frame hx, hw'.frame hfx]
  exact h.frame ho

lemma zeroFrame (hs : Inv (some p) s) (ht : Inv (some (f p)) t) :
    Renumbers f (s.zeroFrame p) (t.zeroFrame (f p)) ∧
      (t.zeroFrame (f p)).frame (f p) = (s.zeroFrame p).frame p := by
  constructor
  · exact { h with
      layout := { h.layout with }
      trace := h.trace_cons (by simp only [Event.unplaced])
      frame := h.hole_frame hs.frames ht.frames (holeWrite_zeroFrame s p)
        (holeWrite_zeroFrame t (f p)) rfl }
  · rw [zeroFrame_frame, zeroFrame_frame, hs.contents.zero, ht.contents.zero]

lemma readInto (hs : Frames (some p) s) (ht : Frames (some (f p)) t) (bk : Option Name × ℕ) :
    Renumbers f (s.readInto bk p) (t.readInto bk (f p)) ∧
      (t.readInto bk (f p)).frame (f p) = (s.readInto bk p).frame p := by
  constructor
  · exact { h with
      layout := { h.layout with }
      reads := congrArg Stream'.tail h.reads
      trace := h.trace_cons (by simp only [Event.unplaced])
      frame := h.hole_frame hs ht (holeWrite_readInto s bk p) (holeWrite_readInto t bk (f p)) rfl }
  · rw [readInto_frame, readInto_frame, h.disk]

/-- The frame goes back to the free queue. -/
lemma readFailed (hs : Frames (some p) s) (ht : Frames (some (f p)) t) (bk : Option Name × ℕ)
    (left : Page) : Renumbers f (s.readFailed bk p left) (t.readFailed bk (f p) left) := by
  have hp := hs.hole_active rfl
  have hsub : ∀ {x}, x ∈ s.activePages.erase p → x ∈ s.activePages := List.mem_of_mem_erase
  refine { h with
    layout := { h.layout with }
    reads := congrArg Stream'.tail h.reads
    trace := h.trace_cons (by simp only [Event.unplaced])
    active := ?_
    free := ?_
    owner := fun {x} hx => h.owner_set hs ht hp rfl rfl (hsub hx)
    frame := fun {x q} ho => ?_ }
  · show t.activePages.erase (f p) = (s.activePages.erase p).map f
    rw [ht.active_nodup.erase_eq_filter, hs.active_nodup.erase_eq_filter, h.active, List.filter_map]
    congr 1
    apply List.filter_congr
    intro x hx
    have heq : f x = f p ↔ x = p := ⟨h.inj ht hx hp, congrArg f⟩
    simp only [Function.comp_apply, bne, beq_eq_decide, heq]
  · show (t.freePages ++ [f p]).length = (s.freePages ++ [p]).length
    rw [List.length_append, List.length_append, h.free]
    rfl
  · rw [VmPager.owner_set rfl (hs.phys_lt hp)] at ho
    split at ho
    · cases ho
    · rename_i hx
      have hfx : f x ≠ f p := fun hf => hx (h.inj ht (hs.owner_ok ho).1 hp hf)
      rw [(holeWrite_readFailed s bk p left).frame hx,
        (holeWrite_readFailed t bk (f p) left).frame hfx]
      exact h.frame ho

/-- The frame is given to the page. -/
lemma fill (hs : Frames (some p) s) (ht : Frames (some (f p)) t)
    (hframe : t.frame (f p) = s.frame p) (r : PageRef) (d w : Bool) :
    Renumbers f (s.fill r p d w) (t.fill r (f p) d w) := by
  have hp := hs.hole_active rfl
  have hL := sameLayout_fill s r p d w
  exact { h with
    layout := h.layout.between hL (sameLayout_fill t r (f p) d w)
    trace := h.trace_cons rfl
    flags := fun {q} hq => h.flags_refresh r ⟨p, true, true, d⟩ ((hL.held q).1 hq)
    owner := h.owner_set hs ht hp rfl rfl
    frame := fun {x q} ho => by
      rw [VmPager.owner_set rfl (hs.phys_lt hp)] at ho
      split at ho
      · rename_i hx
        rw [hx]
        exact hframe
      · exact h.frame ho }

lemma touch (hr : s.Held r) (w : Bool) : Renumbers f (s.touch r w) (t.touch r w) := by
  have hL := sameLayout_touch s r w
  have hF : (⟨(t.pages r).ppn, true, true, (t.pages r).dirty || w⟩ : Flags) =
      Flags.renumber f ⟨(s.pages r).ppn, true, true, (s.pages r).dirty || w⟩ := by
    rw [h.ppn hr, h.dirty hr]
    rfl
  have hflags := fun q (hq : s.Held q) =>
    h.flags_refresh r ⟨(s.pages r).ppn, true, true, (s.pages r).dirty || w⟩ hq
  rw [← hF] at hflags
  exact { h with
    layout := h.layout.between hL (sameLayout_touch t r w)
    trace := h.trace_cons rfl
    flags := fun {q} hq => hflags q ((hL.held q).1 hq) }

/-- Both searches find a frame, or none does. -/
lemma room (hs : Inv none s) (ht : Inv none t) : ∃ f', t.takeFrame.1 = f' s.takeFrame.1 ∧
    Renumbers f' s.takeFrame.2 t.takeFrame.2 ∧
    (s.takeFrame.1 = 0 ∨ (s.takeFrame.1 ≠ 0 ∧ f' s.takeFrame.1 ≠ 0 ∧
      Inv (some s.takeFrame.1) s.takeFrame.2 ∧ Inv (some (f' s.takeFrame.1)) t.takeFrame.2)) := by
  obtain ⟨f', heq, h₁⟩ := h.takeFrame hs ht
  refine ⟨f', heq, h₁, ?_⟩
  rcases hs.takeFrame.2 with ⟨h0, -⟩ | ⟨h0, hs₁⟩
  · exact .inl h0
  · have hp := hs₁.frames.hole_active rfl
    rcases ht.takeFrame.2 with ⟨h0', ht₁⟩ | ⟨h0', ht₁⟩
    · exact absurd (heq ▸ h0') (h₁.ne_zero ht₁.frames hp)
    · rw [heq] at h0' ht₁
      exact .inr ⟨h0, h0', hs₁, ht₁⟩

/-- **A fault comes to the same.** -/
theorem faultPage (hs : Inv none s) (ht : Inv none t) (hr : s.Held r) (w : Bool) :
    ∃ f', (t.faultPage r w).1 = (s.faultPage r w).1 ∧
      Renumbers f' (s.faultPage r w).2 (t.faultPage r w).2 := by
  obtain ⟨f', heq, h₁, hroom⟩ := h.room hs ht
  have hppn := h.ppn_zero hs.frames ht.frames hr
  unfold State.faultPage State.loadBlock
  rw [h.resident hr, heq, h.layout.backing, h₁.reads]
  cases hres : (s.pages r).resident with
  | true =>
    rw [if_pos rfl, if_pos rfl]
    by_cases h0 : (s.pages r).ppn = 0
    · rw [if_pos h0, if_pos (hppn.2 h0)]
      rcases hroom with hz | ⟨hz, hz', hs₁, ht₁⟩
      · rw [hz, h₁.zero, if_pos rfl, if_pos rfl]
        exact ⟨f', rfl, h₁⟩
      · rw [if_neg hz, if_neg hz']
        obtain ⟨h₂, hframe⟩ := h₁.zeroFrame hs₁ ht₁
        exact ⟨f', rfl, h₂.fill { hs₁.frames with } { ht₁.frames with } hframe r true w⟩
    · rw [if_neg h0, if_neg fun h0' => h0 (hppn.1 h0')]
      exact ⟨f, rfl, h.touch hr w⟩
  | false =>
    rw [if_neg Bool.false_ne_true, if_neg Bool.false_ne_true]
    rcases hroom with hz | ⟨hz, hz', hs₁, ht₁⟩
    · rw [hz, h₁.zero]
      exact ⟨f', rfl, h₁⟩
    · rw [if_neg hz, if_neg hz']
      cases s.takeFrame.2.reads.head with
      | success =>
        obtain ⟨h₂, hframe⟩ := h₁.readInto hs₁.frames ht₁.frames (s.pages r).backing
        dsimp only
        rw [if_neg hz, if_neg hz']
        exact ⟨f', rfl, h₂.fill { hs₁.frames with } { ht₁.frames with } hframe r w w⟩
      | failure left =>
        exact ⟨f', rfl, h₁.readFailed hs₁.frames ht₁.frames (s.pages r).backing left⟩

end Fault

/-! ### Acts -/

section Act

variable {f : ℕ → ℕ} {s t : State} {r : PageRef} (h : Renumbers f s t)
include h

lemma created (hs : Layout s) {pid : Pid} {pt : Ptbr} (hpt : s.tables pt = none) :
    Renumbers f (s.created pid pt) (t.created pid pt) := by
  have hL := h.layout
  exact { h with
    layout := { hL with
      arenas := by
        show Function.update t.arenas pt [] = Function.update s.arenas pt []
        rw [hL.arenas]
      pageTables := by rw [State.created_pageTables, State.created_pageTables, hL.pageTables]
      tables := fun pt' => by
        rw [State.created_tables, State.created_tables, Function.update_apply, Function.update_apply]
        split
        · rfl
        · exact hL.tables pt' }
    flags := fun {r} hr => h.flags ((created_held hs hpt r).1 hr) }

lemma switched (pt : Ptbr) : Renumbers f (s.switched pt) (t.switched pt) :=
  { h with
    layout := { h.layout with ptbr := rfl }
    flags := fun hr => h.flags hr }

lemma nextSlot : t.nextSlot = s.nextSlot := by
  unfold State.nextSlot
  rw [h.layout.arenas, h.layout.ptbr]

/-- A page is put at the end of the current arena. -/
lemma push_arenas (r : PageRef) : Function.update t.arenas t.pageTableBaseRegister
      (t.arenas t.pageTableBaseRegister ++ [r]) =
    Function.update s.arenas s.pageTableBaseRegister (s.arenas s.pageTableBaseRegister ++ [r]) := by
  rw [h.layout.arenas, h.layout.ptbr]

lemma push_tables (r : PageRef) (e e' : Pte) (pt : Ptbr) :
    ((t.push r e').tables pt).isSome = ((s.push r e).tables pt).isSome := by
  simp [h.layout.tables]

/-- A page is new in both states. -/
lemma update_identity (q r : PageRef) (X : PageState) :
    (Function.update t.pages r X q).identity = (Function.update s.pages r X q).identity := by
  rw [Function.update_apply, Function.update_apply]
  split
  · rfl
  · exact h.layout.pages q

lemma update_flags {q r : PageRef} {X : PageState} (hX : X.ppn = 0) (hq : s.Held q ∨ q = r) :
    (Function.update t.pages r X q).flags = (Function.update s.pages r X q).flags.renumber f := by
  rw [Function.update_apply, Function.update_apply]
  by_cases hqr : q = r
  · rw [if_pos hqr, if_pos hqr, Flags.renumber, show X.flags.ppn = 0 from hX, h.zero]
    exact congrArg (fun n => (⟨n, _, _, _⟩ : Flags)) hX
  · rw [if_neg hqr, if_neg hqr]
    exact h.flags (hq.resolve_right hqr)

lemma mapSwap (hs : Layout s) (b : ℕ) (rest : List ℕ) :
    Renumbers f (s.mapSwap b rest) (t.mapSwap b rest) := by
  have hL := h.layout
  have hpages : (t.mapSwap b rest).pages = Function.update t.pages s.nextPage (s.newSwapPage b) := by
    show Function.update t.pages t.nextPage (t.newSwapPage b) = _
    rw [State.newSwapPage, State.newSwapPage, h.nextSlot, hL.ptbr, hL.nextPage]
  refine { h with
    layout := { hL with
      arenas := ?_
      freeBlocks := rfl
      nextPage := congrArg Nat.succ hL.nextPage
      tables := fun pt => h.push_tables s.nextPage _ _ pt
      pages := fun q => ?_ }
    trace := ?_
    flags := fun {q} hq => ?_ }
  · show Function.update t.arenas _ (_ ++ [t.nextPage]) = _
    rw [hL.nextPage]
    exact h.push_arenas s.nextPage
  · rw [hpages]
    exact h.update_identity q _ _
  · show (_ :: t.trace).map _ = (_ :: s.trace).map _
    rw [hL.nextPage]
    exact h.trace_cons rfl
  · rw [hpages]
    exact h.update_flags rfl (((grows_mapSwap hs b rest).held q).1 hq)

lemma mapNew (hs : Layout s) {n : Name} {b : ℕ} (hf : s.fileTable n b = none) :
    Renumbers f (s.mapNew n b) (t.mapNew n b) := by
  have hL := h.layout
  have hpages : (t.mapNew n b).pages = Function.update t.pages s.nextPage (s.newFilePage n b) := by
    show Function.update t.pages t.nextPage (t.newFilePage n b) = _
    rw [State.newFilePage, State.newFilePage, h.nextSlot, hL.ptbr, hL.nextPage]
  refine { h with
    layout := { hL with
      fileTable := ?_
      arenas := ?_
      nextPage := congrArg Nat.succ hL.nextPage
      tables := fun pt => h.push_tables s.nextPage _ _ pt
      pages := fun q => ?_ }
    trace := ?_
    flags := fun {q} hq => ?_ }
  · show Function.update t.fileTable _ _ = Function.update s.fileTable _ _
    rw [hL.fileTable, hL.nextPage]
  · show Function.update t.arenas _ (_ ++ [t.nextPage]) = _
    rw [hL.nextPage]
    exact h.push_arenas s.nextPage
  · rw [hpages]
    exact h.update_identity q _ _
  · show (_ :: t.trace).map _ = (_ :: s.trace).map _
    rw [hL.nextPage]
    exact h.trace_cons rfl
  · rw [hpages]
    exact h.update_flags rfl (((grows_mapNew hs hf).held q).1 hq)

lemma mapKnown (hs : Layout s) {n : Name} {b : ℕ} (hf : s.fileTable n b = some r) :
    Renumbers f (s.mapKnown r) (t.mapKnown r) := by
  have hL := h.layout
  have hr : s.Held r := .inr ⟨n, b, hf⟩
  refine { h with
    layout := { hL with
      arenas := h.push_arenas r
      tables := fun pt => h.push_tables r _ _ pt
      pages := fun q => ?_ }
    flags := fun {q} hq => ?_ }
  · rw [State.mapKnown_pages, State.mapKnown_pages, Function.update_apply, Function.update_apply,
      h.nextSlot, hL.ptbr]
    split
    · rw [hL.page r]
      rfl
    · exact hL.pages q
  · rw [State.mapKnown_pages, State.mapKnown_pages, Function.update_apply, Function.update_apply]
    have hq' : s.Held q := by
      rcases ((grows_mapKnown hs hf).held q).1 hq with hq | rfl
      · exact hq
      · exact hr
    split
    · exact h.flags hr
    · exact h.flags hq'

/-- A byte of the frame of a page is written. -/
lemma stored (hs : Frames none s) (ht : Frames none t) (hr : s.Held r) (hf : (s.pages r).Framed)
    (offset : Fin vmPagesize) (byte : UInt8) : Renumbers f (s.stored (s.pages r).ppn offset byte)
      (t.stored (t.pages r).ppn offset byte) := by
  have ho := hs.owned hr hf
  have hp := (hs.owner_ok ho).1
  refine { h with
    layout := { h.layout with }
    frame := fun {x q} hx => ?_ }
  rw [h.ppn hr]
  by_cases hxp : x = (s.pages r).ppn
  · have hself : (s.stored (s.pages r).ppn offset byte).frame (s.pages r).ppn =
        Function.update (s.frame (s.pages r).ppn) offset byte := load_update_same _ _ _ _
    have hself' : (t.stored (f (s.pages r).ppn) offset byte).frame (f (s.pages r).ppn) =
        Function.update (t.frame (f (s.pages r).ppn)) offset byte := load_update_same _ _ _ _
    rw [hxp, hself, hself', h.frame ho]
  · have hfx : f x ≠ f (s.pages r).ppn := fun he => hxp (h.inj ht (hs.owner_ok hx).1 hp he)
    have hne : (s.stored (s.pages r).ppn offset byte).frame x = s.frame x :=
      load_update_ne _ (Ne.symm hxp) _ _
    have hne' : (t.stored (f (s.pages r).ppn) offset byte).frame (f x) = t.frame (f x) :=
      load_update_ne _ (Ne.symm hfx) _ _
    rw [hne, hne']
    exact h.frame hx

/-- The same pages of the arena give up their frames. -/
lemma mem_frameSet (hs : Frames none s) (ht : Frames none t) {p : ℕ} (hp : p ∈ s.activePages) :
    f p ∈ t.frameSet (t.arenas t.pageTableBaseRegister) ↔
      p ∈ s.frameSet (s.arenas s.pageTableBaseRegister) := by
  rw [VmPager.mem_frameSet, VmPager.mem_frameSet, h.layout.arenas, h.layout.ptbr]
  refine exists_congr fun r => and_congr_right fun hr => ?_
  obtain ⟨i, hi⟩ := List.mem_iff_getElem?.1 hr
  have hheld : s.Held r := .inl ⟨_, i, hi⟩
  rw [h.layout.type, h.resident hheld, h.ppn hheld]
  refine and_congr_right fun _ => and_congr_right fun _ => ⟨fun hf => ?_, congrArg f⟩
  rcases hs.ppn_cases hheld with h0 | ho
  · rw [h0, h.zero] at hf
    exact absurd hf.symm (h.ne_zero ht hp)
  · exact h.inj ht (hs.owner_ok ho).1 hp hf

/-- **A process ends**, and its frames go back in any order. -/
theorem destroyed (hs : Inv none s) (ht : Inv none t) {pid : Pid} {ppns ppns' : List ℕ}
    (hp : ppns.Perm (s.frameSet (s.arenas s.pageTableBaseRegister)))
    (hp' : ppns'.Perm (t.frameSet (t.arenas t.pageTableBaseRegister))) :
    Renumbers f (s.destroyed pid ppns) (t.destroyed pid ppns') := by
  have hL := h.layout
  have hset := fun {p} => h.mem_frameSet hs.frames ht.frames (p := p)
  have hactive : (t.destroyed pid ppns').activePages = (s.destroyed pid ppns).activePages.map f := by
    rw [State.destroyed_activePages, State.destroyed_activePages, State.released_activePages,
      State.released_activePages, h.active, List.filter_map]
    congr 1
    apply List.filter_congr
    intro p hact
    rw [Function.comp_apply, decide_eq_decide, not_iff_not, hp'.mem_iff, hp.mem_iff]
    exact hset hact
  have hsub : ∀ {p}, p ∈ (s.destroyed pid ppns).activePages → p ∈ s.activePages :=
    fun hact => List.mem_of_mem_filter hact
  refine { h with
    layout := { hL with
      arenas := ?_
      pageTables := ?_
      freeBlocks := ?_
      tables := fun pt => ?_
      pages := fun r => ?_ }
    active := hactive
    free := ?_
    flags := fun {r} hr => ?_
    owner := fun {p} hact => ?_
    frame := fun {p r} ho => ?_ }
  · show Function.update t.arenas t.pageTableBaseRegister [] = _
    rw [hL.arenas, hL.ptbr]
    rfl
  · show t.pageTables.erase pid = s.pageTables.erase pid
    rw [hL.pageTables]
  · show t.freeBlocks ++ t.blocksOf _ = s.freeBlocks ++ s.blocksOf _
    rw [hL.freeBlocks, hL.arenas, hL.ptbr, hL.blocksOf]
  · simp only [State.destroyed_tables, Function.update_apply, hL.ptbr]
    split
    · rfl
    · exact hL.tables pt
  · simp only [State.destroyed_pages, State.reaped_pages, hL.arenas, hL.ptbr, hL.type]
    split
    · rw [hL.page r]
      rfl
    · exact hL.pages r
  · -- each state has as many frames as before
    have hq : ((s.destroyed pid ppns).freePages ++ (s.destroyed pid ppns).activePages).length = _ :=
      (destroyed_queues hs (hp.nodup_iff.2 (frameSet_nodup _ _))).length_eq
    have hq' : ((t.destroyed pid ppns').freePages ++ (t.destroyed pid ppns').activePages).length =
      _ := (destroyed_queues ht (hp'.nodup_iff.2 (frameSet_nodup _ _))).length_eq
    have hlen := congrArg List.length h.active
    have hlen' := congrArg List.length hactive
    have hfree := h.free
    simp only [List.length_append, List.length_map] at hq hq' hlen hlen'
    omega
  · rw [destroyed_flags, destroyed_flags]
    exact h.flags (destroyed_held hr)
  · rw [destroyed_owner, destroyed_owner, if_congr (hset (hsub hact)) rfl (h.owner (hsub hact))]
  · rw [destroyed_owner] at ho
    split at ho
    · cases ho
    · exact h.frame ho

end Act

end Renumbers

end VmPager
