import VmPager.Inv.Evict
import VmPager.Core.FrameAddress

/-!
# Bringing a page in

The second half of a fault. A frame without a page (the hole) is written: with a block, with what a
failed read leaves, or with zeroes; no page sees it (`HoleWrite`). Then the frame goes back to the
free queue (`Inv.readFailed`), or is given to the page that faulted (`Inv.fill`). `Inv.faultPage` is
the whole fault.
-/

namespace VmPager

open Lib.Frames Lib.History

/-! ### Writing the hole -/

/-- From `s` to `s'` only the bytes of the frame `p` change. -/
structure HoleWrite (p : ℕ) (s s' : State) : Prop where
  layout : SameLayout s s'
  pages : s'.pages = s.pages
  disk : s'.disk = s.disk
  frame : ∀ {q}, q ≠ p → s'.frame q = s.frame q

section HoleWrite

variable {p : ℕ} {s s' : State}

/-- No page in use is in the hole. -/
lemma Frames.ppn_ne_hole (h : Frames (some p) s) {r : PageRef} (hr : s.Held r) :
    (s.pages r).ppn ≠ p := by
  rcases h.ppn_cases hr with h0 | ho
  · rw [h0]
    exact (h.active_pos (h.hole_active rfl)).1.symm
  · intro hp
    exact (h.owner_ok ho).2.1 (by rw [hp])

theorem HoleWrite.onDisk (hw : HoleWrite p s s') (r : PageRef) : s'.onDisk r = s.onDisk r :=
  onDisk_congr hw.layout hw.disk r

/-- **No page sees a write to the hole.** -/
theorem HoleWrite.content (hw : HoleWrite p s s') (h : Frames (some p) s) {r : PageRef}
    (hr : s.Held r) : s'.content r = s.content r := by
  unfold State.content
  rw [hw.pages, hw.onDisk, hw.frame (h.ppn_ne_hole hr)]

theorem HoleWrite.contents (hw : HoleWrite p s s') (h : Frames (some p) s) (hc : Contents s) :
    Contents s' where
  clean {r} hr hf hd := by
    have hr' := (hw.layout.held r).1 hr
    rw [hw.pages] at hf hd ⊢
    rw [hw.onDisk, hw.frame (h.ppn_ne_hole hr')]
    exact hc.clean hr' hf hd
  zero := by
    rw [hw.frame (h.active_pos (h.hole_active rfl)).1.symm]
    exact hc.zero

end HoleWrite

section Hole

variable {p : ℕ} {s : State}

theorem holeWrite_readInto (s : State) (bk : Option Name × ℕ) (p : ℕ) :
    HoleWrite p s (s.readInto bk p) :=
  ⟨{ SameLayout.refl s with }, rfl, rfl, frame_store_ne rfl⟩

theorem holeWrite_readFailed (s : State) (bk : Option Name × ℕ) (p : ℕ) (left : Page) :
    HoleWrite p s (s.readFailed bk p left) :=
  ⟨{ SameLayout.refl s with }, rfl, rfl, frame_store_ne rfl⟩

theorem holeWrite_zeroFrame (s : State) (p : ℕ) : HoleWrite p s (s.zeroFrame p) :=
  ⟨{ SameLayout.refl s with }, rfl, rfl, frame_store_ne rfl⟩

lemma readInto_frame (s : State) (bk : Option Name × ℕ) (p : ℕ) :
    (s.readInto bk p).frame p = s.disk bk.1 bk.2 :=
  frame_store_self rfl

lemma zeroFrame_frame (s : State) (p : ℕ) : (s.zeroFrame p).frame p = s.frame 0 :=
  frame_store_self rfl

lemma Frames.isFrameAddr_hole (h : Frames (some p) s) : IsFrameAddr s.maxSize (p * vmPagesize) :=
  isFrameAddr_mul h (h.hole_active rfl)

/-- A read of a swap block is in order when the block has been written by its owner. -/
theorem Inv.readInto (h : Inv (some p) s) {bk : Option Name × ℕ}
    (hb : bk.1 = none → ownWrite bk.2 s.trace = true) :
    Inv (some p) (s.readInto bk p) ∧ Evolves s (s.readInto bk p) := by
  have hw := holeWrite_readInto s bk p
  exact ⟨⟨hw.layout.layout h.layout, Coherent.congr h.coherent rfl rfl rfl, { h.frames with },
    hw.contents h.frames h.contents,
    h.ghost.event hw.layout rfl rfl (fun q => granted_fileRead q _ _ _ _ _)
      (fun b hb => (ownWrite_fileRead b _ _ _ _ _).trans hb) (fun _ _ => rfl)
      ⟨h.frames.isFrameAddr_hole, hb⟩⟩,
    hw.layout, hw.content h.frames, fun _ => by rw [hw.disk], [_], rfl⟩

theorem Inv.zeroFrame (h : Inv (some p) s) :
    Inv (some p) (s.zeroFrame p) ∧ Evolves s (s.zeroFrame p) := by
  have hw := holeWrite_zeroFrame s p
  exact ⟨⟨hw.layout.layout h.layout, Coherent.congr h.coherent rfl rfl rfl, { h.frames with },
    hw.contents h.frames h.contents,
    h.ghost.event hw.layout rfl rfl (fun q => granted_memcpy q _ _ _)
      (fun b hb => (ownWrite_memcpy b _ _ _).trans hb) (fun _ _ => rfl)
      ⟨h.frames.isFrameAddr_hole, rfl⟩⟩,
    hw.layout, hw.content h.frames, fun _ => by rw [hw.disk], [_], rfl⟩

/-- The hole has no page. -/
lemma Frames.owner_hole (h : Frames (some p) s) : s.owner p = none := by
  cases ho : s.owner p with
  | none => rfl
  | some r => exact absurd rfl (h.owner_ok ho).2.1

lemma Frames.readFailed (h : Frames (some p) s) (bk : Option Name × ℕ) (left : Page) :
    Frames none (s.readFailed bk p left) := by
  have hp := h.hole_active rfl
  have howner : ∀ q, (s.readFailed bk p left).owner q = if q = p then none else s.owner q :=
    owner_set rfl (h.phys_lt hp)
  -- the hole had no page, so all owners are as before
  have hsame : ∀ q, (s.readFailed bk p left).owner q = s.owner q := by
    intro q
    rw [howner]
    split
    · rename_i hq
      rw [hq, h.owner_hole]
    · rfl
  refine { h with
    phys_length := by simp [h.phys_length]
    queues := ?_
    owner_ok := fun {q r} ho => ?_
    owned := fun {r} hr hf => ?_
    active_owned := fun {q} ha _ => ?_
    hole_active := fun hh => by cases hh }
  · refine List.Perm.trans ?_ h.queues
    rw [State.readFailed_freePages, State.readFailed_activePages, List.append_assoc]
    exact ((List.perm_cons_erase hp).symm).append_left s.freePages
  · rw [hsame] at ho
    obtain ⟨h1, h2, h3⟩ := h.owner_ok ho
    have hne : q ≠ p := fun e => h2 (by rw [e])
    exact ⟨(List.mem_erase_of_ne hne).2 h1, by simp, h3⟩
  · rw [hsame]
    exact h.owned hr hf
  · have hqp : q ≠ p := by
      rintro rfl
      exact (List.Nodup.not_mem_erase h.active_nodup) ha
    rw [hsame]
    exact h.active_owned (List.mem_of_mem_erase ha) (by simpa using hqp.symm)

theorem Inv.readFailed (h : Inv (some p) s) {bk : Option Name × ℕ} (left : Page)
    (hb : bk.1 = none → ownWrite bk.2 s.trace = true) :
    Inv none (s.readFailed bk p left) ∧ Evolves s (s.readFailed bk p left) := by
  have hw := holeWrite_readFailed s bk p left
  exact ⟨⟨hw.layout.layout h.layout, Coherent.congr h.coherent rfl rfl rfl,
    h.frames.readFailed bk left, hw.contents h.frames h.contents,
    h.ghost.event hw.layout rfl rfl (fun q => granted_fileRead q _ _ _ _ _)
      (fun b hb => (ownWrite_fileRead b _ _ _ _ _).trans hb) (fun _ _ => rfl)
      ⟨h.frames.isFrameAddr_hole, hb⟩⟩,
    hw.layout, hw.content h.frames, fun _ => by rw [hw.disk], [_], rfl⟩

end Hole

/-! ### Giving the frame to a page -/

section Fill

variable {p : ℕ} {s : State} {r : PageRef} {write : Bool}

theorem sameLayout_fill (s : State) (r : PageRef) (p : ℕ) (d w : Bool) :
    SameLayout s (s.fill r p d w) :=
  { sameLayout_refresh s r ⟨p, true, true, d⟩ with }

lemma fill_page (s : State) (r : PageRef) (p : ℕ) (d w : Bool) (q : PageRef) :
    (s.fill r p d w).pages q =
      if q = r then (s.pages r).withFlags ⟨p, true, true, d⟩ else s.pages q :=
  refresh_page s r ⟨p, true, true, d⟩ q

lemma Frames.fill (h : Frames (some p) s) (hr : s.Held r) (hf : ¬ (s.pages r).Framed)
    (d w : Bool) : Frames none (s.fill r p d w) := by
  have hsame := sameLayout_fill s r p d w
  have hp := h.hole_active rfl
  have hpos := (h.active_pos hp).1
  have howner : ∀ q, (s.fill r p d w).owner q = if q = p then some r else s.owner q :=
    owner_set rfl (h.phys_lt hp)
  refine { h with
    phys_length := by simp [h.phys_length]
    flags_ok := fun {q} hq => ?_
    owner_ok := fun {p' q} ho => ?_
    owned := fun {q} hq hqf => ?_
    active_owned := fun {p'} ha _ => ?_
    hole_active := fun hh => by cases hh }
  · rw [fill_page]
    split
    · exact ⟨fun h0 => by simp at h0, fun _ h0 => absurd h0 hpos⟩
    · exact h.flags_ok ((hsame.held q).1 hq)
  · rw [howner] at ho
    split at ho
    · rename_i hpp
      cases ho
      rw [fill_page, if_pos rfl, hpp]
      exact ⟨hp, by simp, (hsame.held r).2 hr, rfl, rfl⟩
    · obtain ⟨h1, -, h3, h4, h5⟩ := h.owner_ok ho
      have hqr : q ≠ r := by
        rintro rfl
        exact hf (h.owner_framed ho)
      rw [fill_page, if_neg hqr]
      exact ⟨h1, by simp, (hsame.held q).2 h3, h4, h5⟩
  · have hq' := (hsame.held q).1 hq
    rw [fill_page] at hqf ⊢
    by_cases hqr : q = r
    · subst hqr
      rw [if_pos rfl, withFlags_ppn, howner, if_pos rfl]
    · rw [if_neg hqr] at hqf ⊢
      rw [howner, if_neg (h.ppn_ne_hole hq')]
      exact h.owned hq' hqf
  · rw [howner]
    split
    · exact ⟨r, rfl⟩
    · rename_i hne
      exact h.active_owned ha (by simpa using Ne.symm hne)

/-- A page without a frame is clean. -/
lemma Frames.clean_of_not_framed {hole : Option ℕ} (h : Frames hole s) (hr : s.Held r)
    (hf : ¬ (s.pages r).Framed) : (s.pages r).dirty = false := by
  have hok := h.flags_ok hr
  cases hres : (s.pages r).resident with
  | false => exact congrArg Flags.dirty (hok.out hres)
  | true => exact (hok.fresh hres (by_contra fun h0 => hf ⟨hres, h0⟩)).2.2

lemma Ghost.fill {hole : Option ℕ} (h : Ghost s) (hF : Frames hole s) (hr : s.Held r)
    (hf : ¬ (s.pages r).Framed)
    (hw : (s.pages r).type = .swapBacked → write = false →
      ownWrite (s.pages r).swapBlock s.trace = true) :
    Ghost (s.fill r p write write) := by
  have hsame := sameLayout_fill s r p write write
  have hclean := hF.clean_of_not_framed hr hf
  refine ⟨fun {q} hq => ?_, fun {pt vpn q} hs ht => ?_, fun {q} hq => ?_, ⟨trivial, h.events⟩⟩
  · have hq' := (hsame.held q).1 hq
    rw [fill_page, State.fill_trace, granted_faulted, ← h.dirty_iff hq']
    by_cases hqr : q = r
    · subst hqr
      simp [hclean]
    · simp [hqr, Ne.symm hqr]
  · rw [hsame.slot] at hs
    rw [hsame.type] at ht
    rw [fill_page, State.fill_trace, ownWrite_faulted]
    by_cases hqr : q = r
    · subst hqr
      rw [if_pos rfl, withFlags_dirty, withFlags_swapBlock]
      cases write with
      | true => exact .inr (.inl rfl)
      | false => exact .inr (.inr (hw ht rfl))
    · rw [if_neg hqr]
      exact h.written hs ht
  · rw [hsame.backing, State.fill_trace, ownerOf_faulted]
    exact h.owner ((hsame.held q).1 hq)

/-- **A page gets the frame.** The frame has its bytes, and those of its block unless a store is
granted. -/
theorem Inv.fill (h : Inv (some p) s) (hr : s.Held r) (hf : ¬ (s.pages r).Framed)
    (hc : s.frame p = s.content r) (hd : write = false → s.frame p = s.onDisk r)
    (hw : (s.pages r).type = .swapBacked → write = false →
      ownWrite (s.pages r).swapBlock s.trace = true) :
    Inv none (s.fill r p write write) ∧ Evolves s (s.fill r p write write) := by
  have hsame := sameLayout_fill s r p write write
  refine ⟨⟨hsame.layout h.layout,
    Coherent.congr (Coherent.refresh h.coherent r ⟨p, true, true, write⟩) rfl rfl rfl,
    h.frames.fill hr hf _ _, ⟨fun {q} hq hqf hqc => ?_, h.contents.zero⟩,
    h.ghost.fill h.frames hr hf hw⟩, hsame, fun {q} _ => ?_, fun _ => rfl, [_], rfl⟩
  · rw [onDisk_congr hsame rfl]
    rw [fill_page] at hqf hqc ⊢
    by_cases hqr : q = r
    · subst hqr
      rw [if_pos rfl] at hqc ⊢
      exact hd hqc
    · rw [if_neg hqr] at hqf hqc ⊢
      exact h.contents.clean ((hsame.held q).1 hq) hqf hqc
  · show _ = s.content q
    unfold State.content
    rw [onDisk_congr hsame rfl, fill_page]
    by_cases hqr : q = r
    · subst hqr
      rw [if_pos rfl]
      exact hc
    · rw [if_neg hqr]
      rfl

end Fill

/-! ### A block is loaded -/

section LoadBlock

variable {s : State} {r : PageRef}

/-- What the load of a page's block comes to. -/
structure Loaded (s : State) (r : PageRef) (res : ℕ × State) : Prop where
  evolves : Evolves s res.2
  page : res.2.pages r = s.pages r
  fail : res.1 = 0 → Inv none res.2
  hole : res.1 ≠ 0 → Inv (some res.1) res.2
  frame : res.1 ≠ 0 → res.2.frame res.1 = res.2.onDisk r

/-- The block of a page out of memory may be read. -/
lemma Inv.ownWrite_of_out {hole : Option ℕ} (h : Inv hole s) (hr : s.Held r)
    (hout : (s.pages r).resident = false) (ht : (s.pages r).type = .swapBacked) :
    ownWrite (s.pages r).swapBlock s.trace = true := by
  obtain ⟨pt, vpn, hs⟩ := h.layout.slot_of_swap hr ht
  have hd : (s.pages r).dirty = false :=
    congrArg Flags.dirty ((h.frames.flags_ok hr).out hout)
  rcases h.ghost.written hs ht with h0 | h1 | h2
  · rw [hout] at h0
    exact absurd h0.1 Bool.false_ne_true
  · rw [hd] at h1
    cases h1
  · exact h2

lemma Inv.backing_written {hole : Option ℕ} (h : Inv hole s) (hr : s.Held r)
    (hout : (s.pages r).resident = false) (hb : (s.pages r).backing.1 = none) :
    ownWrite (s.pages r).backing.2 s.trace = true := by
  cases ht : (s.pages r).type with
  | swapBacked =>
    rw [PageState.backing, if_pos ht]
    exact h.ownWrite_of_out hr hout ht
  | fileBacked =>
    obtain ⟨n, hn, -⟩ := h.layout.file_of_held hr ht
    rw [PageState.backing, ht, if_neg PageType.noConfusion, hn] at hb
    cases hb

theorem Inv.loadBlock (h : Inv none s) (hr : s.Held r) (hout : (s.pages r).resident = false) :
    Loaded s r (s.loadBlock (s.pages r).backing) := by
  obtain ⟨hm, hres⟩ := h.takeFrame
  have hpage : s.takeFrame.2.pages r = s.pages r :=
    hm.frameless hr fun hf => by simp [hf.1] at hout
  have hr' := (hm.layout.held r).2 hr
  have hout' : (s.takeFrame.2.pages r).resident = false := by rw [hpage]; exact hout
  unfold State.loadBlock
  rcases hres with ⟨h0, h1⟩ | ⟨h0, h1⟩
  · rw [if_pos h0]
    exact ⟨hm.toEvolves, hpage, fun _ => h1, fun hne => absurd rfl hne, fun hne => absurd rfl hne⟩
  · rw [if_neg h0]
    have hb := h1.backing_written hr' hout'
    rw [hpage] at hb
    cases s.takeFrame.2.reads.head with
    | success =>
      obtain ⟨h2, he⟩ := h1.readInto hb
      have hframe : (s.takeFrame.2.readInto (s.pages r).backing s.takeFrame.1).frame
          s.takeFrame.1 = (s.takeFrame.2.readInto (s.pages r).backing s.takeFrame.1).onDisk r := by
        rw [readInto_frame, State.onDisk, State.readInto_pages, hpage]
        rfl
      exact ⟨hm.toEvolves.trans he, hpage, fun hz => absurd hz h0, fun _ => h2, fun _ => hframe⟩
    | failure left =>
      obtain ⟨h2, he⟩ := h1.readFailed left hb
      exact ⟨hm.toEvolves.trans he, hpage, fun _ => h2, fun hne => absurd rfl hne,
        fun hne => absurd rfl hne⟩

/-- **A fresh page gets a frame**, filled with zeroes. -/
lemma Inv.fillFresh (h : Inv none s) (hr : s.Held r) (hres : (s.pages r).resident = true)
    (hppn : (s.pages r).ppn = 0) (h0 : s.takeFrame.1 ≠ 0) :
    Inv none ((s.takeFrame.2.zeroFrame s.takeFrame.1).fill r s.takeFrame.1 true true) ∧
      Evolves s ((s.takeFrame.2.zeroFrame s.takeFrame.1).fill r s.takeFrame.1 true true) := by
  have hm := h.takeFrame.1
  have h1 := h.takeFrame_hole h0
  obtain ⟨h2, he⟩ := h1.zeroFrame
  have hpage : (s.takeFrame.2.zeroFrame s.takeFrame.1).pages r = s.pages r :=
    hm.frameless hr fun hf => hf.2 hppn
  have hr2 := (he.layout.held r).2 ((hm.layout.held r).2 hr)
  have hc : (s.takeFrame.2.zeroFrame s.takeFrame.1).frame s.takeFrame.1 =
      (s.takeFrame.2.zeroFrame s.takeFrame.1).content r := by
    rw [zeroFrame_frame, State.content, hpage, if_pos hres, hppn, h1.contents.zero, h2.contents.zero]
  obtain ⟨h3, he3⟩ : Inv none
      ((s.takeFrame.2.zeroFrame s.takeFrame.1).fill r s.takeFrame.1 true true) ∧ _ :=
    h2.fill hr2 (by rw [hpage]; exact fun hf => hf.2 hppn) hc (fun hz => by cases hz)
      fun _ hz => by cases hz
  exact ⟨h3, (hm.toEvolves.trans he).trans he3⟩

/-- **A page out of memory gets the frame** that its block was loaded into. -/
lemma Inv.fillLoaded (h : Inv none s) (hr : s.Held r) (hout : (s.pages r).resident = false)
    (h0 : (s.loadBlock (s.pages r).backing).1 ≠ 0) (write : Bool) :
    let res := s.loadBlock (s.pages r).backing
    Inv none (res.2.fill r res.1 write write) ∧ Evolves s (res.2.fill r res.1 write write) := by
  intro res
  obtain ⟨hev, hpage, -, hhole, hframe⟩ := h.loadBlock hr hout
  have h1 := hhole h0
  have hr' := (hev.layout.held r).2 hr
  have hout' : (res.2.pages r).resident = false := by rw [hpage]; exact hout
  have hnf : ¬ (res.2.pages r).Framed := fun hf => by
    rw [hf.1] at hout'
    cases hout'
  have hc : res.2.content r = res.2.onDisk r := by
    rw [State.content, hout', if_neg Bool.false_ne_true]
  obtain ⟨h2, he⟩ := h1.fill hr' hnf ((hframe h0).trans hc.symm) (fun _ => hframe h0)
    (fun ht _ => h1.ownWrite_of_out hr' hout' ht)
  exact ⟨h2, hev.trans he⟩

/-- **A fault.** A fresh page faults for stores only. -/
theorem Inv.faultPage (h : Inv none s) (hr : s.Held r) {write : Bool}
    (hw : (s.pages r).resident = true → (s.pages r).ppn = 0 → write = true) :
    Inv none (s.faultPage r write).2 ∧ Evolves s (s.faultPage r write).2 := by
  unfold State.faultPage
  split
  · rename_i hres
    split
    · rename_i hppn
      -- a fresh page
      split
      · rename_i h0
        exact ⟨h.takeFrame_none h0, h.takeFrame.1.toEvolves⟩
      · rename_i h0
        obtain rfl := hw hres hppn
        exact h.fillFresh hr hres hppn h0
    · rename_i hppn
      have hf : (s.pages r).Framed := ⟨hres, hppn⟩
      exact ⟨h.touch hf write, sameLayout_touch s r write, fun _ => content_refresh hf rfl rfl _,
        fun _ => rfl, [_], rfl⟩
  · rename_i hres
    have hout : (s.pages r).resident = false := by simpa using hres
    split
    · rename_i h0
      exact ⟨(h.loadBlock hr hout).fail h0, (h.loadBlock hr hout).evolves⟩
    · rename_i h0
      exact h.fillLoaded hr hout h0 write

end LoadBlock

end VmPager
