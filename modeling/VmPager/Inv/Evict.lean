import VmPager.Inv.Refresh

/-!
# Making room

The invariant along `State.takeFrame`: through the sweep (`Inv.swept`), the write-back of a victim
(`Inv.wrote`), its eviction, which leaves its frame without a page (`Inv.dropPage`), and the other
way to such a frame, from the free queue (`Inv.takeFree`). What else is known of these steps is
`MakesRoom`: no page loses its bytes, and pages without a frame are not touched.
-/

namespace VmPager

open Lib.Frames Lib.History Lib.SecondChance

/-! ### Blocks have one page -/

section Backing

variable {s : State} (hL : Layout s)
include hL

/-- A swap-backed page in use has a slot. -/
theorem Layout.slot_of_swap {r : PageRef} (h : s.Held r) (ht : (s.pages r).type = .swapBacked) :
    ∃ pt vpn, s.slot pt vpn = some r :=
  ⟨_, _, (hL.inSlot_swap h ht _).1 rfl⟩

theorem Layout.mem_livePages {r : PageRef} {pt : Ptbr} {vpn : ℕ} (h : s.slot pt vpn = some r) :
    r ∈ s.livePages := by
  obtain ⟨pid, hpid⟩ := (hL.live_iff pt).2 (hL.arena_live h)
  exact List.mem_flatMap.2 ⟨⟨pid, pt⟩, AList.mem_lookup_iff.1 hpid, List.mem_of_getElem? h⟩

theorem Layout.liveBlocks_nodup : s.liveBlocks.Nodup :=
  (List.nodup_append.1 (hL.blocks.nodup_iff.2 List.nodup_range)).2.1

/-- **No two swap-backed pages in use have one block.** -/
theorem Layout.swapBlock_inj {r q : PageRef} (hr : s.Held r) (hq : s.Held q)
    (htr : (s.pages r).type = .swapBacked) (htq : (s.pages q).type = .swapBacked)
    (hb : (s.pages r).swapBlock = (s.pages q).swapBlock) : r = q := by
  have hmem : ∀ {x}, s.Held x → (s.pages x).type = .swapBacked →
      x ∈ s.livePages.filter s.IsSwap := by
    intro x hx ht
    obtain ⟨pt, vpn, hs⟩ := hL.slot_of_swap hx ht
    exact List.mem_filter.2 ⟨hL.mem_livePages hs, by simp [State.IsSwap, ht]⟩
  exact List.inj_on_of_nodup_map hL.liveBlocks_nodup (hmem hr htr) (hmem hq htq) hb

/-- **No two pages in use have one block.** -/
theorem Layout.backing_inj {r q : PageRef} (hr : s.Held r) (hq : s.Held q)
    (hb : (s.pages r).backing = (s.pages q).backing) : r = q := by
  unfold PageState.backing at hb
  cases htr : (s.pages r).type <;> cases htq : (s.pages q).type
  · simp only [htr, htq, if_true] at hb
    exact hL.swapBlock_inj hr hq htr htq (Prod.mk.inj hb).2
  · obtain ⟨n, hn, -⟩ := hL.file_of_held hq htq
    simp [htr, htq, hn] at hb
  · obtain ⟨n, hn, -⟩ := hL.file_of_held hr htr
    simp [htr, htq, hn] at hb
  · obtain ⟨n, hn, hf⟩ := hL.file_of_held hr htr
    obtain ⟨m, hm, hg⟩ := hL.file_of_held hq htq
    simp only [htr, htq, hn, hm, Prod.mk.injEq, reduceCtorEq, if_false, Option.some.injEq] at hb
    rw [hb.1, hb.2, hg] at hf
    exact (Option.some.inj hf).symm

/-- A page on a block of the swap file is swap-backed. -/
theorem Layout.swap_of_backing {r : PageRef} {b : ℕ} (hr : s.Held r)
    (hb : (s.pages r).backing = (none, b)) :
    (s.pages r).type = .swapBacked ∧ (s.pages r).swapBlock = b := by
  unfold PageState.backing at hb
  cases ht : (s.pages r).type with
  | swapBacked =>
    rw [if_pos ht] at hb
    exact ⟨rfl, congrArg Prod.snd hb⟩
  | fileBacked =>
    obtain ⟨m, hm, -⟩ := hL.file_of_held hr ht
    rw [ht, if_neg PageType.noConfusion, hm] at hb
    cases hb

/-- A page on a block of a file is the one of the file table. -/
theorem Layout.fileTable_of_backing {r : PageRef} {n : Name} {b : ℕ} (hr : s.Held r)
    (hb : (s.pages r).backing = (some n, b)) : s.fileTable n b = some r := by
  unfold PageState.backing at hb
  cases ht : (s.pages r).type with
  | swapBacked =>
    rw [if_pos ht] at hb
    cases congrArg Prod.fst hb
  | fileBacked =>
    obtain ⟨m, hm, hf⟩ := hL.file_of_held hr ht
    rw [ht, if_neg PageType.noConfusion, hm] at hb
    cases hb
    exact hf

end Backing

/-! ### What evolves under faults and evictions -/

/-- From `s` to `s'` no page in use has lost or gained bytes, nor has any block of a file without a
page. -/
structure Evolves (s s' : State) : Prop where
  layout : SameLayout s s'
  content : ∀ {r}, s.Held r → s'.content r = s.content r
  files : ∀ {n b}, s.fileTable n b = none → s'.disk (some n) b = s.disk (some n) b
  trace : ∃ es, s'.trace = es ++ s.trace

theorem Evolves.refl (s : State) : Evolves s s :=
  ⟨SameLayout.refl s, fun _ => rfl, fun _ => rfl, [], rfl⟩

theorem Evolves.trans {s s' s'' : State} (h : Evolves s s') (h' : Evolves s' s'') :
    Evolves s s'' := by
  obtain ⟨es, hes⟩ := h.trace
  obtain ⟨es', hes'⟩ := h'.trace
  refine ⟨h.layout.trans h'.layout, fun hr => ?_, fun hf => ?_, es' ++ es, by simp [hes', hes]⟩
  · exact (h'.content ((h.layout.held _).2 hr)).trans (h.content hr)
  · exact (h'.files (by rw [h.layout.fileTable]; exact hf)).trans (h.files hf)

/-- What is known of a search for a frame. -/
structure MakesRoom (s s' : State) : Prop extends Evolves s s' where
  /-- Pages without a frame are not touched. -/
  frameless : ∀ {r}, s.Held r → ¬ (s.pages r).Framed → s'.pages r = s.pages r
  reads : s'.reads = s.reads
  physmem : s'.physmem = s.physmem

theorem MakesRoom.trans {s s' s'' : State} (h : MakesRoom s s') (h' : MakesRoom s' s'') :
    MakesRoom s s'' where
  toEvolves := h.toEvolves.trans h'.toEvolves
  frameless hr hf := by
    have hp := h.frameless hr hf
    rw [h'.frameless ((h.layout.held _).2 hr) (by rw [hp]; exact hf), hp]
  reads := h'.reads.trans h.reads
  physmem := h'.physmem.trans h.physmem

theorem MakesRoom.refl (s : State) : MakesRoom s s :=
  ⟨Evolves.refl s, fun _ _ => rfl, rfl, rfl⟩

/-! ### The sweep -/

/-- A sweep changes flags and entries alone. -/
lemma unrefAll_eq (ps : List ℕ) : ∀ s : State, s.unrefAll ps =
    { s with pages := (s.unrefAll ps).pages, tables := (s.unrefAll ps).tables } := by
  induction ps with
  | nil => intro s; rfl
  | cons p ps ih =>
    intro s
    have hs : ∀ A T, { s.unref p with pages := A, tables := T } =
        { s with pages := A, tables := T } := by
      intro A T
      unfold State.unref
      split <;> rfl
    calc s.unrefAll (p :: ps) = (s.unref p).unrefAll ps := rfl
      _ = { s.unref p with
            pages := ((s.unref p).unrefAll ps).pages
            tables := ((s.unref p).unrefAll ps).tables } := ih (s.unref p)
      _ = _ := hs _ _

section UnrefAll

variable (s : State) (ps : List ℕ)

@[simp] lemma unrefAll_activePages : (s.unrefAll ps).activePages = s.activePages := by
  rw [unrefAll_eq]
@[simp] lemma unrefAll_physMemPages : (s.unrefAll ps).physMemPages = s.physMemPages := by
  rw [unrefAll_eq]
@[simp] lemma unrefAll_writes : (s.unrefAll ps).writes = s.writes := by rw [unrefAll_eq]
@[simp] lemma unrefAll_trace : (s.unrefAll ps).trace = s.trace := by rw [unrefAll_eq]

end UnrefAll

lemma unref_owner (s : State) (p q : ℕ) : (s.unref p).owner q = s.owner q := by
  unfold State.unref
  split <;> rfl

/-- The pages of the frames passed over have lost their referenced flag. -/
theorem unrefAll_page (ps : List ℕ) : ∀ (s : State) (r : PageRef),
    (s.unrefAll ps).pages r = (s.pages r).withFlags { (s.pages r).flags with
      referenced := (s.pages r).referenced && decide (∀ p ∈ ps, s.owner p ≠ some r) } := by
  induction ps with
  | nil =>
    intro s r
    simp only [State.unrefAll, List.foldl_nil, List.not_mem_nil, false_imp_iff, implies_true,
      decide_true, Bool.and_true]
    rfl
  | cons p ps ih =>
    intro s r
    have hp : (s.unref p).pages r = (s.pages r).withFlags { (s.pages r).flags with
        referenced := (s.pages r).referenced && decide (s.owner p ≠ some r) } := by
      unfold State.unref
      cases ho : s.owner p with
      | none => simp only [ne_eq, reduceCtorEq, not_false_eq_true, decide_true, Bool.and_true]; rfl
      | some q =>
        show (s.refresh q _).pages r = _
        rw [refresh_page]
        by_cases hq : r = q
        · subst hq
          simp
        · simp only [hq, Ne.symm hq, if_false, ne_eq, Option.some.injEq, not_false_eq_true,
            decide_true, Bool.and_true]
          rfl
    rw [show s.unrefAll (p :: ps) = (s.unref p).unrefAll ps from rfl, ih, hp]
    simp only [unref_owner, withFlags_withFlags, flags_withFlags, withFlags_referenced,
      List.mem_cons, forall_eq_or_imp, Bool.decide_and, Bool.and_assoc]

/-- A change of flags and entries that leaves every frame to its page. -/
theorem Inv.unref {hole : Option ℕ} {s : State} (h : Inv hole s) (p : ℕ) :
    Inv hole (s.unref p) ∧ MakesRoom s (s.unref p) := by
  unfold State.unref
  cases ho : s.owner p with
  | none => exact ⟨h, MakesRoom.refl s⟩
  | some r =>
    have hf := h.frames.owner_framed ho
    refine ⟨h.unref_owner ho, ⟨sameLayout_refresh s r _, fun _ => content_refresh hf hf.1 rfl _,
      fun _ => rfl, [], rfl⟩, fun {q} _ hq => refresh_page_ne s ?_ _, rfl, rfl⟩
    rintro rfl
    exact hq hf

theorem Inv.unrefAll {hole : Option ℕ} (ps : List ℕ) : ∀ {s : State}, Inv hole s →
    Inv hole (s.unrefAll ps) ∧ MakesRoom s (s.unrefAll ps) := by
  induction ps with
  | nil => exact fun h => ⟨h, MakesRoom.refl _⟩
  | cons p ps ih =>
    intro s h
    obtain ⟨h1, hr1⟩ := h.unref p
    obtain ⟨h2, hr2⟩ := ih h1
    exact ⟨h2, hr1.trans hr2⟩

/-- A rotation of the active queue. -/
theorem Inv.setActive {hole : Option ℕ} {s : State} (h : Inv hole s) {ps : List ℕ}
    (hp : ps.Perm s.activePages) : Inv hole (s.setActive ps) ∧ MakesRoom s (s.setActive ps) := by
  have hsame : SameLayout s (s.setActive ps) := { SameLayout.refl s with }
  refine ⟨⟨hsame.layout h.layout, Coherent.congr h.coherent rfl rfl rfl, ?_,
    { h.contents with }, { h.ghost with }⟩,
    ⟨hsame, fun _ => rfl, fun _ => rfl, [], rfl⟩, fun _ _ => rfl, rfl, rfl⟩
  exact { h.frames with
    queues := (hp.append_left _).trans h.frames.queues
    owner_ok := fun ho => ⟨hp.mem_iff.2 (h.frames.owner_ok ho).1, (h.frames.owner_ok ho).2⟩
    active_owned := fun ha => h.frames.active_owned (hp.mem_iff.1 ha)
    hole_active := fun hh => hp.mem_iff.2 (h.frames.hole_active hh) }

/-- **The invariant through a sweep.** -/
theorem Inv.swept {hole : Option ℕ} {s : State} (h : Inv hole s) {v : ℕ} {passed rest : List ℕ}
    (hp : (rest ++ [v]).Perm s.activePages) :
    Inv hole (s.swept v passed rest) ∧ MakesRoom s (s.swept v passed rest) := by
  obtain ⟨h1, hr1⟩ := h.unrefAll passed
  have hp' : (rest ++ [v]).Perm (s.unrefAll passed).activePages := by simpa using hp
  obtain ⟨h2, hr2⟩ := h1.setActive hp'
  exact ⟨h2, hr1.trans hr2⟩

lemma swept_owner (s : State) (v : ℕ) (passed rest : List ℕ) (p : ℕ) :
    (s.swept v passed rest).owner p = s.owner p :=
  owner_congr (by simp [State.swept]) p

/-! ### The write-back -/

section WriteBack

variable {hole : Option ℕ} {s : State} {r : PageRef} {p : ℕ}

/-- A write-back leaves the other blocks. -/
lemma wrote_disk_ne {n : Option Name} {b : ℕ} (hb : (s.pages r).backing ≠ (n, b)) :
    (s.wrote r p).disk n b = s.disk n b := by
  show Function.update s.disk (s.pages r).backing.1
    (Function.update (s.disk (s.pages r).backing.1) (s.pages r).backing.2 (s.frame p)) n b = _
  by_cases h1 : n = (s.pages r).backing.1
  · have h2 : b ≠ (s.pages r).backing.2 := fun h => hb (Prod.ext h1.symm h.symm)
    rw [h1, Function.update_self, Function.update_of_ne h2]
  · rw [Function.update_of_ne h1]

/-- Pages other than the one written keep the bytes of their blocks. -/
theorem wrote_onDisk_ne (hL : Layout s) {q : PageRef} (hr : s.Held r) (hq : s.Held q)
    (hne : q ≠ r) : (s.wrote r p).onDisk q = s.onDisk q :=
  wrote_disk_ne fun h => hne (hL.backing_inj hr hq h).symm

theorem wrote_onDisk_self : (s.wrote r p).onDisk r = s.frame p := by
  show Function.update s.disk (s.pages r).backing.1
    (Function.update (s.disk (s.pages r).backing.1) (s.pages r).backing.2 (s.frame p))
    (s.pages r).backing.1 (s.pages r).backing.2 = _
  rw [Function.update_self, Function.update_self]

lemma isFrameAddr_mul (h : Frames hole s) (hp : p ∈ s.activePages) :
    IsFrameAddr s.maxSize (p * vmPagesize) :=
  ⟨p, (h.active_pos hp).1, (h.active_pos hp).2, rfl⟩

/-- A write that succeeds does not take `ownWrite` back. -/
lemma ownWrite_fileWrite_mono {b : ℕ} {h : List Event} (hb : ownWrite b h = true)
    (n : Option Name) (c buf : ℕ) (ok : Bool) :
    ownWrite b (.fileWrite n c buf ok :: h) = true := by
  cases n <;> simp [hb]

/-- An event that is no reset and no grant, while the pages stay as they are. -/
theorem Ghost.event {s' : State} {e : Event} (h : Ghost s) (hsame : SameLayout s s')
    (hp : s'.pages = s.pages) (ht : s'.trace = e :: s.trace)
    (hg : ∀ q, granted q (e :: s.trace) = granted q s.trace)
    (hw : ∀ b, ownWrite b s.trace = true → ownWrite b (e :: s.trace) = true)
    (ho : ∀ n b, ownerOf n b (e :: s.trace) = ownerOf n b s.trace)
    (he : EventOk s.maxSize e s.trace) : Ghost s' where
  dirty_iff hq := by
    rw [ht, hg, hp]
    exact h.dirty_iff ((hsame.held _).1 hq)
  written hs hty := by
    rw [hsame.slot] at hs
    rw [hp] at hty ⊢
    rw [ht]
    rcases h.written hs hty with h0 | h1 | h2
    · exact .inl h0
    · exact .inr (.inl h1)
    · exact .inr (.inr (hw _ h2))
  owner hq := by
    rw [ht, hp, ho]
    exact h.owner ((hsame.held _).1 hq)
  events := by
    rw [ht, hsame.maxSize]
    exact ⟨he, h.events⟩

/-- A write to the disk, whether it succeeds or not. -/
theorem Ghost.fileWrite {s' : State} (h : Ghost s) (hsame : SameLayout s s')
    (hp : s'.pages = s.pages) {n : Option Name} {b buf : ℕ} {ok : Bool}
    (ht : s'.trace = .fileWrite n b buf ok :: s.trace) (hb : IsFrameAddr s.maxSize buf)
    (ho : ∃ page, ownerOf n b s.trace = some page ∧ granted page s.trace = true) : Ghost s' :=
  h.event hsame hp ht (fun q => granted_fileWrite q _ n b buf ok)
    (fun _ hw => ownWrite_fileWrite_mono hw n b buf ok) (fun _ _ => rfl) ⟨hb, ho⟩

/-- The block of a dirty page has an owner with a store granted. -/
lemma Ghost.granted_owner (h : Ghost s) (hr : s.Held r) (hd : (s.pages r).dirty = true) :
    ∃ page, ownerOf (s.pages r).backing.1 (s.pages r).backing.2 s.trace = some page ∧
      granted page s.trace = true :=
  ⟨r, h.owner hr, by rw [← h.dirty_iff hr, hd]⟩

theorem sameLayout_wrote (s : State) (r : PageRef) (p : ℕ) : SameLayout s (s.wrote r p) :=
  { SameLayout.refl s with }

theorem sameLayout_writeFailed (s : State) (r : PageRef) (p : ℕ) :
    SameLayout s (s.writeFailed r p) :=
  { SameLayout.refl s with }

/-- **A write-back that succeeds.** -/
theorem Inv.wrote (h : Inv hole s) (ho : s.owner p = some r) (hd : (s.pages r).dirty = true) :
    Inv hole (s.wrote r p) ∧ MakesRoom s (s.wrote r p) := by
  have hr := h.frames.owner_held ho
  have hf := h.frames.owner_framed ho
  have hsame := sameLayout_wrote s r p
  refine ⟨⟨hsame.layout h.layout, Coherent.congr h.coherent rfl rfl rfl, { h.frames with },
    ⟨fun {q} hq hqf hc => ?_, h.contents.zero⟩,
    h.ghost.fileWrite hsame rfl rfl (isFrameAddr_mul h.frames (h.frames.owner_ok ho).1)
      (h.ghost.granted_owner hr hd)⟩,
    ⟨hsame, fun {q} hq => ?_, fun {n b} hf => ?_, [_], rfl⟩, fun _ _ => rfl, rfl, rfl⟩
  · -- the page written is dirty, the blocks of the others are as before
    have hne : q ≠ r := by
      rintro rfl
      rw [State.wrote_pages, hd] at hc
      cases hc
    rw [wrote_onDisk_ne h.layout hr hq hne]
    exact h.contents.clean hq hqf hc
  · by_cases hne : q = r
    · subst hne
      have hres : ((s.wrote q p).pages q).resident = true := hf.1
      rw [State.content, State.content, if_pos hres, if_pos hf.1]
      rfl
    · unfold State.content
      rw [wrote_onDisk_ne h.layout hr hq hne]
      rfl
  · exact wrote_disk_ne fun hb => by rw [h.layout.fileTable_of_backing hr hb] at hf; cases hf

/-- **A write-back that fails.** -/
theorem Inv.writeFailed (h : Inv hole s) (ho : s.owner p = some r)
    (hd : (s.pages r).dirty = true) :
    Inv hole (s.writeFailed r p) ∧ MakesRoom s (s.writeFailed r p) := by
  have hsame := sameLayout_writeFailed s r p
  exact ⟨⟨hsame.layout h.layout, Coherent.congr h.coherent rfl rfl rfl, { h.frames with },
    { h.contents with },
    h.ghost.fileWrite hsame rfl rfl (isFrameAddr_mul h.frames (h.frames.owner_ok ho).1)
      (h.ghost.granted_owner (h.frames.owner_held ho) hd)⟩,
    ⟨hsame, fun _ => rfl, fun _ => rfl, [_], rfl⟩, fun _ _ => rfl, rfl, rfl⟩

end WriteBack

/-! ### A victim leaves its frame -/

section Drop

variable {s : State} {r : PageRef} {p : ℕ}

theorem sameLayout_dropPage (s : State) (r : PageRef) (p : ℕ) : SameLayout s (s.dropPage r p) :=
  { sameLayout_refresh s r .out with }

lemma dropPage_page (s : State) (r : PageRef) (p : ℕ) (q : PageRef) :
    (s.dropPage r p).pages q = if q = r then (s.pages r).withFlags .out else s.pages q :=
  refresh_page s r .out q

lemma dropPage_framed {q : PageRef} (hf : ((s.dropPage r p).pages q).Framed) : q ≠ r := by
  rintro rfl
  rw [dropPage_page, if_pos rfl] at hf
  exact absurd hf.1 (by simp [Flags.out])

lemma Frames.dropPage (h : Frames none s) (ho : s.owner p = some r) :
    Frames (some p) (s.dropPage r p) := by
  have hsame := sameLayout_dropPage s r p
  have hp := h.phys_lt (h.owner_ok ho).1
  have howner : ∀ q, (s.dropPage r p).owner q = if q = p then none else s.owner q :=
    owner_set rfl hp
  refine { h with
    phys_length := by simp [h.phys_length]
    flags_ok := fun {q} hq => ?_
    owner_ok := fun {p' q} ho' => ?_
    owned := fun {q} hq hf => ?_
    active_owned := fun {p'} ha hh => ?_
    hole_active := fun {p'} hh => ?_ }
  · rw [dropPage_page]
    split
    · exact ⟨fun _ => rfl, fun h0 => by simp [Flags.out] at h0⟩
    · exact h.flags_ok ((hsame.held q).1 hq)
  · rw [howner] at ho'
    split at ho'
    · cases ho'
    · rename_i hne
      obtain ⟨h1, -, h3, h4, h5⟩ := h.owner_ok ho'
      -- the victim owned `p` alone
      have hqr : q ≠ r := fun e => hne (by rw [← h5, e, h.owner_ppn ho])
      rw [dropPage_page, if_neg hqr]
      exact ⟨h1, by simpa using Ne.symm hne, (hsame.held q).2 h3, h4, h5⟩
  · have hqr := dropPage_framed hf
    rw [dropPage_page, if_neg hqr] at hf ⊢
    have hown := h.owned ((hsame.held q).1 hq) hf
    rw [howner, if_neg, hown]
    intro e
    rw [e, ho] at hown
    exact hqr (Option.some.inj hown).symm
  · have hne : p' ≠ p := fun e => hh (by rw [e])
    rw [howner, if_neg hne]
    exact h.active_owned ha (by simp)
  · cases hh
    exact (h.owner_ok ho).1

/-- **An eviction.** The victim's block has the bytes of its frame. -/
theorem Inv.dropPage (h : Inv none s) (ho : s.owner p = some r)
    (hdisk : s.frame p = s.onDisk r)
    (hw : (s.pages r).type = .swapBacked → ownWrite (s.pages r).swapBlock s.trace = true)
    (he : EventOk s.maxSize (.evicted r) s.trace) :
    Inv (some p) (s.dropPage r p) ∧ MakesRoom s (s.dropPage r p) := by
  have hsame := sameLayout_dropPage s r p
  have hf := h.frames.owner_framed ho
  have hppn := h.frames.owner_ppn ho
  refine ⟨⟨hsame.layout h.layout, Coherent.congr (Coherent.refresh h.coherent r .out) rfl rfl rfl,
    h.frames.dropPage ho, ⟨fun {q} hq hqf hc => ?_, h.contents.zero⟩, ?_⟩,
    ⟨hsame, fun {q} hq => ?_, fun _ => rfl, [_], rfl⟩, fun {q} hq hqf => ?_, rfl, rfl⟩
  · have hqr := dropPage_framed hqf
    rw [onDisk_congr hsame rfl]
    rw [dropPage_page, if_neg hqr] at hqf hc ⊢
    exact h.contents.clean ((hsame.held q).1 hq) hqf hc
  · refine ⟨fun {q} hq => ?_, fun {pt vpn q} hs ht => ?_, fun {q} hq => ?_, ⟨he, h.ghost.events⟩⟩
    · rw [dropPage_page, State.dropPage_trace, granted_evicted]
      by_cases hqr : q = r
      · subst hqr
        simp [Flags.out]
      · simp [hqr, Ne.symm hqr, h.ghost.dirty_iff ((hsame.held q).1 hq)]
    · rw [hsame.slot] at hs
      rw [hsame.type] at ht
      rw [dropPage_page, State.dropPage_trace, ownWrite_evicted]
      by_cases hqr : q = r
      · subst hqr
        rw [if_pos rfl]
        exact .inr (.inr (hw ht))
      · rw [if_neg hqr]
        exact h.ghost.written hs ht
    · rw [hsame.backing, State.dropPage_trace, ownerOf_evicted]
      exact h.ghost.owner ((hsame.held q).1 hq)
  · unfold State.content
    rw [onDisk_congr hsame rfl, dropPage_page]
    by_cases hqr : q = r
    · subst hqr
      rw [if_pos rfl, withFlags_resident, hf.1, hppn]
      exact hdisk.symm
    · rw [if_neg hqr]
      rfl
  · rw [dropPage_page, if_neg]
    rintro rfl
    exact hqf hf

end Drop

/-! ### A frame is found -/

lemma Inv.takeFree {s : State} (h : Inv none s) {p : ℕ} {rest : List ℕ}
    (hp : s.freePages = p :: rest) :
    Inv (some p) (s.takeFree p rest) ∧ MakesRoom s (s.takeFree p rest) := by
  have hsame : SameLayout s (s.takeFree p rest) := { SameLayout.refl s with }
  have hnd := h.frames.queues_nodup
  have hnot : p ∉ s.activePages := by
    rw [hp] at hnd
    exact fun ha => (List.nodup_cons.1 hnd).1 (List.mem_append_right _ ha)
  refine ⟨⟨hsame.layout h.layout, Coherent.congr h.coherent rfl rfl rfl, ?_, { h.contents with },
    { h.ghost with }⟩, ⟨hsame, fun _ => rfl, fun _ => rfl, [], rfl⟩, fun _ _ => rfl, rfl, rfl⟩
  refine { h.frames with
    queues := ?_
    owner_ok := fun {p' q} ho => ?_
    active_owned := fun {p'} ha hh => ?_
    hole_active := fun {p'} hh => ?_ }
  · refine List.Perm.trans ?_ h.frames.queues
    rw [hp, State.takeFree_freePages, State.takeFree_activePages, ← List.append_assoc]
    exact List.perm_append_singleton p _
  · obtain ⟨h1, -, h3⟩ := h.frames.owner_ok ho
    refine ⟨List.mem_append_left _ h1, ?_, h3⟩
    rintro ⟨⟩
    exact hnot h1
  · rcases List.mem_append.1 ha with ha | ha
    · exact h.frames.active_owned ha (by simp)
    · exact absurd (by rw [List.mem_singleton.1 ha]) hh
  · cases hh
    simp

/-- What a search for a frame comes to: a state of the invariant, or one with the frame found for a
hole. -/
def RoomMade (s : State) (res : ℕ × State) : Prop :=
  MakesRoom s res.2 ∧ ((res.1 = 0 ∧ Inv none res.2) ∨ (res.1 ≠ 0 ∧ Inv (some res.1) res.2))

theorem RoomMade.trans {s s' : State} {res : ℕ × State} (h : MakesRoom s s')
    (h' : RoomMade s' res) : RoomMade s res :=
  ⟨h.trans h'.1, h'.2⟩

/-- **An eviction, whole.** -/
theorem Inv.evictFrom {s : State} (h : Inv none s) {p : ℕ} (hp : p ∈ s.activePages) :
    RoomMade s (s.evictFrom p) := by
  obtain ⟨r, ho⟩ := h.frames.active_owned hp (by simp)
  have hpos := (h.frames.owner_pos ho).1
  have hr := h.frames.owner_held ho
  have hf := h.frames.owner_framed ho
  have hppn := h.frames.owner_ppn ho
  unfold State.evictFrom
  rw [ho]
  dsimp only
  cases hd : (s.pages r).dirty with
  | false =>
    rw [if_neg Bool.false_ne_true]
    -- a clean victim is as on disk, and its owner has written it
    have hdisk : s.frame p = s.onDisk r := by
      have := h.contents.clean hr hf hd
      rwa [hppn] at this
    have hw : (s.pages r).type = .swapBacked →
        ownWrite (s.pages r).swapBlock s.trace = true := by
      intro ht
      obtain ⟨pt, vpn, hs⟩ := h.layout.slot_of_swap hr ht
      rcases h.ghost.written hs ht with h0 | h1 | h2
      · exact absurd h0.2 hf.2
      · rw [hd] at h1
        cases h1
      · exact h2
    have hno : granted r s.trace ≠ true := by
      rw [← h.ghost.dirty_iff hr, hd]
      exact Bool.false_ne_true
    obtain ⟨h1, hm⟩ := h.dropPage ho hdisk hw fun hg => absurd hg hno
    exact ⟨hm, .inr ⟨hpos, h1⟩⟩
  | true =>
    rw [if_pos rfl]
    split
    · obtain ⟨h1, hm1⟩ := h.wrote ho hd
      have hw : (s.pages r).type = .swapBacked →
          ownWrite (s.pages r).swapBlock (s.wrote r p).trace = true := by
        intro ht
        simp [State.wrote, PageState.backing, ht]
      have hdisk : (s.wrote r p).frame p = (s.wrote r p).onDisk r := by
        rw [wrote_onDisk_self]
        rfl
      obtain ⟨h2, hm2⟩ := h1.dropPage (r := r) ho hdisk hw fun _ =>
        ⟨_, _, _, _, rfl, h.ghost.owner hr⟩
      exact ⟨hm1.trans hm2, .inr ⟨hpos, h2⟩⟩
    · obtain ⟨h1, hm1⟩ := h.writeFailed ho hd
      exact ⟨hm1, .inl ⟨rfl, h1⟩⟩

/-- The active queue is not empty when the free one is. -/
lemma Frames.active_ne_nil {hole : Option ℕ} {s : State} (h : Frames hole s)
    (hfree : s.freePages = []) : s.activePages ≠ [] := by
  intro ha
  have hlen := h.queues.length_eq
  rw [hfree, ha, List.length_range'] at hlen
  have := h.size_min
  simp at hlen
  omega

/-- **A search for a frame.** -/
theorem Inv.takeFrame {s : State} (h : Inv none s) : RoomMade s s.takeFrame := by
  unfold State.takeFrame
  cases hfree : s.freePages with
  | cons p rest =>
    obtain ⟨h1, hm⟩ := h.takeFree hfree
    have hpos := (h.frames.free_pos (p := p) (by simp [hfree])).1
    exact ⟨hm, .inr ⟨hpos, h1⟩⟩
  | nil =>
    obtain ⟨v, passed, rest, hsw, hperm, -⟩ : ∃ v passed rest,
        sweep (s.activePages.length + 1) s.marked s.activePages = some (v, passed, rest) ∧
          (rest ++ [v]).Perm s.activePages ∧ _ :=
      sweep_total h.frames.active_nodup (h.frames.active_ne_nil hfree) (Nat.lt_succ_self _)
    rw [hsw]
    obtain ⟨h1, hm⟩ : Inv none (s.swept v passed rest) ∧ _ := h.swept hperm
    exact .trans hm (h1.evictFrom (by simp [State.swept]))

/-- No frame: the state is one between calls. -/
lemma Inv.takeFrame_none {s : State} (h : Inv none s) (h0 : s.takeFrame.1 = 0) :
    Inv none s.takeFrame.2 := by
  rcases h.takeFrame.2 with ⟨-, h1⟩ | ⟨hne, -⟩
  · exact h1
  · exact absurd h0 hne

/-- A frame: it has no page. -/
lemma Inv.takeFrame_hole {s : State} (h : Inv none s) (h0 : s.takeFrame.1 ≠ 0) :
    Inv (some s.takeFrame.1) s.takeFrame.2 := by
  rcases h.takeFrame.2 with ⟨hz, -⟩ | ⟨-, h1⟩
  · exact absurd hz h0
  · exact h1

end VmPager
