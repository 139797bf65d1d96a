import VmPager.Core.Defs

/-!
# Pages that keep their frame

First consequences of the invariant for frames and pages, then the two changes of a page that leave
it in its frame: the loss of its referenced flag in a sweep (`Inv.unref`), and a fault on it
(`Inv.touch`).
-/

namespace VmPager

open Lib.Frames Lib.History

/-! ### Frames and their pages -/

namespace Frames

variable {hole : Option ℕ} {s : State} (h : Frames hole s)
include h

theorem queues_nodup : (s.freePages ++ s.activePages).Nodup :=
  h.queues.nodup_iff.2 List.nodup_range'

theorem active_nodup : s.activePages.Nodup :=
  (List.nodup_append.1 h.queues_nodup).2.1

theorem mem_queues {p : ℕ} : p ∈ s.freePages ++ s.activePages ↔ p ≠ 0 ∧ p < s.maxSize := by
  have := h.size_min
  rw [h.queues.mem_iff, List.mem_range'_1]
  omega

theorem active_pos {p : ℕ} (hp : p ∈ s.activePages) : p ≠ 0 ∧ p < s.maxSize :=
  h.mem_queues.1 (List.mem_append_right _ hp)

theorem free_pos {p : ℕ} (hp : p ∈ s.freePages) : p ≠ 0 ∧ p < s.maxSize :=
  h.mem_queues.1 (List.mem_append_left _ hp)

theorem owner_held {p : ℕ} {r : PageRef} (ho : s.owner p = some r) : s.Held r :=
  (h.owner_ok ho).2.2.1

theorem owner_ppn {p : ℕ} {r : PageRef} (ho : s.owner p = some r) : (s.pages r).ppn = p :=
  (h.owner_ok ho).2.2.2.2

theorem owner_pos {p : ℕ} {r : PageRef} (ho : s.owner p = some r) : p ≠ 0 ∧ p < s.maxSize :=
  h.active_pos (h.owner_ok ho).1

theorem owner_framed {p : ℕ} {r : PageRef} (ho : s.owner p = some r) : (s.pages r).Framed := by
  refine ⟨(h.owner_ok ho).2.2.2.1, ?_⟩
  rw [h.owner_ppn ho]
  exact (h.owner_pos ho).1

/-- A page in use has no frame, or is the owner of its frame. -/
theorem ppn_cases {r : PageRef} (hr : s.Held r) :
    (s.pages r).ppn = 0 ∨ s.owner (s.pages r).ppn = some r := by
  by_cases hf : (s.pages r).Framed
  · exact .inr (h.owned hr hf)
  · left
    by_contra hp
    have hres : (s.pages r).resident = false := by
      cases hres : (s.pages r).resident with
      | false => rfl
      | true => exact absurd ⟨hres, hp⟩ hf
    exact hp (congrArg Flags.ppn ((h.flags_ok hr).out hres))

/-- Frame numbers fit the field of an entry. -/
theorem ppn_lt {r : PageRef} (hr : s.Held r) : (s.pages r).ppn < 2 ^ 20 := by
  rcases h.ppn_cases hr with h0 | ho
  · omega
  · have := (h.owner_pos ho).2
    have := h.size_max
    omega

theorem phys_lt {p : ℕ} (hp : p ∈ s.activePages) : p < s.physMemPages.length := by
  rw [h.phys_length]
  exact (h.active_pos hp).2

end Frames

lemma owner_eq_some {s : State} {p : ℕ} {r : PageRef} :
    s.owner p = some r ↔ s.physMemPages[p]? = some (some r) :=
  Option.join_eq_some_iff

/-- `phys_mem_pages` after an assignment. -/
lemma owner_set {s s' : State} {p : ℕ} {o : Option PageRef}
    (h : s'.physMemPages = s.physMemPages.set p o) (hp : p < s.physMemPages.length) (q : ℕ) :
    s'.owner q = if q = p then o else s.owner q := by
  unfold State.owner
  rw [h, List.getElem?_set]
  by_cases hq : q = p
  · subst hq
    simp [hp]
  · simp [hq, Ne.symm hq]

lemma owner_congr {s s' : State} (h : s'.physMemPages = s.physMemPages) (q : ℕ) :
    s'.owner q = s.owner q := by
  unfold State.owner
  rw [h]

lemma frame_congr {s s' : State} (h : s'.physmem = s.physmem) (p : ℕ) :
    s'.frame p = s.frame p := by
  unfold State.frame
  rw [h]

lemma refresh_page (s : State) (r : PageRef) (F : Flags) (q : PageRef) :
    (s.refresh r F).pages q = if q = r then (s.pages r).withFlags F else s.pages q := by
  by_cases h : q = r
  · subst h
    simp
  · simp [h]

/-! ### The history of a page -/

section Granted

variable (q r : PageRef) (h : List Event)

@[simp] lemma granted_faulted (w : Bool) :
    granted q (.faulted r w :: h) = (decide (r = q) && w || granted q h) := by
  simp [granted, since, isGrant, isReset]

@[simp] lemma granted_evicted :
    granted q (.evicted r :: h) = (!decide (r = q) && granted q h) := by
  simp [granted, since, isGrant, isReset]

@[simp] lemma granted_mapped (n : Option Name) (b : ℕ) :
    granted q (.mapped r n b :: h) = (!decide (r = q) && granted q h) := by
  simp [granted, since, isGrant, isReset]

@[simp] lemma granted_fileRead (n : Option Name) (b buf : ℕ) (ok : Bool) :
    granted q (.fileRead n b buf ok :: h) = granted q h := by
  simp [granted, since, isGrant, isReset]

@[simp] lemma granted_fileWrite (n : Option Name) (b buf : ℕ) (ok : Bool) :
    granted q (.fileWrite n b buf ok :: h) = granted q h := by
  simp [granted, since, isGrant, isReset]

@[simp] lemma granted_memcpy (dst src : ℕ) :
    granted q (.memcpy dst src :: h) = granted q h := by
  simp [granted, since, isGrant, isReset]

end Granted

section OwnWrite

variable (b : ℕ) (h : List Event)

@[simp] lemma ownWrite_faulted (r : PageRef) (w : Bool) :
    ownWrite b (.faulted r w :: h) = ownWrite b h := by
  simp [ownWrite, since, isSwapWrite, isSwapMap]

@[simp] lemma ownWrite_evicted (r : PageRef) : ownWrite b (.evicted r :: h) = ownWrite b h := by
  simp [ownWrite, since, isSwapWrite, isSwapMap]

@[simp] lemma ownWrite_fileRead (n : Option Name) (c buf : ℕ) (ok : Bool) :
    ownWrite b (.fileRead n c buf ok :: h) = ownWrite b h := by
  simp [ownWrite, since, isSwapWrite, isSwapMap]

@[simp] lemma ownWrite_memcpy (dst src : ℕ) :
    ownWrite b (.memcpy dst src :: h) = ownWrite b h := by
  simp [ownWrite, since, isSwapWrite, isSwapMap]

@[simp] lemma ownWrite_fileWrite_none (c buf : ℕ) (ok : Bool) :
    ownWrite b (.fileWrite none c buf ok :: h) = (decide (c = b) && ok || ownWrite b h) := by
  simp [ownWrite, since, isSwapWrite, isSwapMap]

@[simp] lemma ownWrite_fileWrite_some (n : Name) (c buf : ℕ) (ok : Bool) :
    ownWrite b (.fileWrite (some n) c buf ok :: h) = ownWrite b h := by
  simp [ownWrite, since, isSwapWrite, isSwapMap]

@[simp] lemma ownWrite_mapped_none (r : PageRef) (c : ℕ) :
    ownWrite b (.mapped r none c :: h) = (!decide (c = b) && ownWrite b h) := by
  simp [ownWrite, since, isSwapWrite, isSwapMap]

@[simp] lemma ownWrite_mapped_some (r : PageRef) (n : Name) (c : ℕ) :
    ownWrite b (.mapped r (some n) c :: h) = ownWrite b h := by
  simp [ownWrite, since, isSwapWrite, isSwapMap]

variable {b h} in
/-- A page made on another block leaves the block as it is. -/
lemma ownWrite_mapped_of_ne (hb : ownWrite b h = true) {r : PageRef} {n : Option Name} {c : ℕ}
    (hne : (none, b) ≠ (n, c)) : ownWrite b (.mapped r n c :: h) = true := by
  cases n with
  | none =>
    have hcb : c ≠ b := fun hc => hne (by rw [hc])
    simp [hcb, hb]
  | some n => simpa using hb

end OwnWrite

section OwnerOf

variable (n : Option Name) (b : ℕ) (h : List Event)

@[simp] lemma ownerOf_faulted (r : PageRef) (w : Bool) :
    ownerOf n b (.faulted r w :: h) = ownerOf n b h := rfl

@[simp] lemma ownerOf_evicted (r : PageRef) : ownerOf n b (.evicted r :: h) = ownerOf n b h := rfl

@[simp] lemma ownerOf_mapped (r : PageRef) (m : Option Name) (c : ℕ) :
    ownerOf n b (.mapped r m c :: h) = if m = n ∧ c = b then some r else ownerOf n b h := rfl

end OwnerOf

/-! ### A page that keeps its frame -/

section Keep

variable {hole : Option ℕ} {s : State} {r : PageRef} {F : Flags}

theorem Frames.refresh (h : Frames hole s) (hr : (s.pages r).Framed) (hres : F.resident = true)
    (hppn : F.ppn = (s.pages r).ppn) : Frames hole (s.refresh r F) := by
  have hsame := sameLayout_refresh s r F
  have hpage := refresh_page s r F
  have hF : F.ppn ≠ 0 := by rw [hppn]; exact hr.2
  -- residency, frame and being framed are as before, of every page
  have hkeep : ∀ q, ((s.refresh r F).pages q).resident = (s.pages q).resident ∧
      ((s.refresh r F).pages q).ppn = (s.pages q).ppn := by
    intro q
    rw [hpage q]
    split
    · rename_i hq
      subst hq
      exact ⟨hres.trans hr.1.symm, hppn⟩
    · exact ⟨rfl, rfl⟩
  refine { h with
    flags_ok := fun {q} hq => ?_
    owner_ok := fun {p q} ho => ?_
    owned := fun {q} hq hf => ?_ }
  · rw [hpage q]
    split
    · exact ⟨fun h0 => by simp [hres] at h0, fun _ h0 => absurd h0 hF⟩
    · exact h.flags_ok ((hsame.held q).1 hq)
  · obtain ⟨h1, h2, h3, h4, h5⟩ := h.owner_ok ho
    exact ⟨h1, h2, (hsame.held q).2 h3, (hkeep q).1.trans h4, (hkeep q).2.trans h5⟩
  · have hf' : (s.pages q).Framed := by
      rw [PageState.Framed, (hkeep q).1, (hkeep q).2] at hf
      exact hf
    rw [(hkeep q).2]
    exact h.owned ((hsame.held q).1 hq) hf'

theorem onDisk_congr {s s' : State} (h : SameLayout s s') (hd : s'.disk = s.disk) (q : PageRef) :
    s'.onDisk q = s.onDisk q := by
  unfold State.onDisk
  rw [h.backing, hd]

theorem Contents.refresh (h : Contents s) (hr : (s.pages r).Framed)
    (hppn : F.ppn = (s.pages r).ppn) (hd : F.dirty = false → (s.pages r).dirty = false) :
    Contents (s.refresh r F) := by
  have hsame := sameLayout_refresh s r F
  refine ⟨fun {q} hq hf hc => ?_, h.zero⟩
  rw [onDisk_congr hsame rfl]
  rw [refresh_page s r F q] at hf hc ⊢
  have hq' := (hsame.held q).1 hq
  split at hc
  · rename_i hqr
    subst hqr
    rw [if_pos rfl, withFlags_ppn, hppn]
    exact h.clean hq' hr (hd hc)
  · rename_i hqr
    rw [if_neg hqr] at hf ⊢
    exact h.clean hq' hf hc

/-- The contents of all pages are kept. -/
theorem content_refresh (hr : (s.pages r).Framed) (hres : F.resident = true)
    (hppn : F.ppn = (s.pages r).ppn) (q : PageRef) :
    (s.refresh r F).content q = s.content q := by
  unfold State.content
  rw [onDisk_congr (sameLayout_refresh s r F) rfl, refresh_page s r F q]
  split
  · rename_i hq
    subst hq
    rw [withFlags_resident, withFlags_ppn, hres, hppn, hr.1]
    rfl
  · rfl

/-- A clear of the referenced flag leaves the history as it is. -/
theorem Ghost.refresh (h : Ghost s) (hr : (s.pages r).Framed)
    (hppn : F.ppn = (s.pages r).ppn) (hd : F.dirty = (s.pages r).dirty) :
    Ghost (s.refresh r F) := by
  have hsame := sameLayout_refresh s r F
  have hdirty : ∀ q, ((s.refresh r F).pages q).dirty = (s.pages q).dirty := by
    intro q
    rw [refresh_page]
    split
    · rename_i hq
      subst hq
      exact hd
    · rfl
  refine ⟨fun {q} hq => ?_, fun {pt vpn q} hs ht => ?_, fun {q} hq => ?_, h.events⟩
  · rw [hdirty]
    exact h.dirty_iff ((hsame.held q).1 hq)
  · rw [hsame.slot] at hs
    rw [hsame.type] at ht
    rw [hdirty, hsame.page q]
    rcases h.written hs ht with h0 | h1
    · left
      by_cases hq : q = r
      · subst hq
        exact absurd h0.2 hr.2
      · simp only [refresh_page_ne s hq]
        exact h0
    · exact .inr h1
  · rw [hsame.backing]
    exact h.owner ((hsame.held q).1 hq)

/-- **A page that only loses its referenced flag.** -/
theorem Inv.unref_owner {p : ℕ} (h : Inv hole s) (ho : s.owner p = some r) :
    Inv hole (s.refresh r { (s.pages r).flags with referenced := false }) := by
  have hf := h.frames.owner_framed ho
  exact ⟨(sameLayout_refresh s r _).layout h.layout, Coherent.refresh h.coherent r _,
    h.frames.refresh hf hf.1 rfl, h.contents.refresh hf rfl id, h.ghost.refresh hf rfl rfl⟩

/-! ### A fault on a page with a frame -/

theorem sameLayout_touch (s : State) (r : PageRef) (w : Bool) : SameLayout s (s.touch r w) :=
  { sameLayout_refresh s r ⟨(s.pages r).ppn, true, true, (s.pages r).dirty || w⟩ with }

theorem Ghost.touch (h : Ghost s) (hr : (s.pages r).Framed) (w : Bool) : Ghost (s.touch r w) := by
  have hsame := sameLayout_touch s r w
  have hpage : ∀ q, (s.touch r w).pages q = if q = r then
      (s.pages r).withFlags ⟨(s.pages r).ppn, true, true, (s.pages r).dirty || w⟩ else s.pages q :=
    refresh_page s r _
  refine ⟨fun {q} hq => ?_, fun {pt vpn q} hs ht => ?_, fun {q} hq => ?_, ⟨trivial, h.events⟩⟩
  · have hq' := (hsame.held q).1 hq
    rw [hpage, State.touch_trace, granted_faulted, ← h.dirty_iff hq']
    by_cases hqr : q = r
    · subst hqr
      simp [Bool.or_comm]
    · simp [hqr, Ne.symm hqr]
  · rw [hsame.slot] at hs
    rw [hsame.type] at ht
    rw [hpage, State.touch_trace, ownWrite_faulted]
    by_cases hqr : q = r
    · subst hqr
      rcases h.written hs ht with h0 | h1 | h2
      · exact absurd h0.2 hr.2
      · exact .inr (.inl (by simp [h1]))
      · exact .inr (.inr (by simpa using h2))
    · rw [if_neg hqr]
      exact h.written hs ht
  · rw [hsame.backing, State.touch_trace, ownerOf_faulted]
    exact h.owner ((hsame.held q).1 hq)

/-- **A page that is faulted on in its frame.** -/
theorem Inv.touch (h : Inv hole s) (hr : (s.pages r).Framed) (w : Bool) : Inv hole (s.touch r w) where
  layout := (sameLayout_touch s r w).layout h.layout
  coherent := Coherent.congr (Coherent.refresh h.coherent r _) rfl rfl rfl
  frames := { h.frames.refresh hr rfl rfl with }
  contents := { h.contents.refresh hr rfl fun hd => (Bool.or_eq_false_iff.1 hd).1 with }
  ghost := h.ghost.touch hr w

end Keep

end VmPager
