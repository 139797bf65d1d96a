import VmPager.Core.Step
import VmPager.Core.Outcome

/-!
# Write-back is exact

A page is dirty when a store to it has been granted since it was mapped or last evicted, and no other
page is written to its block. A clean page can be dropped, because its frame is as on disk. A swap
block is read only after its owner has written it.
-/

namespace VmPager

open Lib.Transition Lib.History Lib.SecondChance

/-- `vm_fault` has returned 0 for a store to the page since the page was mapped or last evicted. -/
def StoreGranted (r : PageRef) (h : List Event) : Prop :=
  ∃ new old, h = new ++ .faulted r true :: old ∧ .evicted r ∉ new ∧ ∀ n b, .mapped r n b ∉ new

/-- The block of the swap file has been written since it was last reserved. -/
def OwnWritten (b : ℕ) (h : List Event) : Prop :=
  ∃ new buf old, h = new ++ .fileWrite none b buf true :: old ∧ ∀ r, .mapped r none b ∉ new

lemma granted_iff {r : PageRef} {h : List Event} : granted r h = true ↔ StoreGranted r h := by
  unfold granted StoreGranted
  rw [since_iff]
  constructor
  · rintro ⟨new, e, old, rfl, he, hnew⟩
    obtain rfl : e = .faulted r true := by
      cases e <;> simp_all [isGrant]
    refine ⟨new, old, rfl, fun hm => ?_, fun n b hm => ?_⟩ <;>
      simpa [isReset] using hnew _ hm
  · rintro ⟨new, old, rfl, hev, hmap⟩
    refine ⟨new, _, old, rfl, by simp [isGrant], fun x hx => ?_⟩
    cases x <;> simp only [isReset, decide_eq_false_iff_not]
    · rintro rfl
      exact hmap _ _ hx
    · rintro rfl
      exact hev hx

lemma ownWrite_iff {b : ℕ} {h : List Event} : ownWrite b h = true ↔ OwnWritten b h := by
  unfold ownWrite OwnWritten
  rw [since_iff]
  constructor
  · rintro ⟨new, e, old, rfl, he, hnew⟩
    obtain ⟨buf, rfl⟩ : ∃ buf, e = .fileWrite none b buf true := by
      cases e with
      | fileWrite n c buf ok => cases n <;> simp_all [isSwapWrite]
      | _ => cases he
    exact ⟨new, buf, old, rfl, fun r hm => by simpa [isSwapMap] using hnew _ hm⟩
  · rintro ⟨new, buf, old, rfl, hmap⟩
    refine ⟨new, _, old, rfl, by simp [isSwapWrite], fun x hx => ?_⟩
    cases x with
    | mapped r n c =>
      cases n with
      | none =>
        simp only [isSwapMap, decide_eq_false_iff_not]
        rintro rfl
        exact hmap _ hx
      | some n => rfl
    | _ => rfl

/-- What a call of `evict` does: the page of the frame `p` is the victim. -/
structure Evicts (s : State) (res : ℕ) (s' : State) (p : ℕ) (r : PageRef) : Prop where
  victim : p ≠ 0 ∧ s.physMemPages[p]? = some (some r)
  /-- `file_write` is called on the victim's block, once, when a store was granted. -/
  granted : StoreGranted r s.trace →
    (res = p ∧ s'.trace = .evicted r ::
      .fileWrite (s.pages r).backing.1 (s.pages r).backing.2 (p * vmPagesize) true :: s.trace) ∨
    (res = 0 ∧ s'.trace =
      .fileWrite (s.pages r).backing.1 (s.pages r).backing.2 (p * vmPagesize) false :: s.trace)
  /-- It is not called when none was. -/
  clean : ¬ StoreGranted r s.trace → res = p ∧ s'.trace = .evicted r :: s.trace
  /-- A frame that is dropped is as on disk. -/
  dropped : res = p → s'.frame p = s'.disk (s.pages r).backing.1 (s.pages r).backing.2

/-- A page that an eviction put out of its frame had the bytes that are on disk now. -/
lemma Evolves.dropped {s s' : State} (hm : Evolves s s') (hb : s'.physmem = s.physmem) {r : PageRef}
    (hr : s.Held r) (hres : (s.pages r).resident = true) (hout : (s'.pages r).resident = false) :
    s'.frame (s.pages r).ppn = s'.disk (s.pages r).backing.1 (s.pages r).backing.2 := by
  have hc := hm.content hr
  rw [State.content, hout, if_neg Bool.false_ne_true, State.content, if_pos hres, State.onDisk,
    hm.layout.backing] at hc
  rw [frame_congr hb, ← hc]

/-- **An eviction writes back exactly what was stored to.** -/
theorem evict_evicts {s : State} (h : Inv none s) (hfree : s.freePages = []) :
    ∃ res s' p r, evict s = .ok (res, s') ∧ Evicts s res s' p r := by
  obtain ⟨hm, -⟩ := h.takeFrame
  rcases takeFrame_cases h with ⟨p, rest, hcons, -⟩ | ⟨v, passed, rest, r, -, -, ho, -, htake⟩
  · rw [hfree] at hcons
    cases hcons
  · have hr := h.frames.owner_held ho
    have hf := h.frames.owner_framed ho
    have hppn := h.frames.owner_ppn ho
    have hv := (h.frames.owner_pos ho).1
    have hg : (s.pages r).dirty = true ↔ StoreGranted r s.trace := by
      rw [h.ghost.dirty_iff hr, granted_iff]
    have hown : (s.swept v passed rest).owner v = some r := by rw [swept_owner, ho]
    have hdirty := swept_dirty s v passed rest r
    have htr : (s.swept v passed rest).trace = s.trace := unrefAll_trace s passed
    have hbk : ((s.swept v passed rest).pages r).backing = (s.pages r).backing := by
      rw [show (s.swept v passed rest).pages r = _ from unrefAll_page passed s r]
      rfl
    refine ⟨s.takeFrame.1, s.takeFrame.2, v, r, evict_eq h hfree, ?_⟩
    constructor
    · exact ⟨hv, owner_eq_some.1 ho⟩
    · intro hs
      rw [← hg] at hs
      rw [htake]
      rcases evictFrom_cases hown with ⟨hd, -⟩ | ⟨-, -, he⟩ | ⟨-, -, he⟩
      · rw [hdirty, hs] at hd
        cases hd
      · left
        rw [he, State.dropPage_trace, State.wrote_trace, hbk, htr]
        exact ⟨rfl, rfl⟩
      · right
        rw [he, State.writeFailed_trace, hbk, htr]
        exact ⟨rfl, rfl⟩
    · intro hs
      rw [← hg] at hs
      rw [htake]
      rcases evictFrom_cases hown with ⟨-, he⟩ | ⟨hd, -⟩ | ⟨hd, -⟩
      · rw [he, State.dropPage_trace, htr]
        exact ⟨rfl, rfl⟩
      · exact absurd (hdirty ▸ hd) hs
      · exact absurd (hdirty ▸ hd) hs
    · intro hres
      rw [← hppn]
      apply hm.toEvolves.dropped hm.physmem hr hf.1
      rw [htake] at hres ⊢
      exact congrArg Flags.resident (evictFrom_found hown (by rw [hres]; exact hv)).2

/-- What holds of the disk calls and evictions of a whole run, newest first. -/
structure Disciplined (h : List Event) : Prop where
  /-- A block is written only when a store to the page it was last mapped for has been granted. -/
  write : ∀ {new n b buf ok old}, h = new ++ .fileWrite n b buf ok :: old →
    ∃ r, ownerOf n b old = some r ∧ StoreGranted r old
  /-- A page with a store granted is evicted right after it was written to its block. -/
  evict : ∀ {new r old}, h = new ++ .evicted r :: old → StoreGranted r old →
    ∃ n b buf old', old = .fileWrite n b buf true :: old' ∧ ownerOf n b old' = some r
  /-- A swap block is read only when it has been written since it was reserved. -/
  read : ∀ {new b buf ok old}, h = new ++ .fileRead none b buf ok :: old → OwnWritten b old

theorem Ghost.disciplined {s : State} (h : Ghost s) : Disciplined s.trace where
  write heq := by
    have hev := h.events
    rw [heq] at hev
    obtain ⟨-, r, ho, hg⟩ := hev.at
    exact ⟨r, ho, granted_iff.1 hg⟩
  evict heq hg := by
    have hev := h.events
    rw [heq] at hev
    exact hev.at (granted_iff.2 hg)
  read heq := by
    have hev := h.events
    rw [heq] at hev
    exact ownWrite_iff.1 (hev.at.2 rfl)

/-- **Write-back exactness.** -/
theorem write_back_exact {u : Setup} {k : Kernel} (h : (system u).Reachable k) :
    (∀ {r}, k.pager.Held r → ((k.pager.pages r).dirty = true ↔ StoreGranted r k.pager.trace)) ∧
    (∀ {r}, k.pager.Held r → (k.pager.pages r).resident = true → (k.pager.pages r).ppn ≠ 0 →
      (k.pager.pages r).dirty = false →
      k.pager.frame (k.pager.pages r).ppn =
        k.pager.disk (k.pager.pages r).backing.1 (k.pager.pages r).backing.2) ∧
    (k.pager.freePages = [] → ∃ res s' p r, evict k.pager = .ok (res, s') ∧
      Evicts k.pager res s' p r) ∧
    Disciplined k.pager.trace := by
  have hinv := (Sound.reachable h).inv
  refine ⟨fun hr => ?_, fun hr hres hppn hd => ?_, evict_evicts hinv, hinv.ghost.disciplined⟩
  · rw [hinv.ghost.dirty_iff hr, granted_iff]
  · exact hinv.contents.clean hr ⟨hres, hppn⟩ hd

/-- The page in the only frame is dirty, the other was written to its block and evicted. -/
theorem write_back_exact_small :
    ((Kernel.small.pager.pages 1).dirty = true ↔ StoreGranted 1 Kernel.small.pager.trace) ∧
    (∃ res s' p r, evict Kernel.small.pager = .ok (res, s') ∧
      Evicts Kernel.small.pager res s' p r) ∧
    Event.evicted 0 ∈ Kernel.small.pager.trace ∧ Disciplined Kernel.small.pager.trace := by
  have hexact := write_back_exact Kernel.small_reachable
  have hr : Kernel.small.pager.Held 1 := .inl ⟨10, 1, by decide +kernel⟩
  exact ⟨hexact.1 hr, hexact.2.2.1 (by decide +kernel), by decide +kernel, hexact.2.2.2⟩

end VmPager
