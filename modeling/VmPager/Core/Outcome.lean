import VmPager.Inv.Load

/-!
# What a fault comes to

When a search for a frame and a fault fail, what they leave in the history, and what a fault that is
resolved leaves of its page. The frame and block a fault uses are never those of the page that is
evicted for it.
-/

namespace VmPager

open Lib.Frames Lib.SecondChance

/-- The page the clock would evict. -/
def State.victim (s : State) : Option PageRef :=
  (sweep (s.activePages.length + 1) s.marked s.activePages).bind fun r => s.owner r.1

/-- Memory is full, and the victim is dirty and cannot be written back. -/
def State.NoRoom (s : State) : Prop :=
  s.freePages = [] ∧ ∃ r, s.victim = some r ∧ (s.pages r).dirty = true ∧ s.writes.head = false

/-- A call of `file_read` or `file_write` that failed. -/
def Event.failed : Event → Bool
  | .fileRead _ _ _ ok => !ok
  | .fileWrite _ _ _ ok => !ok
  | _ => false

/-- What a part of a run leaves in the history: `new`, in which some disk call has failed when
`failed` holds and none else, and in which the page `r` is not evicted. -/
structure Leaves (s s' : State) (r : PageRef) (failed : Prop) (new : List Event) : Prop where
  trace : s'.trace = new ++ s.trace
  failed_iff : failed ↔ ∃ e ∈ new, e.failed = true
  spared : Event.evicted r ∉ new

/-- One event more. -/
theorem Leaves.cons {s s' s'' : State} {r : PageRef} {failed failed' : Prop} {new : List Event}
    (h : Leaves s s' r failed new) {e : Event} (ht : s''.trace = e :: s'.trace)
    (hf : failed' ↔ e.failed = true ∨ failed) (he : e ≠ .evicted r) :
    Leaves s s'' r failed' (e :: new) where
  trace := by rw [ht, h.trace, List.cons_append]
  failed_iff := by rw [hf, h.failed_iff, List.exists_mem_cons_iff]
  spared := by
    rw [List.mem_cons, not_or]
    exact ⟨he.symm, h.spared⟩

theorem Leaves.congr {s s' : State} {r : PageRef} {failed failed' : Prop} {new : List Event}
    (h : Leaves s s' r failed new) (hf : failed' ↔ failed) : Leaves s s' r failed' new :=
  ⟨h.trace, hf.trans h.failed_iff, h.spared⟩

/-- The three ends of an eviction. -/
theorem evictFrom_cases {s : State} {p : ℕ} {r : PageRef} (ho : s.owner p = some r) :
    ((s.pages r).dirty = false ∧ s.evictFrom p = (p, s.dropPage r p)) ∨
    ((s.pages r).dirty = true ∧ s.writes.head = true ∧
      s.evictFrom p = (p, (s.wrote r p).dropPage r p)) ∨
    ((s.pages r).dirty = true ∧ s.writes.head = false ∧
      s.evictFrom p = (0, s.writeFailed r p)) := by
  unfold State.evictFrom
  rw [ho]
  dsimp only
  cases hd : (s.pages r).dirty <;> cases hw : s.writes.head <;> simp

/-- An eviction leaves the other pages as they are. -/
lemma evictFrom_page {s : State} {p : ℕ} {r q : PageRef} (ho : s.owner p = some r) (hq : q ≠ r) :
    (s.evictFrom p).2.pages q = s.pages q := by
  rcases evictFrom_cases ho with ⟨-, he⟩ | ⟨-, -, he⟩ | ⟨-, -, he⟩
  · rw [he, dropPage_page, if_neg hq]
  · rw [he, dropPage_page, if_neg hq]
    rfl
  · rw [he]
    rfl

/-- An eviction that finds a frame puts its page out of memory. -/
lemma evictFrom_found {s : State} {p : ℕ} {r : PageRef} (ho : s.owner p = some r)
    (hne : (s.evictFrom p).1 ≠ 0) :
    (s.evictFrom p).1 = p ∧ ((s.evictFrom p).2.pages r).flags = .out := by
  rcases evictFrom_cases ho with ⟨-, he⟩ | ⟨-, -, he⟩ | ⟨-, -, he⟩
  · rw [he, dropPage_page, if_pos rfl]
    exact ⟨rfl, rfl⟩
  · rw [he, dropPage_page, if_pos rfl]
    exact ⟨rfl, rfl⟩
  · rw [he] at hne
    exact absurd rfl hne

lemma evictFrom_activePages {s : State} {p : ℕ} {r : PageRef} (ho : s.owner p = some r) :
    (s.evictFrom p).2.activePages = s.activePages := by
  rcases evictFrom_cases ho with ⟨-, he⟩ | ⟨-, -, he⟩ | ⟨-, -, he⟩ <;> rw [he] <;> rfl

section TakeFrame

variable {s : State} (h : Inv none s)
include h

/-- Either a frame is free, or the clock has a victim. -/
theorem takeFrame_cases : (∃ p rest, s.freePages = p :: rest ∧ s.takeFrame = (p, s.takeFree p rest)) ∨
    ∃ v passed rest r, s.freePages = [] ∧
      sweep (s.activePages.length + 1) s.marked s.activePages = some (v, passed, rest) ∧
      s.owner v = some r ∧ s.victim = some r ∧
      s.takeFrame = (s.swept v passed rest).evictFrom v := by
  cases hfree : s.freePages with
  | cons p rest =>
    left
    exact ⟨p, rest, rfl, by simp only [State.takeFrame, hfree]⟩
  | nil =>
    right
    obtain ⟨v, passed, rest, hsw, hperm, -⟩ : ∃ v passed rest,
        sweep (s.activePages.length + 1) s.marked s.activePages = some (v, passed, rest) ∧
          (rest ++ [v]).Perm s.activePages ∧ _ :=
      sweep_total h.frames.active_nodup (h.frames.active_ne_nil hfree) (Nat.lt_succ_self _)
    have hv : v ∈ s.activePages := hperm.mem_iff.1 (by simp)
    obtain ⟨r, ho⟩ := h.frames.active_owned hv (by simp)
    refine ⟨v, passed, rest, r, rfl, hsw, ho, ?_, by simp only [State.takeFrame, hfree, hsw]⟩
    rw [State.victim, hsw]
    exact ho

omit h in
/-- The sweep leaves the victim dirty or clean, as it was. -/
lemma swept_dirty (s : State) (v : ℕ) (passed rest : List ℕ) (r : PageRef) :
    ((s.swept v passed rest).pages r).dirty = (s.pages r).dirty := by
  show ((s.unrefAll passed).pages r).dirty = _
  rw [unrefAll_page]
  rfl

/-- **When there is no frame**, and what the search leaves in the history. -/
theorem takeFrame_outcome : (s.takeFrame.1 = 0 ↔ s.NoRoom) ∧
    ∃ new, ∀ r, ¬ (s.pages r).Framed → Leaves s s.takeFrame.2 r s.NoRoom new := by
  rcases takeFrame_cases h with
    ⟨p, rest, hfree, htake⟩ | ⟨v, passed, rest, q, hfree, hsw, ho, hvic, htake⟩
  · have hno : ¬ s.NoRoom := fun hn => List.cons_ne_nil p rest (hfree.symm.trans hn.1)
    have hp : p ≠ 0 := (h.frames.free_pos (p := p) (by simp [hfree])).1
    rw [htake]
    exact ⟨by simp [hp, hno], [], fun r _ => ⟨rfl, by simp [hno], by simp⟩⟩
  · have hv : v ≠ 0 := (h.frames.owner_pos ho).1
    have hsp : ∀ r, ¬ (s.pages r).Framed → r ≠ q := by
      rintro r hf rfl
      exact hf (h.frames.owner_framed ho)
    have ho' : (s.swept v passed rest).owner v = some q := by rw [swept_owner, ho]
    have htr : (s.swept v passed rest).trace = s.trace := unrefAll_trace s passed
    have hwr : (s.swept v passed rest).writes = s.writes := unrefAll_writes s passed
    have hno : s.NoRoom ↔ (s.pages q).dirty = true ∧ s.writes.head = false := by
      simp only [State.NoRoom, hfree, hvic, true_and, Option.some.injEq, exists_eq_left']
    have hd := swept_dirty s v passed rest q
    let bk := ((s.swept v passed rest).pages q).backing
    rw [htake]
    rcases evictFrom_cases ho' with ⟨hdirty, he⟩ | ⟨hdirty, hw, he⟩ | ⟨hdirty, hw, he⟩
    · have hno' : ¬ s.NoRoom := by simp [hno, ← hd, hdirty]
      rw [he]
      refine ⟨by simp [hv, hno'], [.evicted q], fun r hf => ⟨?_, ?_, ?_⟩⟩
      · simp [htr]
      · simp [hno', Event.failed]
      · simpa using hsp r hf
    · have hno' : ¬ s.NoRoom := by simp [hno, ← hwr, hw]
      rw [he]
      refine ⟨by simp [hv, hno'], [.evicted q, .fileWrite bk.1 bk.2 (v * vmPagesize) true], fun r hf =>
        ⟨?_, ?_, ?_⟩⟩
      · simp only [State.dropPage_trace, State.wrote_trace, htr, bk, List.cons_append, List.nil_append]
      · simp [hno', Event.failed]
      · simpa using hsp r hf
    · have hyes : s.NoRoom := hno.2 ⟨hd ▸ hdirty, hwr ▸ hw⟩
      rw [he]
      refine ⟨by simp [hyes], [.fileWrite bk.1 bk.2 (v * vmPagesize) false], fun r hf => ⟨?_, ?_, ?_⟩⟩
      · simp only [State.writeFailed_trace, htr, bk, List.cons_append, List.nil_append]
      · simp [hyes, Event.failed]
      · simp

end TakeFrame

/-! ### The fault -/

/-- The next `file_read` fails. -/
def State.readFails (s : State) : Prop := s.reads.head ≠ .success

/-- Why a fault is refused: the page needs a frame and there is none, or its block cannot be
read. -/
def State.Refused (s : State) (r : PageRef) : Prop :=
  (¬ (s.pages r).Framed ∧ s.NoRoom) ∨ ((s.pages r).resident = false ∧ s.readFails)

/-- What a fault that is resolved leaves of its page. -/
structure Resolved (s' : State) (r : PageRef) (write : Bool) : Prop where
  framed : (s'.pages r).Framed
  referenced : (s'.pages r).referenced = true
  dirty : write = true → (s'.pages r).dirty = true

theorem resolved_fill {s : State} {r : PageRef} {p : ℕ} {d write : Bool} (hp : p ≠ 0)
    (hd : write = true → d = true) : Resolved (s.fill r p d write) r write := by
  have hpage : (s.fill r p d write).pages r = (s.pages r).withFlags ⟨p, true, true, d⟩ := by
    rw [fill_page, if_pos rfl]
  refine ⟨?_, ?_, ?_⟩ <;> rw [hpage]
  · exact ⟨rfl, hp⟩
  · rfl
  · exact hd

theorem resolved_touch {s : State} {r : PageRef} {write : Bool} (hf : (s.pages r).Framed) :
    Resolved (s.touch r write) r write := by
  have hpage : (s.touch r write).pages r =
      (s.pages r).withFlags ⟨(s.pages r).ppn, true, true, (s.pages r).dirty || write⟩ :=
    refresh_page_self s r _
  refine ⟨?_, ?_, ?_⟩ <;> rw [hpage]
  · exact ⟨rfl, hf.2⟩
  · rfl
  · intro hw
    simp [hw]

/-- The block of a page out of memory is read, when there is a frame. -/
theorem loadBlock_outcome {s : State} (h : Inv none s) {r : PageRef}
    (hout : (s.pages r).resident = false) :
    ((s.loadBlock (s.pages r).backing).1 = 0 ↔ s.NoRoom ∨ s.readFails) ∧
      ∃ new, Leaves s (s.loadBlock (s.pages r).backing).2 r (s.NoRoom ∨ s.readFails) new := by
  obtain ⟨hzero, new, hnew⟩ := takeFrame_outcome h
  have hl := hnew r fun hf => by simp [hf.1] at hout
  have hreads := h.takeFrame.1.reads
  unfold State.loadBlock State.readFails
  by_cases hno : s.NoRoom
  · rw [if_pos (hzero.2 hno)]
    exact ⟨by simp [hno], new, hl.congr (by simp [hno])⟩
  · have hne : s.takeFrame.1 ≠ 0 := fun h0 => hno (hzero.1 h0)
    rw [if_neg hne, hreads]
    cases s.reads.head with
    | success => exact ⟨by simp [hno, hne], _, hl.cons rfl (by simp [hno, Event.failed]) (by simp)⟩
    | failure left => exact ⟨by simp, _, hl.cons rfl (by simp [Event.failed]) (by simp)⟩

/-- **What a fault comes to.** -/
theorem faultPage_outcome {s : State} (h : Inv none s) {r : PageRef} (write : Bool) :
    ((s.faultPage r write).1 = -1 ↔ s.Refused r) ∧
    ((s.faultPage r write).1 ≠ -1 →
      (s.faultPage r write).1 = 0 ∧ Resolved (s.faultPage r write).2 r write) ∧
    ∃ new, Leaves s (s.faultPage r write).2 r (s.Refused r) new := by
  unfold State.faultPage State.Refused
  cases hres : (s.pages r).resident with
  | true =>
    rw [if_pos rfl]
    by_cases hppn : (s.pages r).ppn = 0
    · -- a fresh page
      have hf : ¬ (s.pages r).Framed := fun hf => hf.2 hppn
      obtain ⟨hzero, new, hnew⟩ := takeFrame_outcome h
      have hl := hnew r hf
      rw [if_pos hppn]
      by_cases hno : s.NoRoom
      · rw [if_pos (hzero.2 hno)]
        exact ⟨by simp [hf, hno], by simp, new, hl.congr (by simp [hf])⟩
      · have hne : s.takeFrame.1 ≠ 0 := fun h0 => hno (hzero.1 h0)
        have hl0 : Leaves s (s.takeFrame.2.zeroFrame s.takeFrame.1) r s.NoRoom _ :=
          hl.cons rfl (by simp [Event.failed]) (by simp)
        rw [if_neg hne]
        exact ⟨by simp [hno], fun _ => ⟨rfl, resolved_fill hne fun _ => rfl⟩, _,
          hl0.cons rfl (by simp [hno, Event.failed]) (by simp)⟩
    · have hf : (s.pages r).Framed := ⟨hres, hppn⟩
      rw [if_neg hppn]
      exact ⟨by simp [hf], fun _ => ⟨rfl, resolved_touch hf⟩, [.faulted r write],
        ⟨rfl, by simp [hf, Event.failed], by simp⟩⟩
  | false =>
    have hf : ¬ (s.pages r).Framed := fun hf => by simp [hf.1] at hres
    obtain ⟨hzero, new, hl⟩ := loadBlock_outcome h hres
    rw [if_neg Bool.false_ne_true]
    by_cases h0 : (s.loadBlock (s.pages r).backing).1 = 0
    · have hno := hzero.1 h0
      rw [if_pos h0]
      exact ⟨by simpa [hf] using hno, by simp, new, hl.congr (by simp [hf])⟩
    · have hno : ¬ (s.NoRoom ∨ s.readFails) := fun hno => h0 (hzero.2 hno)
      rw [if_neg h0]
      refine ⟨?_, fun _ => ⟨rfl, resolved_fill h0 id⟩, _,
        hl.cons rfl (by simp [hf, Event.failed]) (by simp)⟩
      simpa [hf] using hno

end VmPager
