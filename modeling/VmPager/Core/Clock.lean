import VmPager.Inv.Evict
import VmPager.Core.FrameAddress
import VmPager.Code.Clock

/-!
# The code computes the sweep and the eviction

On states of the invariant `tick`, `next_eviction_ppn`, `evict` and `evict_or_get_free_ppn` return
and compute `State.unref`, `sweep`, `State.evictFrom` and `State.takeFrame`. The two branches over
the kind of the page become one: both write the block `backing` and the entries of the slots.
-/

namespace VmPager

open Lib.Exec Lib.Frames Lib.SecondChance

/-! ### Reading and writing the globals -/

lemma getPage_eq (r : PageRef) (s : State) : getPage r s = .ok (s.pages r, s) := rfl

lemma modifyPage_eq (r : PageRef) (f : PageState → PageState) (s : State) :
    modifyPage r f s = .ok ((), { s with pages := Function.update s.pages r (f (s.pages r)) }) :=
  rfl

lemma note_eq (e : Event) (s : State) : note e s = .ok ((), { s with trace := e :: s.trace }) := rfl

lemma physMemPage_eq {s : State} {p : ℕ} {r : PageRef} (h : s.owner p = some r) :
    physMemPage p s = .ok (r, s) := by
  have hp := owner_eq_some.1 h
  simp only [physMemPage, bind_apply, get_apply, ok_bind, hp, pure_apply]

lemma setPhysMemPage_eq {s : State} {p : ℕ} (h : p < s.physMemPages.length) (o : Option PageRef) :
    setPhysMemPage p o s = .ok ((), { s with physMemPages := s.physMemPages.set p o }) := by
  simp only [setPhysMemPage, bind_apply, get_apply, ok_bind, require_apply h, modify_apply]

/-! ### The sweep -/

/-- A frame that is not the one swept keeps its mark. -/
lemma marked_unref {hole : Option ℕ} {s : State} (h : Frames hole s) (p : ℕ) :
    (s.unref p).marked = unmark s.marked [p] := by
  funext q
  unfold State.marked
  rw [unref_owner]
  simp only [unmark, List.mem_singleton]
  cases hq : s.owner q with
  | none => rfl
  | some r =>
    dsimp only
    cases hp : s.owner p with
    | none =>
      have hne : q ≠ p := by
        rintro rfl
        rw [hp] at hq
        cases hq
      simp [State.unref, hp, hne]
    | some r' =>
      simp only [State.unref, hp]
      rw [refresh_page]
      by_cases hr : r = r'
      · subst hr
        have hqp : q = p := (h.owner_ppn hq).symm.trans (h.owner_ppn hp)
        simp [hqp]
      · have hne : q ≠ p := by
          rintro rfl
          rw [hp] at hq
          exact hr (Option.some.inj hq).symm
        simp [hr, hne]

lemma unref_setActive (s : State) (l : List ℕ) (p : ℕ) :
    (s.setActive l).unref p = (s.unref p).setActive l := by
  have howner : (s.setActive l).owner p = s.owner p := rfl
  unfold State.unref
  rw [howner]
  cases s.owner p <;> rfl

lemma unrefAll_setActive (l : List ℕ) (ps : List ℕ) :
    ∀ s : State, (s.setActive l).unrefAll ps = (s.unrefAll ps).setActive l := by
  induction ps with
  | nil => intro s; rfl
  | cons p ps ih =>
    intro s
    show ((s.setActive l).unref p).unrefAll ps = _
    rw [unref_setActive, ih]
    rfl

section Tick

variable {s : State} (h : Inv none s)
include h

/-- A turn at a page that was referenced. -/
theorem tick_marked {cur : ℕ} {rest : List ℕ} (ha : s.activePages = cur :: rest)
    (hm : s.marked cur = true) :
    tick s = .ok (0, (s.unref cur).setActive (rest ++ [cur])) := by
  obtain ⟨r, ho⟩ := h.frames.active_owned (p := cur) (by simp [ha]) (by simp)
  have hr := h.frames.owner_held ho
  have hppn := h.frames.owner_ppn ho
  have href : (s.pages r).referenced = true := by simpa [State.marked, ho] using hm
  -- the state at the time the entries are written
  let F : Flags := { (s.pages r).flags with referenced := false }
  let t : State := { s with
    activePages := rest ++ [cur], pages := Function.update s.pages r ((s.pages r).withFlags F) }
  have hsame : SameLayout s t := { SameLayout.refl s with pages := identity_update s r F }
  have hwrite := (hsame.layout h.layout).writeEntries_eq ((hsame.held r).2 hr)
    (hsame.pages r).symm (s.pages r).ppn false false
  have hpte : mkPte (s.pages r).ppn false false = F.pte := by
    rw [mkPte_of_lt (h.frames.ppn_lt hr)]
    simp [F, Flags.pte, PageState.flags, (h.frames.owner_framed ho).1]
  have ho' : State.owner { s with activePages := rest } cur = some r := ho
  have hfinal : t.writeWhere (t.InSlot r) F.pte = (s.unref cur).setActive (rest ++ [cur]) := by
    unfold State.unref
    rw [ho]
    rfl
  simp only [tick, bind_apply, get_apply, ok_bind, ha, modify_apply, physMemPage_eq ho',
    getPage_eq, require_apply hppn, href, if_true]
  rw [exec_ite] at hwrite
  simp only [exec_ite, modifyPage_eq, bind_apply, ok_bind, ite_bind]
  show Except.bind (if (s.pages r).type = .swapBacked then
      updatePte (s.pages r).vpn (s.pages r).ppn false false (s.pages r).ownerPtbr t
    else updatePtes r (s.pages r).ppn false false t) _ = _
  rw [hwrite, ok_bind, hpte, hfinal]
  rfl

/-- A turn at a page that was not referenced. -/
theorem tick_unmarked {cur : ℕ} {rest : List ℕ} (ha : s.activePages = cur :: rest)
    (hm : s.marked cur = false) : tick s = .ok (cur, s.setActive rest) := by
  obtain ⟨r, ho⟩ := h.frames.active_owned (p := cur) (by simp [ha]) (by simp)
  have hppn := h.frames.owner_ppn ho
  have href : (s.pages r).referenced = false := by simpa [State.marked, ho] using hm
  have ho' : State.owner { s with activePages := rest } cur = some r := ho
  simp only [tick, bind_apply, get_apply, ok_bind, ha, modify_apply, physMemPage_eq ho',
    getPage_eq, require_apply hppn, href, if_false, Bool.false_eq_true, pure_apply]
  rfl

end Tick

/-- **`next_eviction_ppn` is the sweep.** -/
theorem nextEvictionPpn_eq : ∀ (fuel : ℕ) {s : State} {v : ℕ} {passed rest : List ℕ},
    Inv none s → sweep fuel s.marked s.activePages = some (v, passed, rest) →
    nextEvictionPpn fuel s = .ok (v, (s.unrefAll passed).setActive rest) := by
  intro fuel
  induction fuel with
  | zero => intro s v passed rest _ hsw; simp [sweep] at hsw
  | succ fuel ih =>
    intro s v passed rest h hsw
    cases ha : s.activePages with
    | nil => simp [sweep, ha] at hsw
    | cons cur queue =>
      rw [ha, sweep] at hsw
      have hcur : cur ≠ 0 := (h.frames.active_pos (p := cur) (by simp [ha])).1
      cases hm : s.marked cur with
      | false =>
        simp only [hm, Bool.false_eq_true, if_false, Option.some.injEq, Prod.mk.injEq] at hsw
        obtain ⟨rfl, rfl, rfl⟩ := hsw
        simp only [nextEvictionPpn, bind_apply, tick_unmarked h ha hm, ok_bind, hcur, ne_eq,
          not_false_eq_true, if_true, pure_apply]
        rfl
      | true =>
        rw [if_pos hm, Option.map_eq_some_iff] at hsw
        obtain ⟨⟨v', passed', rest'⟩, hsw, heq⟩ := hsw
        obtain ⟨rfl, rfl, rfl⟩ : v' = v ∧ cur :: passed' = passed ∧ rest' = rest := by
          simpa using heq
        obtain ⟨h1, -⟩ := h.unref cur
        have hperm : (queue ++ [cur]).Perm (s.unref cur).activePages := by
          have : (s.unref cur).activePages = s.activePages := unrefAll_activePages s [cur]
          rw [this, ha]
          exact List.perm_append_singleton _ _
        obtain ⟨h2, -⟩ := h1.setActive hperm
        have hmark : ((s.unref cur).setActive (queue ++ [cur])).marked =
            unmark s.marked [cur] := marked_unref h.frames cur
        rw [← hmark] at hsw
        simp only [nextEvictionPpn, bind_apply, tick_marked h ha hm, ok_bind, ne_eq,
          not_true_eq_false, if_false, ih h2 hsw, unrefAll_setActive]
        rfl

/-! ### The eviction -/

lemma isFull_eq {hole : Option ℕ} {s : State} (h : Frames hole s) :
    isFull s = .ok (decide (s.freePages = []), s) := by
  have hlen := h.queues.length_eq
  rw [List.length_append, List.length_range'] at hlen
  have := h.size_min
  have := h.size_max
  have hiff : (1 + s.activePages.length) % 2 ^ 32 = s.maxSize ↔ s.freePages = [] := by
    rw [← List.length_eq_zero_iff, Nat.mod_eq_of_lt (by omega)]
    omega
  simp only [isFull, bind_apply, get_apply, ok_bind, pure_apply, hiff]

/-- A write to the disk of the frame of a page. -/
lemma fileWrite_eq (s : State) (r : PageRef) {p : ℕ} (hp : p < 65536) :
    fileWrite (s.pages r).backing.1 (s.pages r).backing.2 (ppnToMemAddr p) s =
      if s.writes.head then .ok (0, s.wrote r p) else .ok (-1, s.writeFailed r p) := by
  rw [ppnToMemAddr_eq hp]
  simp only [fileWrite, bind_apply, get_apply, ok_bind, exec_ite, modify_apply, note_eq, pure_apply]
  rfl

/-- The entries of the page are cleared. -/
def State.cleared (s : State) (r : PageRef) : State := s.writeWhere (s.InSlot r) Pte.zero

/-- What both branches of `evict` do before the page itself is changed. -/
def State.writeBack (s : State) (r : PageRef) (p : ℕ) : Bool × State :=
  if (s.pages r).dirty then
    if s.writes.head then (true, (s.wrote r p).cleared r) else (false, s.writeFailed r p)
  else
    (true, s.cleared r)

section Evict

variable {s : State} {r : PageRef} {p : ℕ}

/-- The shape of both branches: `clear` clears the entries of the page. -/
lemma writeBack_eq (hp : p < 65536) {clear : PagerM Unit}
    (hclear : ∀ t, SameLayout s t → clear t = .ok ((), t.cleared r)) :
    (do
      let res ← if (s.pages r).dirty then
          fileWrite (s.pages r).backing.1 (s.pages r).backing.2 (ppnToMemAddr p)
        else pure 0
      if res = -1 then
        return false
      else
        clear
        return true : PagerM Bool) s = .ok (s.writeBack r p) := by
  unfold State.writeBack
  cases hd : (s.pages r).dirty with
  | false =>
    simp only [Bool.false_eq_true, if_false, bind_apply, pure_apply, ok_bind, exec_ite,
      hclear s (SameLayout.refl s)]
    rfl
  | true =>
    simp only [if_true, bind_apply, exec_ite, fileWrite_eq s r hp]
    split
    · simp only [ok_bind, hclear _ (sameLayout_wrote s r p)]
      rfl
    · rfl

variable (hL : Layout s) (hr : s.Held r)
include hL hr

/-- **Both branches of `evict` write the block of the page and clear its entries.** -/
lemma evictBranch_eq (hp : p < 65536) :
    (if (s.pages r).type = .swapBacked then evictSwapBacked (s.pages r) p
      else evictFileBacked r (s.pages r) p) s = .ok (s.writeBack r p) := by
  have hclear : ∀ t, SameLayout s t →
      (if (s.pages r).type = .swapBacked then
        updatePte (s.pages r).vpn 0 false false (s.pages r).ownerPtbr
      else updatePtes r 0 false false) t = .ok ((), t.cleared r) := fun t hsame =>
    (hsame.layout hL).writeEntries_eq ((hsame.held r).2 hr) (hsame.pages r).symm 0 false false
  have hwhole := writeBack_eq hp hclear
  by_cases ht : (s.pages r).type = .swapBacked
  · simp only [PageState.backing, ht, if_true] at hwhole
    rw [if_pos ht]
    exact hwhole
  · simp only [PageState.backing, ht, if_false] at hwhole
    rw [if_neg ht]
    exact hwhole

end Evict

/-- The rest of `evict`, which changes the page itself. -/
lemma dropPage_eq (s : State) (r : PageRef) {p : ℕ} (hp : p < s.physMemPages.length) :
    (do
      modifyPage r fun X =>
        { X with ppn := 0, dirty := false, referenced := false, resident := false }
      setPhysMemPage p none
      note (.evicted r)
      return p : PagerM ℕ) (s.cleared r) = .ok (p, s.dropPage r p) := by
  simp only [bind_apply, modifyPage_eq, ok_bind]
  rw [setPhysMemPage_eq]
  · rfl
  · exact hp

/-- **`evict` is the sweep and the eviction of its victim.** -/
theorem evict_eq {s : State} (h : Inv none s) (hfree : s.freePages = []) :
    evict s = .ok s.takeFrame := by
  obtain ⟨v, passed, rest, hsw, hperm, -⟩ : ∃ v passed rest,
      sweep (s.activePages.length + 1) s.marked s.activePages = some (v, passed, rest) ∧
        (rest ++ [v]).Perm s.activePages ∧ _ :=
    sweep_total h.frames.active_nodup (h.frames.active_ne_nil hfree) (Nat.lt_succ_self _)
  have hv : v ∈ s.activePages := hperm.mem_iff.1 (by simp)
  obtain ⟨r, ho⟩ := h.frames.active_owned hv (by simp)
  have ⟨hv0, hvlt⟩ := h.frames.active_pos hv
  have hv16 : v < 65536 := by
    have := h.frames.size_max
    omega
  have htake : s.takeFrame = (s.swept v passed rest).evictFrom v := by
    simp only [State.takeFrame, hfree, hsw]
  obtain ⟨h1, hm⟩ : Inv none (s.swept v passed rest) ∧ _ := h.swept hperm
  have ho1 : (s.swept v passed rest).owner v = some r := by rw [swept_owner, ho]
  have hr1 := h1.frames.owner_held ho1
  have hlt1 := h1.frames.phys_lt (h1.frames.owner_ok ho1).1
  rw [htake]
  simp only [evict, bind_apply, get_apply, ok_bind, isFull_eq h.frames, hfree, decide_true,
    require_apply trivial, nextEvictionPpn_eq _ h hsw, modify_apply]
  show Except.bind (physMemPage v (s.swept v passed rest)) _ = _
  have hbranch := evictBranch_eq h1.layout hr1 hv16
  rw [exec_ite] at hbranch
  simp only [physMemPage_eq ho1, ok_bind, getPage_eq, exec_ite, bind_apply, ite_bind, hbranch]
  clear hbranch htake
  generalize s.swept v passed rest = t at *
  unfold State.writeBack State.evictFrom
  rw [ho1]
  cases hd : (t.pages r).dirty with
  | false =>
    simp only [hd, Bool.false_eq_true, if_false]
    exact dropPage_eq t r hlt1
  | true =>
    cases hw : t.writes.head with
    | false =>
      simp only [hd, Bool.false_eq_true, if_true, if_false]
      rfl
    | true =>
      simp only [hd, if_true]
      exact dropPage_eq (t.wrote r v) r hlt1

end VmPager
