import VmPager.Runs.Idle

/-!
# A fault that is tried again

When a victim cannot be written, the fault is refused; but the victim has gone to the back of the
queue, so that the next try finds another one. As long as the page of some frame is clean, the tries
come to it, even if no block can be written at all.
-/

namespace VmPager

open Lib.Exec Lib.SecondChance Lib.Transition

/-- From `s` to `s'`, `n` faults were refused: the arenas, the clean page and the next read wait, and
the page has come `n` places nearer to the front at least. -/
structure Waits (r : PageRef) (n : ℕ) (s s' : State) : Prop where
  layout : SameLayout s s'
  reads : s'.reads = s.reads
  framed : (s'.pages r).Framed
  clean : (s'.pages r).dirty = false
  nearer : s'.rankOf r + n ≤ s.rankOf r

section Waits

variable {s s' t : State} {r q : PageRef} {m n v : ℕ} {passed rest : List ℕ}

lemma Waits.trans (h : Waits r m s s') (h' : Waits r n s' t) : Waits r (n + m) s t where
  layout := h.layout.trans h'.layout
  reads := h'.reads.trans h.reads
  framed := h'.framed
  clean := h'.clean
  nearer := by
    have := h.nearer
    have := h'.nearer
    omega

/-- A search that ends at a dirty page which cannot be written. -/
lemma State.Search.waits (h : Inv none s) (hs : s.Search v passed rest q) (hr : s.Held r)
    (hf : (s.pages r).Framed) (hclean : (s.pages r).dirty = false) (hd : (s.pages q).dirty = true)
    (hroom : RoomMade s (0, (s.swept v passed rest).writeFailed q v)) :
    Waits r 1 s ((s.swept v passed rest).writeFailed q v) := by
  have hne : r ≠ q := by
    rintro rfl
    rw [hd] at hclean
    cases hclean
  obtain ⟨d, hpage, hlt⟩ := hs.spared h hr hf hne
  have hL := hroom.1.layout
  have hp : ((s.swept v passed rest).writeFailed q v).pages r = _ := hpage
  refine ⟨hL, hroom.1.reads, ?_, ?_, ?_⟩
  · rw [hp]
    exact hf
  · rw [hp]
    exact hclean
  · rw [State.rankOf, hL.maxSize, hp]
    exact hlt

/-- **A fault on a valid page is refused** only when the clock finds a dirty page, or the read fails. -/
lemma FaultEnd.waits {w : Bool} (h : Inv none s) (hend : FaultEnd s q w (-1) s')
    (hread : s.reads.head = .success) (hr : s.Held r) (hf : (s.pages r).Framed)
    (hclean : (s.pages r).dirty = false) : Waits r 1 s s' := by
  generalize hres : (-1 : ℤ) = res at hend
  cases hend with
  | noFrame _ hrec =>
    have hroom := hrec.room h
    obtain ⟨v, passed, rest, q', hs, hd, -, rfl⟩ := hrec.of_zero h
    exact hs.waits h hr hf hclean hd hroom
  | unread _ _ _ hfail =>
    rw [hread] at hfail
    cases hfail
  | _ => cases hres

end Waits

/-! ### Runs -/

section Runs

variable {u : Setup} {k k' : Kernel} {ls : List Label}

/-- The label is that of a fault on a valid page which is refused. -/
def RefusedIn (s : State) (l : Label) : Prop :=
  ∃ addr w, l = (.fault addr w, .code (-1)) ∧
    (s.slot s.pageTableBaseRegister (arenaVpn addr)).isSome

/-- One try. -/
lemma waits_step {l : Label} (h : (system u).Reachable k) (hs : (system u).step k l k')
    (hl : RefusedIn k.pager l) (hread : k.pager.reads.head = .success) {r : PageRef}
    (hr : k.pager.Held r) (hf : (k.pager.pages r).Framed)
    (hclean : (k.pager.pages r).dirty = false) : Waits r 1 k.pager k'.pager := by
  obtain ⟨addr, w, rfl, hvalid⟩ := hl
  have hinv := (Sound.reachable h).inv
  have ho := step_outcome h hs
  obtain ⟨s', cur⟩ := k'
  generalize hret : Ret.code (-1) = ret at ho
  cases ho with
  | invalid _ hslot =>
    rw [hslot] at hvalid
    cases hvalid
  | @fault _ _ q _ hslot hden =>
    have hend := hinv.faultEnd (fresh_of_denied hinv (.inl ⟨_, _, hslot⟩) hden)
    rw [← Ret.code.inj hret] at hend
    exact hend.waits hinv hread hr hf hclean

/-- All tries. -/
lemma waits_reaches (h : (system u).Reachable k) (hr : (system u).Reaches k ls k')
    (hrefused : ∀ l ∈ ls, RefusedIn k.pager l) (hread : k.pager.reads.head = .success)
    {r : PageRef} (hheld : k.pager.Held r) (hf : (k.pager.pages r).Framed)
    (hclean : (k.pager.pages r).dirty = false) : Waits r ls.length k.pager k'.pager := by
  induction hr with
  | refl => exact ⟨SameLayout.refl _, rfl, hf, hclean, le_rfl⟩
  | @step ls k k' k'' l hr hs ih =>
    have hw := ih h (fun l hl => hrefused l (List.mem_cons_of_mem _ hl)) hread hheld hf hclean
    have hl : RefusedIn k'.pager l := by
      obtain ⟨addr, w, rfl, hvalid⟩ := hrefused l List.mem_cons_self
      rw [← hw.layout.slot, ← hw.layout.ptbr] at hvalid
      exact ⟨addr, w, rfl, hvalid⟩
    have hone := waits_step (h.reaches hr) hs hl (hw.reads ▸ hread)
      ((hw.layout.held r).2 hheld) hw.framed hw.clean
    rw [List.length_cons, Nat.add_comm]
    exact hw.trans hone

/-- **Retries are bounded.** Faults on valid pages of the current process are refused one after the
other less often than there are frames in two turns of the clock, when the page of some frame is clean
and the disk can be read. -/
theorem retries_bounded (h : (system u).Reachable k) (hr : (system u).Reaches k ls k')
    (hrefused : ∀ l ∈ ls, RefusedIn k.pager l) (hread : k.pager.reads.head = .success)
    {r : PageRef} (hheld : k.pager.Held r) (hf : (k.pager.pages r).Framed)
    (hclean : (k.pager.pages r).dirty = false) : ls.length < 2 * (u.memoryPages - 1) := by
  have hsound := Sound.reachable h
  have hF := hsound.inv.frames
  have hlt : k.pager.rankOf r < 2 * (k.pager.maxSize - 1) :=
    rank_lt (hF.owner_ok (hF.owned hheld hf)).1 hF.active_le _
  have hnear := (waits_reaches h hr hrefused hread hheld hf hclean).nearer
  rw [hsound.memory] at hlt
  omega

/-- No block can be written, and there are two frames. -/
def Setup.waiting : Setup := { Setup.three with writes := fun _ => false }

/-- One frame has a page that was stored to, the other a page of a file, and a third page waits. -/
def Kernel.waiting : Kernel :=
  Setup.waiting.kernel [.create 0 1 10, .switch 1, .map nullptr 0, .fault (vpnToVa 0) true,
    .store 0 ⟨0, vmPagesize_pos⟩ 97, .map (vpnToVa 0) 7, .fault (vpnToVa 1) false, .map nullptr 0]
    (by decide +kernel)

/-- The next read succeeds when a read would return 0. -/
lemma reads_of_gives {s : State} (h : gives (fileRead none 0 0) s 0 = true) :
    s.reads.head = .success := by
  obtain ⟨s', hs⟩ := ok_of_gives h
  simp only [fileRead, bind_apply, get_apply, ok_bind] at hs
  cases hread : s.reads.head with
  | success => rfl
  | failure left =>
    rw [hread] at hs
    cases hs

/-- The first try for the third page is refused. -/
theorem retries_bounded_waiting : ∃ k ls, (system .waiting).Reaches .waiting ls k ∧
    ls = [(.fault (vpnToVa 2) true, .code (-1))] ∧ ls.length < 2 * (Setup.waiting.memoryPages - 1) := by
  have hreach : (system .waiting).Reachable Kernel.waiting := Setup.waiting.kernel_reachable _ _
  have hs := Kernel.waiting.call_gives .waiting (.fault (vpnToVa 2) true) (.code (-1))
    (by decide +kernel) (by decide +kernel)
  have hr := (System.Reaches.refl (T := system .waiting) Kernel.waiting).step hs
  refine ⟨_, _, hr, rfl, retries_bounded hreach hr (r := 1) ?_ ?_ ?_ ?_ ?_⟩
  · intro l hl
    exact ⟨_, _, List.mem_singleton.1 hl, by decide +kernel⟩
  · exact reads_of_gives (by decide +kernel)
  · exact .inl ⟨10, 1, by decide +kernel⟩
  · decide +kernel
  · decide +kernel

end Runs

end VmPager
