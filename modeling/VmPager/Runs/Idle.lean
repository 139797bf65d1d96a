import VmPager.Runs.FaultCount

/-!
# A page that is not used leaves memory

The clock gives every page a second chance and no third one. The rank of a page with a frame is the
place of its frame in the queue, and a whole queue more while the page is marked as referenced. Every
search of a full memory takes the ranks of the pages it spares down; nothing but a fault on the page
takes its rank up.
-/

namespace VmPager

open Lib.SecondChance Lib.Transition

/-- The rank of the frame of a page. -/
def State.rankOf (s : State) (r : PageRef) : ℕ :=
  rank (s.maxSize - 1) (s.pages r).referenced s.activePages (s.pages r).ppn

/-- A fault on the page was resolved, or it was evicted, or its block could not be written. -/
def disturbs (r : PageRef) (backing : Option Name × ℕ) : Event → Bool
  | .faulted page _ => page = r
  | .evicted page => page = r
  | .fileWrite filename block _ ok => (filename, block) = backing && !ok
  | _ => false

/-- Nothing in a part of the history disturbs the page. -/
def Idle (s : State) (r : PageRef) (new : List Event) : Prop :=
  ∀ e ∈ new, disturbs r (s.pages r).backing e = false

/-- From `s` to `s'` the page keeps its frame while it is idle, and its rank pays for the searches. -/
structure Ages (r : PageRef) (s s' : State) : Prop where
  nextPage : s.nextPage ≤ s'.nextPage
  backing : r < s.nextPage → (s'.pages r).backing = (s.pages r).backing
  held : r < s.nextPage → s'.Held r → s.Held r
  ages : ∃ new, s'.trace = new ++ s.trace ∧ (r < s.nextPage → Idle s r new → s'.Held r →
    (s.pages r).Framed → (s'.pages r).Framed ∧ s'.rankOf r + new.countP endsSearch ≤ s.rankOf r)

section Ages

variable {s s' t : State} {r q : PageRef} {p : ℕ}

lemma Ages.refl (s : State) : Ages r s s :=
  ⟨le_rfl, fun _ => rfl, fun _ => id, [], rfl, fun _ _ _ hf => ⟨hf, le_rfl⟩⟩

lemma Ages.trans (h : Ages r s s') (h' : Ages r s' t) : Ages r s t := by
  obtain ⟨new, hn, hages⟩ := h.ages
  obtain ⟨new', hn', hages'⟩ := h'.ages
  refine ⟨h.nextPage.trans h'.nextPage, fun hlt => ?_, fun hlt hr => ?_, new' ++ new, ?_, ?_⟩
  · rw [h'.backing (hlt.trans_le h.nextPage), h.backing hlt]
  · exact h.held hlt (h'.held (hlt.trans_le h.nextPage) hr)
  · rw [hn', hn, List.append_assoc]
  · intro hlt hidle hheld hf
    have hlt' := hlt.trans_le h.nextPage
    have hidle' : Idle s' r new' := by
      intro e he
      rw [h.backing hlt]
      exact hidle e (List.mem_append_left _ he)
    obtain ⟨hf₁, hle⟩ := hages hlt (fun e he => hidle e (List.mem_append_right _ he))
      (h'.held hlt' hheld) hf
    obtain ⟨hf₂, hle'⟩ := hages' hlt' hidle' hheld hf₁
    refine ⟨hf₂, ?_⟩
    rw [List.countP_append]
    omega

/-- Where the arenas and the file table stay, only what happens to the frame is left to show. -/
lemma SameLayout.ages (hL : SameLayout s s') (new : List Event) (hn : s'.trace = new ++ s.trace)
    (h : Idle s r new → s.Held r → (s.pages r).Framed →
      (s'.pages r).Framed ∧ s'.rankOf r + new.countP endsSearch ≤ s.rankOf r) : Ages r s s' where
  nextPage := hL.nextPage.ge
  backing _ := hL.backing r
  held _ := (hL.held r).1
  ages := ⟨new, hn, fun _ hidle hr => h hidle ((hL.held r).1 hr)⟩

end Ages

/-! ### Searches -/

section Search

variable {s t : State} {r q : PageRef} {v p : ℕ} {passed rest : List ℕ}

/-- Every frame but the zero frame can be active. -/
lemma Frames.active_le {hole : Option ℕ} (h : Frames hole s) :
    s.activePages.length ≤ s.maxSize - 1 := by
  have hl := h.queues.length_eq
  rw [List.length_append, List.length_range'] at hl
  omega

/-- A sweep spares a page, and takes its rank down. -/
lemma State.Search.spared (h : Inv none s) (hs : s.Search v passed rest q) (hr : s.Held r)
    (hf : (s.pages r).Framed) (hne : r ≠ q) :
    ∃ d, (s.swept v passed rest).pages r = (s.pages r).withFlags { (s.pages r).flags with
        referenced := d } ∧
      rank (s.maxSize - 1) d (rest ++ [v]) (s.pages r).ppn < s.rankOf r := by
  have ho := h.frames.owned hr hf
  have hmem : (s.pages r).ppn ∈ s.activePages := (h.frames.owner_ok ho).1
  have hv : (s.pages r).ppn ≠ v := by
    intro hv
    rw [hv, hs.owner] at ho
    exact hne (Option.some.inj ho).symm
  have hlt := sweep_rank h.frames.active_nodup (Nat.lt_succ_self _) h.frames.active_le hs.sweep hmem hv
  -- the mark of its frame is its flag, before and after
  have hmarked : s.marked (s.pages r).ppn = (s.pages r).referenced := by
    rw [State.marked, ho]
  have hd := congrFun (swept_marked h.frames v passed rest) (s.pages r).ppn
  have hd' : (s.swept v passed rest).marked (s.pages r).ppn =
      ((s.swept v passed rest).pages r).referenced := by
    rw [State.marked, swept_owner, ho]
  have hp : (s.swept v passed rest).pages r = _ := unrefAll_page passed s r
  rw [← hd, hd', hmarked, hp] at hlt
  exact ⟨_, hp, hlt⟩

/-- A search that ends in an eviction or a failed write of another page. -/
lemma State.Search.ages (h : Inv none s) (hs : s.Search v passed rest q) (hL : SameLayout s t)
    (new : List Event) (hn : t.trace = new ++ s.trace) (hcount : new.countP endsSearch = 1)
    (hdist : ¬ Idle s q new) (hactive : t.activePages = rest ++ [v])
    (hpage : r ≠ q → t.pages r = (s.swept v passed rest).pages r) : Ages r s t := by
  apply hL.ages new hn
  intro hidle hr hf
  have hne : r ≠ q := by
    rintro rfl
    exact hdist hidle
  obtain ⟨d, hp, hlt⟩ := hs.spared h hr hf hne
  rw [State.rankOf, hpage hne, hp, hactive, hL.maxSize, hcount]
  exact ⟨hf, hlt⟩

lemma Reclaim.ages (h : Inv none s) (hr : Reclaim s p t) (r : PageRef) : Ages r s t := by
  have hL : SameLayout s t := (hr.room h).1.layout
  cases hr with
  | @free p rest hfree =>
    apply hL.ages [] rfl
    intro _ hr hf
    have hmem : (s.pages r).ppn ∈ s.activePages := (h.frames.owner_ok (h.frames.owned hr hf)).1
    refine ⟨hf, Nat.le_of_eq ?_⟩
    show (s.activePages ++ [p]).idxOf (s.pages r).ppn + _ + 0 = _
    rw [List.idxOf_append_of_mem hmem]
    rfl
  | @clean v passed rest q hs =>
    apply hs.ages h hL [.evicted q]
    · rw [State.dropPage_trace, swept_trace]
      rfl
    · rfl
    · exact fun hidle => by simpa [disturbs] using hidle _ List.mem_cons_self
    · rfl
    · exact fun hne => by rw [dropPage_page, if_neg hne]
  | @written v passed rest q hs =>
    apply hs.ages h hL _ (written_trace ..)
    · rfl
    · exact fun hidle => by simpa [disturbs] using hidle _ List.mem_cons_self
    · rfl
    · exact fun hne => by rw [dropPage_page, if_neg hne]; rfl
  | @stuck v passed rest q hs =>
    apply hs.ages h hL [_] (stuck_trace ..)
    · rfl
    · exact fun hidle => by simpa [disturbs] using hidle _ List.mem_cons_self
    · rfl
    · exact fun _ => rfl

end Search

/-! ### Faults and acts -/

section Moves

variable {s s' t : State} {r q : PageRef} {p : ℕ}

/-- The fault on another page is resolved. -/
lemma ages_granted {w : Bool} (es : List Event) (hL : SameLayout s s')
    (hn : s'.trace = .faulted q w :: es ++ s.trace) (hcount : es.countP endsSearch = 0)
    (hactive : s'.activePages = s.activePages) (hpage : r ≠ q → s'.pages r = s.pages r) :
    Ages r s s' := by
  apply hL.ages _ hn
  intro hidle hr hf
  have hne : r ≠ q := by
    rintro rfl
    have := hidle _ List.mem_cons_self
    simp [disturbs] at this
  have hzero : (Event.faulted q w :: es).countP endsSearch = 0 := by
    rw [List.countP_cons, hcount]
    rfl
  rw [State.rankOf, hpage hne, hactive, hL.maxSize, hzero]
  exact ⟨hf, le_rfl⟩

lemma PageFault.ages (h : Inv none s) (hf : PageFault s s') (r : PageRef) : Ages r s s' := by
  obtain @⟨vpn, q, w, res, _, hs, -, hend, -, hev⟩ := hf
  cases hend with
  | touched =>
    exact ages_granted [] (sameLayout_touch s q w) rfl rfl rfl fun hne =>
      refresh_page_ne s hne _
  | noFrame _ hrec => exact hrec.ages h r
  | @zeroed p t _ _ hrec =>
    apply (hrec.ages h r).trans
    apply ages_granted (q := q) (w := w) [.memcpy (p * vmPagesize) 0]
    · exact (holeWrite_zeroFrame t p).layout.trans (sameLayout_fill _ q p true w)
    · rfl
    · rfl
    · rfl
    · exact fun hne => by rw [fill_page, if_neg hne]; rfl
  | @loaded p t _ _ hrec =>
    let bk := (s.pages q).backing
    apply (hrec.ages h r).trans
    apply ages_granted (q := q) (w := w) [.fileRead bk.1 bk.2 (p * vmPagesize) true]
    · exact (holeWrite_readInto t bk p).layout.trans (sameLayout_fill _ q p w w)
    · rfl
    · rfl
    · rfl
    · exact fun hne => by rw [fill_page, if_neg hne]; rfl
  | @unread p t left _ hp hrec =>
    have h1 : Inv (some p) t := ((hrec.room h).2.resolve_left fun h0 => hp h0.1).2
    let bk := (s.pages q).backing
    apply (hrec.ages h r).trans
    apply (holeWrite_readFailed t bk p left).layout.ages
      [.fileRead bk.1 bk.2 (p * vmPagesize) false] rfl
    intro _ hr hf
    -- the frame that goes back is not that of the page
    have hne := h1.frames.ppn_ne_hole hr
    have hmem : (t.pages r).ppn ∈ t.activePages := (h1.frames.owner_ok (h1.frames.owned hr hf)).1
    have hle := idxOf_le_of_sublist (List.erase_sublist (a := p)) h1.frames.active_nodup
      ((List.mem_erase_of_ne hne).2 hmem)
    exact ⟨hf, Nat.add_le_add_right hle _⟩

lemma Act.ages (h : Inv none s) (ha : Act s s') (r : PageRef) : Ages r s s' := by
  obtain ⟨hsize, hsub⟩ := ha.activePages
  -- a page that is still in use has kept its frame
  have key : r < s.nextPage → s'.Held r → (s.pages r).Framed →
      (s'.pages r).Framed ∧ s'.rankOf r ≤ s.rankOf r := by
    intro hlt hr hf
    have hflags := ha.flags hlt
    have hf' := (framed_congr hflags).2 hf
    have hmem := ((h.act ha).frames.owner_ok ((h.act ha).frames.owned hr hf')).1
    have hle := idxOf_le_of_sublist hsub h.frames.active_nodup hmem
    refine ⟨hf', ?_⟩
    rw [ppn_congr hflags] at hle
    rw [State.rankOf, State.rankOf, hsize, ppn_congr hflags, referenced_congr hflags]
    exact Nat.add_le_add_right hle _
  refine ⟨ha.nextPage, ha.backing, ha.held h, ?_⟩
  rcases ha.trace with ht | ⟨q, n, b, ht⟩
  · exact ⟨[], ht, fun hlt _ => key hlt⟩
  · exact ⟨[.mapped q n b], ht, fun hlt _ => key hlt⟩

lemma Moves.ages (h : Inv none s) (hm : Moves s s') (r : PageRef) : Ages r s s' := by
  apply hm.preserves Ages.refl (fun _ _ _ => Ages.trans) ?_ h
  intro s s' h hmove
  cases hmove with
  | fault hf => exact hf.ages h r
  | act ha => exact ha.ages h r

end Moves

/-! ### Runs -/

/-- **An idle page is evicted.** In every part of a run with as many searches of a full memory as two
turns of the clock, a page that had a frame at the start is faulted on, evicted, or fails to be
written back; or its process has ended. -/
theorem idle_page_evicted {u : Setup} {k k' : Kernel} {ls : List Label} (h : (system u).Reachable k)
    (hr : (system u).Reaches k ls k') {new : List Event}
    (hn : k'.pager.trace = new ++ k.pager.trace) {r : PageRef} (hheld : k.pager.Held r)
    (hf : (k.pager.pages r).Framed) (hmany : 2 * (u.memoryPages - 1) ≤ new.countP endsSearch) :
    (∃ e ∈ new, disturbs r (k.pager.pages r).backing e = true) ∨ ¬ k'.pager.Held r := by
  have hsound := Sound.reachable h
  have hinv := hsound.inv
  obtain ⟨new', hn', hages⟩ := ((reaches_moves h hr).ages hinv r).ages
  rw [hn] at hn'
  obtain rfl := List.append_cancel_right hn'
  by_contra hnot
  rw [not_or, not_not] at hnot
  obtain ⟨hidle, hheld'⟩ := hnot
  have hidle' : Idle k.pager r new := by
    intro e he
    exact Bool.eq_false_of_not_eq_true fun hd => hidle ⟨e, he, hd⟩
  obtain ⟨-, hle⟩ := hages (hinv.layout.held_lt hheld) hidle' hheld' hf
  have hmem : (k.pager.pages r).ppn ∈ k.pager.activePages :=
    (hinv.frames.owner_ok (hinv.frames.owned hheld hf)).1
  have hlt : k.pager.rankOf r < 2 * (k.pager.maxSize - 1) :=
    rank_lt hmem hinv.frames.active_le _
  rw [hsound.memory] at hlt
  omega

/-- Both pages of the small kernel are loaded from, one after the other: the second page, which has
the frame, is evicted for the first. -/
theorem idle_page_evicted_small : ∃ k ls new, (system .small).Reaches Kernel.small ls k ∧
    k.pager.trace = new ++ Kernel.small.pager.trace ∧
    ((∃ e ∈ new, disturbs 1 (Kernel.small.pager.pages 1).backing e = true) ∨ ¬ k.pager.Held 1) := by
  obtain ⟨k, ⟨ret, hs⟩, k', ⟨ret', hs'⟩, hn⟩ :
      ∃ k, (∃ ret, (system .small).step .small (.fault (vpnToVa 0) false, ret) k) ∧
        ∃ k', (∃ ret, (system .small).step k (.fault (vpnToVa 1) false, ret) k') ∧
          k'.pager.trace = [.faulted 1 false, .fileRead none 1 65536 true, .evicted 0,
            .faulted 0 false, .fileRead none 0 65536 true, .evicted 1,
            .fileWrite none 1 65536 true] ++ Kernel.small.pager.trace :=
    ⟨Kernel.small.call _ (by decide +kernel), Kernel.call_step ..,
      (Kernel.small.call (.fault (vpnToVa 0) false) (by decide +kernel)).call _ (by decide +kernel),
      Kernel.call_step .., by decide +kernel⟩
  have hr := ((System.Reaches.refl (T := system .small) Kernel.small).step hs).step hs'
  exact ⟨k', _, _, hr, hn, idle_page_evicted Kernel.small_reachable hr hn
    (.inl ⟨10, 1, by decide +kernel⟩) (by decide +kernel) (by decide)⟩

end VmPager
