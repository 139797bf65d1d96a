import VmPager.Runs.Traffic

/-!
# A working set that fits is brought in once

The clock does not thrash: in a part of a run that works on no more pages than memory has frames for,
no page is brought in twice. A page that has been brought in is chosen by the clock only after two
laps, and then every page in memory has been faulted on since; with the page that the frame is for,
they are more than there are frames.
-/

namespace VmPager

open Lib.SecondChance Lib.Transition

/-- The pages on which a fault was resolved. -/
def working : List Event → Finset PageRef
  | [] => ∅
  | .faulted r _ :: new => insert r (working new)
  | _ :: new => working new

lemma working_append (es new : List Event) : working (es ++ new) = working es ∪ working new := by
  induction es with
  | nil => exact (Finset.empty_union _).symm
  | cons e es ih =>
    cases e <;> simp only [List.cons_append, working, ih, Finset.insert_union]

/-- The page that has the frame has been faulted on. -/
def State.SeenIn (s : State) (new : List Event) (p : ℕ) : Prop :=
  ∀ r, s.owner p = some r → r ∈ working new

/-- A page that was brought in is still in memory, unless its process has ended. -/
structure State.Stays (s : State) (new : List Event) (r : PageRef) : Prop where
  made : r < s.nextPage
  framed : s.Held r → (s.pages r).Framed
  lapped : s.Held r → Lapped s.marked (s.SeenIn new) s.activePages (s.pages r).ppn

/-- Since the history `old`, unless a disk call has failed or the pages worked on and `more` do not fit,
the pages that were brought in are different ones, and have stayed. -/
def Keeps (old : List Event) (more : Finset PageRef) (s : State) : Prop :=
  ∃ new, s.trace = new ++ old ∧ ((∀ e ∈ new, e.failed = false) →
    (more ∪ working new).card < s.maxSize →
      ∃ brought ⊆ working new, new.countP isFill = brought.card ∧ ∀ r ∈ brought, s.Stays new r)

section Stays

variable {s t : State} {r q : PageRef} {new es : List Event} {v p : ℕ} {passed rest : List ℕ}

/-- Where the queue loses frames at most, a page stays if the frames are as before, or marked for a
fault that was resolved. -/
lemma State.Stays.mono (h : s.Stays new r) (hnd : s.activePages.Nodup) (hF : Frames none t)
    (hnext : s.nextPage ≤ t.nextPage) (hheld : t.Held r → s.Held r)
    (hflags : (s.pages r).Framed → (t.pages r).Framed ∧ (t.pages r).ppn = (s.pages r).ppn)
    (hsub : t.activePages.Sublist s.activePages)
    (hframes : ∀ x ∈ t.activePages, (t.marked x = s.marked x ∧ t.owner x = s.owner x) ∨
      (t.marked x = true ∧ t.SeenIn (es ++ new) x)) : t.Stays (es ++ new) r := by
  have hframed : t.Held r → (t.pages r).Framed := fun hr => (hflags (h.framed (hheld hr))).1
  refine ⟨h.made.trans_le hnext, hframed, fun hr => ?_⟩
  have hppn := (hflags (h.framed (hheld hr))).2
  have hmem := (hF.owner_ok (hF.owned hr (hframed hr))).1
  rw [hppn] at hmem ⊢
  apply ((h.lapped (hheld hr)).sublist hsub hnd hmem).mono
  · intro x hx hseen
    rcases hframes x hx with ⟨-, ho⟩ | ⟨-, hs⟩
    · intro q hq
      rw [working_append]
      exact Finset.mem_union_right _ (hseen q (ho ▸ hq))
    · exact hs
  · intro x hx hm
    rcases hframes x hx with ⟨hm', -⟩ | ⟨-, hs⟩
    · exact .inl (hm' ▸ hm)
    · exact .inr hs
  · intro hm
    rcases hframes _ hmem with ⟨hm', -⟩ | ⟨hm', -⟩
    · exact hm'.trans hm
    · exact hm'

/-- A frame that was free has no page. -/
lemma State.Stays.free (h : s.Stays new r) (hinv : Inv none s) (hfree : s.freePages = p :: rest) :
    (s.takeFree p rest).Stays new r := by
  have hhole : s.owner p = none := (hinv.takeFree hfree).1.frames.owner_hole
  refine ⟨h.made, h.framed, fun hr => (h.lapped hr).push fun q hq => ?_⟩
  rw [hhole] at hq
  cases hq

/-- A page that leaves its frame takes the mark with it. -/
lemma dropPage_marked (hlt : v < t.physMemPages.length) (hq : ∀ x, t.owner x = some q → x = v)
    (x : ℕ) : (t.dropPage q v).marked x = if x = v then false else t.marked x := by
  unfold State.marked
  rw [owner_set rfl hlt]
  by_cases hx : x = v
  · rw [if_pos hx, if_pos hx]
  · rw [if_neg hx, if_neg hx]
    cases ho : t.owner x with
    | none => rfl
    | some r =>
      have hne : r ≠ q := by
        rintro rfl
        exact hx (hq x ho)
      dsimp only
      rw [dropPage_page, if_neg hne]

/-- The page of another frame is evicted. -/
lemma State.Stays.evicted (h : s.Stays new r) (hinv : Inv none s) (hs : s.Search v passed rest q)
    (hne : r ≠ q) (hpages : t.pages = (s.swept v passed rest).pages)
    (hphys : t.physMemPages = (s.swept v passed rest).physMemPages)
    (hactive : t.activePages = rest ++ [v]) (hL : SameLayout s (t.dropPage q v))
    (hnew : working new ⊆ working (es ++ new)) : (t.dropPage q v).Stays (es ++ new) r := by
  have howner : ∀ x, t.owner x = s.owner x := by
    intro x
    rw [owner_congr hphys, swept_owner]
  have hmarked : t.marked = unmark s.marked passed := by
    rw [← swept_marked hinv.frames v passed rest]
    funext x
    unfold State.marked
    rw [howner, swept_owner, hpages]
  have hlt : v < t.physMemPages.length := by
    rw [hphys]
    simpa [State.swept] using hinv.frames.phys_lt (hinv.frames.owner_ok hs.owner).1
  have hv : ∀ x, t.owner x = some q → x = v := by
    intro x hx
    rw [howner] at hx
    rw [← hinv.frames.owner_ppn hx, hinv.frames.owner_ppn hs.owner]
  have hpage : ((t.dropPage q v).pages r).resident = (s.pages r).resident ∧
      ((t.dropPage q v).pages r).ppn = (s.pages r).ppn := by
    have hp : (s.swept v passed rest).pages r = _ := unrefAll_page passed s r
    rw [dropPage_page, if_neg hne, hpages, hp]
    exact ⟨rfl, rfl⟩
  refine ⟨h.made.trans_eq hL.nextPage.symm, fun hr => ?_, fun hr => ?_⟩
  · have hf := h.framed ((hL.held r).1 hr)
    exact ⟨hpage.1.trans hf.1, hpage.2 ▸ hf.2⟩
  have hr' := (hL.held r).1 hr
  have hppn : v ≠ (s.pages r).ppn := by
    rintro rfl
    have ho := hinv.frames.owned hr' (h.framed hr')
    rw [hs.owner] at ho
    exact hne (Option.some.inj ho).symm
  -- the sweep takes the page on, if the frame it chooses counts as seen: it has no page
  have hlap : Lapped (unmark s.marked passed) (fun x => s.SeenIn new x ∨ x = v) (rest ++ [v])
      (s.pages r).ppn := by
    apply Lapped.sweep hinv.frames.active_nodup (Nat.lt_succ_self _) hs.sweep ?_ hppn (.inr rfl)
    exact (h.lapped hr').mono (fun _ _ => .inl) (fun _ _ => .inl) id
  have hm := dropPage_marked hlt hv
  show Lapped _ _ t.activePages _
  rw [hpage.2, hactive]
  apply hlap.mono
  · intro x _ hx q' hq'
    rw [owner_set rfl hlt] at hq'
    split at hq'
    · cases hq'
    · rename_i hxv
      rw [howner] at hq'
      exact hnew (hx.resolve_right hxv q' hq')
  · intro x _ hx
    rw [hm] at hx
    split at hx
    · cases hx
    · exact .inl (hmarked ▸ hx)
  · intro hx
    rw [hm, if_neg hppn.symm, hmarked]
    exact hx

end Stays

/-! ### Searches -/

section Search

variable {old : List Event} {more : Finset PageRef} {s s' t : State} {r q : PageRef} {v p : ℕ}
  {passed rest : List ℕ}

/-- The page that the clock chooses is none of those that were brought in, as long as they fit. -/
lemma State.Search.spares {new : List Event} {brought : Finset PageRef} (h : Inv none s)
    (hs : s.Search v passed rest q) (hf : ¬ (s.pages r).Framed)
    (hfew : ({r} ∪ working new).card < s.maxSize) (hsub : brought ⊆ working new)
    (hstay : ∀ a ∈ brought, s.Stays new a) : q ∉ brought := by
  intro hq
  obtain ⟨pages, hnd, hown, hlen⟩ := h.full_pages hs.full
  have hppn : (s.pages q).ppn = v := h.frames.owner_ppn hs.owner
  have hseen : ∀ x ∈ s.activePages, x ≠ v → s.SeenIn new x := by
    have hlap := (hstay q hq).lapped (h.frames.owner_held hs.owner)
    rw [hppn] at hlap
    exact hlap.chosen h.frames.active_nodup (Nat.lt_succ_self _) hs.sweep rfl
  -- all pages in memory are among those worked on
  have hmem : ∀ a ∈ pages, a ∈ working new := by
    intro a ha
    obtain ⟨hheld, hfa⟩ := hown a ha
    have ho := h.frames.owned hheld hfa
    by_cases hv : (s.pages a).ppn = v
    · rw [hv, hs.owner] at ho
      rw [← Option.some.inj ho]
      exact hsub hq
    · exact hseen _ (h.frames.owner_ok ho).1 hv a ho
  have hr : r ∉ pages := fun hr => hf (hown r hr).2
  have hle : (r :: pages).toFinset.card ≤ ({r} ∪ working new).card := by
    apply Finset.card_le_card
    intro a ha
    rcases List.mem_cons.1 (List.mem_toFinset.1 ha) with rfl | ha
    · exact Finset.mem_union_left _ (Finset.mem_singleton_self _)
    · exact Finset.mem_union_right _ (hmem a ha)
  rw [List.toFinset_card_of_nodup (List.nodup_cons.2 ⟨hr, hnd⟩), List.length_cons] at hle
  omega

/-- A page is evicted, with the events `es`. -/
lemma Keeps.evicted (hk : Keeps old {r} s) (h : Inv none s) (hs : s.Search v passed rest q)
    (hf : ¬ (s.pages r).Framed) (hpages : t.pages = (s.swept v passed rest).pages)
    (hphys : t.physMemPages = (s.swept v passed rest).physMemPages)
    (hactive : t.activePages = rest ++ [v]) (hL : SameLayout s (t.dropPage q v)) (es : List Event)
    (htrace : (t.dropPage q v).trace = es ++ s.trace) (hwork : ∀ new, working (es ++ new) = working new)
    (hcount : es.countP isFill = 0) : Keeps old {r} (t.dropPage q v) := by
  obtain ⟨new, hn, hk⟩ := hk
  refine ⟨es ++ new, by rw [htrace, hn, List.append_assoc], fun hok hfew => ?_⟩
  rw [hwork, hL.maxSize] at hfew
  obtain ⟨brought, hsub, hbrought, hstay⟩ :=
    hk (fun e he => hok e (List.mem_append_right _ he)) hfew
  have hq := hs.spares h hf hfew hsub hstay
  refine ⟨brought, by rwa [hwork], ?_, fun a ha => ?_⟩
  · rw [List.countP_append, hcount, hbrought]
    exact Nat.zero_add _
  · have hne : a ≠ q := by
      rintro rfl
      exact hq ha
    exact (hstay a ha).evicted h hs hne hpages hphys hactive hL (hwork new).ge

lemma Reclaim.keeps (h : Inv none s) (hr : Reclaim s p t) (hf : ¬ (s.pages r).Framed)
    (hk : Keeps old {r} s) : Keeps old {r} t := by
  have hL : SameLayout s t := (hr.room h).1.layout
  cases hr with
  | @free p rest hfree =>
    obtain ⟨new, hn, hk⟩ := hk
    refine ⟨new, hn, fun hok hfew => ?_⟩
    obtain ⟨brought, hsub, hcount, hstay⟩ := hk hok hfew
    exact ⟨brought, hsub, hcount, fun a ha => (hstay a ha).free h hfree⟩
  | @clean v passed rest q hs =>
    apply hk.evicted h hs hf rfl rfl rfl hL [.evicted q]
    · rw [State.dropPage_trace, swept_trace]
      rfl
    · exact fun _ => rfl
    · rfl
  | @written v passed rest q hs =>
    exact hk.evicted h hs hf rfl rfl rfl hL _ (written_trace ..) (fun _ => rfl) rfl
  | @stuck v passed rest q hs =>
    obtain ⟨new, hn, -⟩ := hk
    refine ⟨.fileWrite _ _ _ false :: new, by rw [stuck_trace, hn]; rfl, fun hok => ?_⟩
    exact absurd (hok _ List.mem_cons_self) (by simp [Event.failed])

end Search

/-! ### Faults and acts -/

section Moves

variable {old : List Event} {more : Finset PageRef} {s s' t : State} {r q : PageRef} {p : ℕ} {w : Bool}

/-- After a call that has failed there is nothing to show. -/
lemma Keeps.failed (hk : Keeps old more t) {e : Event} (he : e.failed = true)
    (ht : s.trace = e :: t.trace) : Keeps old ∅ s := by
  obtain ⟨new, hn, -⟩ := hk
  refine ⟨e :: new, by rw [ht, hn]; rfl, fun hok => ?_⟩
  rw [hok e List.mem_cons_self] at he
  cases he

/-- A page without a frame is brought in. -/
lemma Keeps.fill (hk : Keeps old {r} t) (h : Inv (some p) t) (hr : t.Held r)
    (hf : ¬ (t.pages r).Framed) (hlast : ∃ queue, t.activePages = queue ++ [p]) {d : Bool}
    (h' : Inv none (s.fill r p d w))
    (hw : HoleWrite p t s) (hphys : s.physMemPages = t.physMemPages)
    (hactive : s.activePages = t.activePages) {e : Event} (he : isFill e = true)
    (ht : s.trace = e :: t.trace) : Keeps old ∅ (s.fill r p d w) := by
  obtain ⟨new, hn, hk⟩ := hk
  have hL : SameLayout t (s.fill r p d w) := hw.layout.trans (sameLayout_fill s r p d w)
  have hwork : working ([.faulted r w, e] ++ new) = insert r (working new) := by
    cases e <;> first | rfl | cases he
  refine ⟨[.faulted r w, e] ++ new, ?_, fun hok hfew => ?_⟩
  · rw [State.fill_trace, ht, hn]
    rfl
  rw [hwork, Finset.empty_union, hL.maxSize] at hfew
  obtain ⟨brought, hsub, hcount, hstay⟩ := hk (fun e he => hok e (List.mem_append_right _ he)) hfew
  have hnot : r ∉ brought := fun hmem => hf ((hstay r hmem).framed hr)
  -- the frame has the page now, and is marked
  have hp := h.frames.hole_active rfl
  have howner : ∀ x, (s.fill r p d w).owner x = if x = p then some r else t.owner x := by
    intro x
    rw [owner_set rfl (hphys ▸ h.frames.phys_lt hp), owner_congr hphys]
  have hpage : ∀ a, (s.fill r p d w).pages a =
      if a = r then (t.pages r).withFlags ⟨p, true, true, d⟩ else t.pages a := by
    intro a
    rw [fill_page, hw.pages]
  have hmarked : (s.fill r p d w).marked p = true := by
    rw [State.marked, howner, if_pos rfl]
    dsimp only
    rw [hpage, if_pos rfl]
    rfl
  have hframes : ∀ x ∈ (s.fill r p d w).activePages,
      ((s.fill r p d w).marked x = t.marked x ∧ (s.fill r p d w).owner x = t.owner x) ∨
        ((s.fill r p d w).marked x = true ∧
          (s.fill r p d w).SeenIn ([.faulted r w, e] ++ new) x) := by
    intro x _
    by_cases hx : x = p
    · subst hx
      refine .inr ⟨hmarked, fun a ha => ?_⟩
      rw [howner, if_pos rfl] at ha
      rw [hwork, ← Option.some.inj ha]
      exact Finset.mem_insert_self _ _
    · refine .inl ⟨?_, by rw [howner, if_neg hx]⟩
      rw [State.marked, State.marked, howner, if_neg hx]
      cases ho : t.owner x with
      | none => rfl
      | some a =>
        have hne : a ≠ r := by
          rintro rfl
          exact hf (h.frames.owner_framed ho)
        dsimp only
        rw [hpage, if_neg hne]
  refine ⟨insert r brought, ?_, ?_, fun a ha => ?_⟩
  · rw [hwork]
    exact Finset.insert_subset_insert r hsub
  · have hone : [.faulted r w, e].countP isFill = 1 := by
      rw [List.countP_cons, List.countP_cons_of_pos he]
      rfl
    rw [List.countP_append, hcount, hone, Finset.card_insert_of_notMem hnot, Nat.add_comm]
  rcases Finset.mem_insert.1 ha with rfl | hb
  · refine ⟨(h.layout.held_lt hr).trans_eq hL.nextPage.symm, fun _ => ?_, fun _ => ?_⟩
    · rw [hpage, if_pos rfl]
      exact ⟨rfl, (h.frames.active_pos hp).1⟩
    · obtain ⟨queue, hqueue⟩ := hlast
      rw [hpage, if_pos rfl]
      show Lapped _ _ s.activePages p
      rw [hactive, hqueue]
      exact .new hmarked
  · have hne : a ≠ r := by
      rintro rfl
      exact hnot hb
    have hst := hstay a hb
    apply hst.mono h.frames.active_nodup h'.frames hL.nextPage.ge (hL.held a).1 ?_ ?_ hframes
    · rw [hpage, if_neg hne]
      exact fun hf => ⟨hf, rfl⟩
    · rw [← hactive]
      exact List.Sublist.refl _

/-- No page is brought in, and none leaves its frame. -/
lemma Keeps.carry (hk : Keeps old ∅ s) (h : Inv none s) (h' : Inv none t) (es : List Event)
    (ht : t.trace = es ++ s.trace) (hcount : es.countP isFill = 0) (hsize : t.maxSize = s.maxSize)
    (hnext : s.nextPage ≤ t.nextPage) (hheld : ∀ {a}, a < s.nextPage → t.Held a → s.Held a)
    (hflags : ∀ {a}, a < s.nextPage → (s.pages a).Framed →
      (t.pages a).Framed ∧ (t.pages a).ppn = (s.pages a).ppn)
    (hsub : t.activePages.Sublist s.activePages)
    (hframes : ∀ new, ∀ x ∈ t.activePages, (t.marked x = s.marked x ∧ t.owner x = s.owner x) ∨
      (t.marked x = true ∧ t.SeenIn (es ++ new) x)) : Keeps old ∅ t := by
  obtain ⟨new, hn, hk⟩ := hk
  refine ⟨es ++ new, by rw [ht, hn, List.append_assoc], fun hok hfew => ?_⟩
  have hwork : working new ⊆ working (es ++ new) := by
    rw [working_append]
    exact Finset.subset_union_right
  obtain ⟨brought, hsub', hbrought, hstay⟩ := hk (fun e he => hok e (List.mem_append_right _ he))
    ((Finset.card_le_card (Finset.union_subset_union_right hwork)).trans_lt (hsize ▸ hfew))
  refine ⟨brought, hsub'.trans hwork, ?_, fun a ha => ?_⟩
  · rw [List.countP_append, hcount, hbrought, Nat.zero_add]
  · have hst := hstay a ha
    exact hst.mono h.frames.active_nodup h'.frames hnext (hheld hst.made) (hflags hst.made) hsub
      (hframes new)

/-- The page of the fault has a frame, which is marked. -/
lemma Keeps.touch (hk : Keeps old ∅ s) (h : Inv none s) (h' : Inv none (s.touch r w))
    (hr : s.Held r) (hf : (s.pages r).Framed) : Keeps old ∅ (s.touch r w) := by
  have hL := sameLayout_touch s r w
  have hpage : ∀ a, (s.touch r w).pages a = if a = r then (s.pages r).withFlags
      ⟨(s.pages r).ppn, true, true, (s.pages r).dirty || w⟩ else s.pages a := refresh_page s r _
  apply hk.carry h h' [.faulted r w] rfl rfl hL.maxSize hL.nextPage.ge (fun _ => (hL.held _).1)
  · intro a _ hfa
    rw [hpage]
    split
    · rename_i ha
      subst ha
      exact ⟨⟨rfl, hf.2⟩, rfl⟩
    · exact ⟨hfa, rfl⟩
  · exact List.Sublist.refl _
  · intro new x _
    have howner : (s.touch r w).owner x = s.owner x := owner_congr rfl x
    by_cases hx : x = (s.pages r).ppn
    · have ho : (s.touch r w).owner x = some r := by
        rw [howner, hx]
        exact h.frames.owned hr hf
      refine .inr ⟨?_, fun a ha => ?_⟩
      · rw [State.marked, ho]
        dsimp only
        rw [hpage, if_pos rfl]
        rfl
      · rw [ho] at ha
        rw [← Option.some.inj ha]
        exact Finset.mem_insert_self _ _
    · refine .inl ⟨?_, howner⟩
      rw [State.marked, State.marked, howner]
      cases ho : s.owner x with
      | none => rfl
      | some a =>
        have hne : a ≠ r := by
          rintro rfl
          exact hx (h.frames.owner_ppn ho).symm
        dsimp only
        rw [hpage, if_neg hne]

/-- The frame that was found is at the back of the queue, and the page still has none. -/
lemma Reclaim.found (h : Inv none s) (hrec : Reclaim s p t) (hp : p ≠ 0) (hr : s.Held r)
    (hf : ¬ (s.pages r).Framed) : Inv (some p) t ∧ t.Held r ∧ ¬ (t.pages r).Framed ∧
      ∃ queue, t.activePages = queue ++ [p] := by
  obtain ⟨hroom, hinv⟩ := hrec.room h
  refine ⟨(hinv.resolve_left fun h0 => hp h0.1).2, (hroom.layout.held r).2 hr, ?_, ?_⟩
  · rw [hroom.frameless hr hf]
    exact hf
  · cases hrec with
    | stuck => exact absurd rfl hp
    | _ => exact ⟨_, rfl⟩

lemma PageFault.keeps (h : Inv none s) (hf : PageFault s s') (hk : Keeps old ∅ s) :
    Keeps old ∅ s' := by
  obtain @⟨vpn, q, w, res, _, hs, -, hend, h', -⟩ := hf
  have hheld : s.Held q := .inl ⟨_, _, hs⟩
  have hq : Keeps old {q} s := by
    obtain ⟨new, hn, hk⟩ := hk
    exact ⟨new, hn, fun hok hfew => hk hok ((Finset.card_le_card
      (Finset.union_subset_union_left (Finset.empty_subset _))).trans_lt hfew)⟩
  cases hend with
  | touched hf => exact hk.touch h h' hheld hf
  | noFrame _ hrec =>
    obtain ⟨v, passed, rest, r, -, -, -, rfl⟩ := hrec.of_zero h
    exact hk.failed rfl (stuck_trace ..)
  | @zeroed p t hf hp hrec =>
    obtain ⟨hinv, hr, hf', hlast⟩ := hrec.found h hp hheld hf
    exact (hrec.keeps h hf hq).fill hinv hr hf' hlast h' (holeWrite_zeroFrame t p) rfl rfl rfl rfl
  | @loaded p t hf hp hrec =>
    obtain ⟨hinv, hr, hf', hlast⟩ := hrec.found h hp hheld hf
    exact (hrec.keeps h hf hq).fill hinv hr hf' hlast h' (holeWrite_readInto t _ p) rfl rfl rfl rfl
  | @unread p t left hf hp hrec => exact (hrec.keeps h hf hq).failed rfl rfl

lemma Act.owner (ha : Act s s') {x : ℕ} {a : PageRef} (ho : s'.owner x = some a) :
    s.owner x = some a := by
  cases ha with
  | destroy =>
    rw [destroyed_owner] at ho
    split at ho
    · cases ho
    · exact ho
  | _ => exact ho

lemma Act.keeps (h : Inv none s) (ha : Act s s') (hk : Keeps old ∅ s) : Keeps old ∅ s' := by
  obtain ⟨hsize, hsub⟩ := ha.activePages
  have hframes : ∀ x ∈ s'.activePages, s'.marked x = s.marked x ∧ s'.owner x = s.owner x := by
    intro x hx
    obtain ⟨a, ho⟩ := (h.act ha).frames.active_owned hx (by simp)
    have ho' := ha.owner ho
    refine ⟨?_, ho.trans ho'.symm⟩
    rw [State.marked, State.marked, ho, ho']
    exact referenced_congr (ha.flags (h.layout.held_lt (h.frames.owner_held ho')))
  have key : ∀ es : List Event, s'.trace = es ++ s.trace → es.countP isFill = 0 →
      Keeps old ∅ s' := by
    intro es ht hcount
    apply hk.carry h (h.act ha) es ht hcount hsize ha.nextPage (ha.held h) ?_ hsub
    · exact fun _ x hx => .inl (hframes x hx)
    · intro a hlt hf
      exact ⟨(framed_congr (ha.flags hlt)).2 hf, ppn_congr (ha.flags hlt)⟩
  rcases ha.trace with ht | ⟨r, n, b, ht⟩
  · exact key [] ht rfl
  · exact key [.mapped r n b] ht rfl

lemma Moves.keeps (h : Inv none s) (hm : Moves s s') (hk : Keeps old ∅ s) : Keeps old ∅ s' := by
  apply hm.preserves (R := fun s s' => Keeps old ∅ s → Keeps old ∅ s') (fun _ => id) ?_ ?_ h hk
  · exact fun _ _ _ hab hbc ha => hbc (hab ha)
  · intro s s' h hmove
    cases hmove with
    | fault hf => exact hf.keeps h
    | act ha => exact ha.keeps h

end Moves

/-! ### Runs -/

/-- **A working set that fits is brought in once.** In every part of a run in which no disk call fails,
and faults are resolved on no more pages than memory has frames besides the zero frame, at most one
page is brought in for each of them. -/
theorem working_set_fits {u : Setup} {k k' : Kernel} {ls : List Label} (h : (system u).Reachable k)
    (hr : (system u).Reaches k ls k') {new : List Event}
    (hn : k'.pager.trace = new ++ k.pager.trace) (hok : ∀ e ∈ new, e.failed = false)
    (hfew : (working new).card < u.memoryPages) : new.countP isFill ≤ (working new).card := by
  have hstart : Keeps k.pager.trace ∅ k.pager :=
    ⟨[], rfl, fun _ _ => ⟨∅, Finset.Subset.refl _, rfl, by simp⟩⟩
  obtain ⟨new', hn', hk⟩ := (reaches_moves h hr).keeps (Sound.reachable h).inv hstart
  rw [hn] at hn'
  obtain rfl := List.append_cancel_right hn'
  have hmax : k'.pager.maxSize = u.memoryPages := (Sound.reachable (h.reaches hr)).memory
  obtain ⟨brought, hsub, hcount, -⟩ := hk hok (by rwa [Finset.empty_union, hmax])
  rw [hcount]
  exact Finset.card_le_card hsub

/-- The small kernel works on its first page, which is brought in for the second one. -/
theorem working_set_fits_small : ∃ k ls new, (system .small).Reaches Kernel.small ls k ∧
    k.pager.trace = new ++ Kernel.small.pager.trace ∧ (working new).card = 1 ∧
    new.countP isFill ≤ (working new).card := by
  obtain ⟨k, ⟨ret, hs⟩, k', ⟨ret', hs'⟩, hn⟩ :
      ∃ k, (∃ ret, (system .small).step .small (.fault (vpnToVa 0) false, ret) k) ∧
        ∃ k', (∃ ret, (system .small).step k (.fault (vpnToVa 0) true, ret) k') ∧
          k'.pager.trace = [.faulted 0 true, .faulted 0 false, .fileRead none 0 65536 true,
            .evicted 1, .fileWrite none 1 65536 true] ++ Kernel.small.pager.trace :=
    ⟨Kernel.small.call _ (by decide +kernel), Kernel.call_step ..,
      (Kernel.small.call (.fault (vpnToVa 0) false) (by decide +kernel)).call _ (by decide +kernel),
      Kernel.call_step .., by decide +kernel⟩
  have hr := ((System.Reaches.refl (T := system .small) Kernel.small).step hs).step hs'
  exact ⟨k', _, _, hr, hn, rfl, working_set_fits Kernel.small_reachable hr hn (by decide)
    (by decide +kernel)⟩

end VmPager
