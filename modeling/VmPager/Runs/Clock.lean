import VmPager.Core.Step
import VmPager.Core.Outcome

/-!
# The clock

The victim of the clock is the first frame of the queue whose page is not referenced, or the front one
after a whole lap. The pages it passes over lose their referenced flag and their entries the read and
write bits; nothing else changes, of these pages or of others.
-/

namespace VmPager

open Lib.Transition Lib.SecondChance

/-- The entry `vpn` of a page table that is allocated. -/
def State.pte (s : State) (pt : Ptbr) (vpn : ℕ) : Option Pte := (s.tables pt).map fun t => t vpn

/-- Every entry of an allocated page table is the one its page calls for. -/
lemma Coherent.pte {s : State} (hc : Coherent s) (pt : Ptbr) (vpn : ℕ) :
    s.pte pt vpn = (s.tables pt).map fun _ => s.pteFor pt vpn := by
  unfold State.pte
  cases ht : s.tables pt with
  | none => rfl
  | some t =>
    simp only [Option.map_some]
    rw [hc ht]

lemma pte_of_slot {s : State} (hL : Layout s) (hc : Coherent s) {pt : Ptbr} {vpn : ℕ} {r : PageRef}
    (hs : s.slot pt vpn = some r) : s.pte pt vpn = some (s.pages r).flags.pte := by
  obtain ⟨t, ht⟩ := Option.isSome_iff_exists.1 (hL.arena_live hs)
  rw [Coherent.pte hc, ht, State.pteFor, hs]
  rfl

/-- From `s` to `s'` the clock has gone over the frames of `swept`, and not over those of `kept`. -/
structure Sweeps (s s' : State) (swept kept : ℕ → Prop) : Prop where
  page : ∀ {p r}, swept p → s.owner p = some r → s'.pages r = { s.pages r with referenced := false }
  /-- All entries of the page, in every process. -/
  entry : ∀ {p r pt vpn}, swept p → s.owner p = some r → s.slot pt vpn = some r →
    s'.pte pt vpn = (s.pte pt vpn).map fun e => { e with readEnable := false, writeEnable := false }
  kept_page : ∀ {p r}, kept p → s.owner p = some r → s'.pages r = s.pages r
  kept_entry : ∀ {p r pt vpn}, kept p → s.owner p = some r → s.slot pt vpn = some r →
    s'.pte pt vpn = s.pte pt vpn
  bytes : s'.physmem = s.physmem

/-- The clock chooses the frame `v`, and leaves `rest` in the queue. -/
structure Chooses (s : State) (v : ℕ) (swept kept rest : List ℕ) : Prop where
  /-- The loop ends after at most one turn more than there are active frames. -/
  turns : ∀ fuel, s.activePages.length + 1 ≤ fuel → ∃ s', nextEvictionPpn fuel s = .ok (v, s') ∧
    s'.activePages = rest ∧ Sweeps s s' (· ∈ swept) (· ∈ kept)
  /-- The victim goes to the back of the queue, whether or not it can be written back. -/
  evicts : ∃ res s', evict s = .ok (res, s') ∧ s'.activePages = rest ++ [v] ∧
    Sweeps s s' (fun p => p ∈ swept ∧ p ≠ v) (fun p => p ∈ kept ∧ p ≠ v) ∧
    ((res = v ∧ s'.owner v = none) ∨
      (res = 0 ∧ ∃ n b, s'.trace = .fileWrite n b (v * vmPagesize) false :: s.trace))

section Sweep

variable {s : State} (h : Inv none s)
include h

/-- What a sweep shows of the pages is what it does to them; the entries follow. -/
lemma sweeps_of_pages {s' : State} (hl : SameLayout s s') (hc : Coherent s')
    (hb : s'.physmem = s.physmem) {swept kept : ℕ → Prop}
    (hswept : ∀ {p r}, swept p → s.owner p = some r →
      s'.pages r = { s.pages r with referenced := false })
    (hkept : ∀ {p r}, kept p → s.owner p = some r → s'.pages r = s.pages r) :
    Sweeps s s' swept kept := by
  -- the entry of a slot, before and after
  have hentry : ∀ {pt vpn r}, s.slot pt vpn = some r →
      s.pte pt vpn = some (s.pages r).flags.pte ∧ s'.pte pt vpn = some (s'.pages r).flags.pte :=
    fun {pt vpn r} hs => ⟨pte_of_slot h.layout h.coherent hs,
      pte_of_slot (hl.layout h.layout) hc ((hl.slot pt vpn).trans hs)⟩
  refine ⟨hswept, fun {p r pt vpn} hp ho hs => ?_, hkept, fun {p r pt vpn} hp ho hs => ?_, hb⟩
  · obtain ⟨h1, h2⟩ := hentry hs
    rw [h1, h2, hswept hp ho]
    have hres := (h.frames.owner_framed ho).1
    simp only [Flags.pte, PageState.flags, hres, if_true, Option.map_some, Bool.false_eq_true,
      if_false]
    split <;> rfl
  · obtain ⟨h1, h2⟩ := hentry hs
    rw [h1, h2, hkept hp ho]

omit h in
/-- The pages after the sweep. -/
lemma unrefAll_swept_page {passed : List ℕ} {p : ℕ} {r : PageRef} (hp : p ∈ passed)
    (ho : s.owner p = some r) :
    (s.unrefAll passed).pages r = { s.pages r with referenced := false } := by
  have hnot : ¬ ∀ q ∈ passed, s.owner q ≠ some r := fun hall => hall p hp ho
  rw [unrefAll_page, decide_eq_false hnot, Bool.and_false]
  rfl

lemma unrefAll_kept_page {passed : List ℕ} {p : ℕ} {r : PageRef} (hp : p ∉ passed)
    (ho : s.owner p = some r) : (s.unrefAll passed).pages r = s.pages r := by
  have hall : ∀ q ∈ passed, s.owner q ≠ some r := by
    intro q hq hoq
    have hqp : q = p := (h.frames.owner_ppn hoq).symm.trans (h.frames.owner_ppn ho)
    exact hp (hqp ▸ hq)
  rw [unrefAll_page, decide_eq_true hall, Bool.and_true]
  rfl

/-- What `evict` does when the sweep chooses `v`. -/
lemma evict_of_sweep (hfree : s.freePages = []) {v : ℕ} {swept rest : List ℕ}
    (hsw : sweep (s.activePages.length + 1) s.marked s.activePages = some (v, swept, rest)) :
    ∃ r, s.owner v = some r ∧ s.takeFrame = (s.swept v swept rest).evictFrom v := by
  rcases takeFrame_cases h with ⟨p, l, hcons, -⟩ | ⟨v', passed, rest', r, -, hsw', ho, -, htake⟩
  · rw [hfree] at hcons
    cases hcons
  · rw [hsw] at hsw'
    cases hsw'
    exact ⟨r, ho, htake⟩

/-- What the sweep comes to decides what the clock does. -/
theorem chooses_of_sweep (hfree : s.freePages = []) {v : ℕ} {swept kept rest : List ℕ}
    (hsw : ∀ fuel, s.activePages.length + 1 ≤ fuel →
      sweep fuel s.marked s.activePages = some (v, swept, rest))
    (hdisj : ∀ p ∈ kept, p ∉ swept) : Chooses s v swept kept rest := by
  constructor
  · intro fuel hf
    obtain ⟨h1, hm⟩ := h.unrefAll swept
    have hl : SameLayout s ((s.unrefAll swept).setActive rest) := { hm.layout with }
    exact ⟨_, nextEvictionPpn_eq fuel h (hsw fuel hf), rfl,
      sweeps_of_pages h hl (Coherent.congr h1.coherent rfl rfl rfl) hm.physmem
        (fun hp ho => unrefAll_swept_page hp ho)
        (fun hp ho => unrefAll_kept_page h (hdisj _ hp) ho)⟩
  · obtain ⟨hm, hinv⟩ := h.takeFrame
    have hcoh : Coherent s.takeFrame.2 := hinv.elim (·.2.coherent) (·.2.coherent)
    obtain ⟨r, ho, htake⟩ := evict_of_sweep h hfree (hsw _ le_rfl)
    have hown : (s.swept v swept rest).owner v = some r := by rw [swept_owner, ho]
    -- pages other than the victim are as the sweep leaves them
    have hpages : ∀ {p q}, p ≠ v → s.owner p = some q →
        s.takeFrame.2.pages q = (s.unrefAll swept).pages q := by
      intro p q hpv hoq
      rw [htake, evictFrom_page hown]
      · rfl
      · rintro rfl
        exact hpv ((h.frames.owner_ppn hoq).symm.trans (h.frames.owner_ppn ho))
    refine ⟨s.takeFrame.1, s.takeFrame.2, evict_eq h hfree, ?_, ?_, ?_⟩
    · rw [htake, evictFrom_activePages hown]
      rfl
    · refine sweeps_of_pages h hm.layout hcoh hm.physmem (fun {p q} hp hoq => ?_)
        fun {p q} hp hoq => ?_
      · rw [hpages hp.2 hoq]
        exact unrefAll_swept_page hp.1 hoq
      · rw [hpages hp.2 hoq]
        exact unrefAll_kept_page h (hdisj p hp.1) hoq
    · have hphys : v < (s.swept v swept rest).physMemPages.length := by
        simpa [State.swept] using h.frames.phys_lt (h.frames.owner_ok ho).1
      have htr : (s.swept v swept rest).trace = s.trace := unrefAll_trace s swept
      rw [htake]
      rcases evictFrom_cases hown with ⟨-, he⟩ | ⟨-, -, he⟩ | ⟨-, -, he⟩
      · rw [he]
        exact .inl ⟨rfl, by rw [owner_set rfl hphys, if_pos rfl]⟩
      · rw [he]
        exact .inl ⟨rfl, by rw [owner_set rfl hphys, if_pos rfl]⟩
      · rw [he, State.writeFailed_trace, htr]
        exact .inr ⟨rfl, _, _, rfl⟩

end Sweep

/-- **The second-chance choice.** With memory full, the first frame whose page is not referenced is
chosen, and the frames before it are swept; when all pages are referenced, all are swept and the frame
at the front is chosen. -/
theorem second_chance {u : Setup} {k : Kernel} (h : (system u).Reachable k)
    (hfree : k.pager.freePages = []) :
    (∀ {pre v post}, k.pager.activePages = pre ++ v :: post → (∀ p ∈ pre, k.pager.marked p = true) →
      k.pager.marked v = false → Chooses k.pager v pre (v :: post) (post ++ pre)) ∧
    ∀ {v rest}, k.pager.activePages = v :: rest → (∀ p ∈ v :: rest, k.pager.marked p = true) →
      Chooses k.pager v (v :: rest) [] rest := by
  have hinv := (Sound.reachable h).inv
  have hnd := hinv.frames.active_nodup
  constructor
  · intro pre v post ha hpre hv
    rw [ha] at hnd
    refine chooses_of_sweep hinv hfree (fun fuel hf => ?_) fun p hp hpp => ?_
    · rw [ha] at hf ⊢
      rw [List.length_append] at hf
      exact sweep_of_unmarked hnd hpre hv (by omega)
    · exact (List.nodup_append.1 hnd).2.2 p hpp p hp rfl
  · intro v rest ha hall
    rw [ha] at hnd
    refine chooses_of_sweep hinv hfree (fun fuel hf => ?_) (by simp)
    rw [ha] at hf ⊢
    exact sweep_of_marked hnd hall hf

/-- Process 1 stores to three pages, which take the three frames. -/
def Kernel.filled : Kernel :=
  Setup.four.kernel [.create 0 1 10, .switch 1, .map nullptr 0, .map nullptr 0, .map nullptr 0,
    .map nullptr 0, .fault (vpnToVa 0) true, .fault (vpnToVa 1) true, .fault (vpnToVa 2) true]
    (by decide +kernel)

/-- It stores to a fourth page, and loads from the second again. -/
def Kernel.lapped : Kernel :=
  Setup.four.kernel [.create 0 1 10, .switch 1, .map nullptr 0, .map nullptr 0, .map nullptr 0,
    .map nullptr 0, .fault (vpnToVa 0) true, .fault (vpnToVa 1) true, .fault (vpnToVa 2) true,
    .fault (vpnToVa 3) true, .fault (vpnToVa 1) false] (by decide +kernel)

/-- With all pages referenced the clock takes a lap. After the lap for the fourth page, it passes over
the second page and chooses the third. -/
theorem second_chance_four : Chooses Kernel.filled.pager 1 [1, 2, 3] [] [2, 3] ∧
    Chooses Kernel.lapped.pager 3 [2] [3, 1] [1, 2] :=
  ⟨(second_chance (Setup.four.kernel_reachable _ _) (by decide +kernel)).2 (by decide +kernel)
      (by decide +kernel),
    (second_chance (Setup.four.kernel_reachable _ _) (by decide +kernel)).1 (by decide +kernel)
      (by decide +kernel) (by decide +kernel)⟩

end VmPager
