import VmPager.Core.Moves
import VmPager.Lib.Amortised

/-!
# How often a page faults

An entry denies all accesses, permits loads, or permits both; a fault that is resolved takes it at
least one step up, and only a search for a frame in a full memory takes it down. So the faults on a
page are paid for by those searches, with the steps its entry can still take as the potential.
-/

namespace VmPager

open Lib.Amortised Lib.Transition

/-! ### The kinds of events -/

/-- `vm_fault` has returned 0 on the page. -/
def isFaultOn (r : PageRef) : Event → Bool
  | .faulted page _ => page = r
  | _ => false

/-- What a search for a frame in a full memory ends with: an eviction, or a failed write-back. -/
def endsSearch : Event → Bool
  | .evicted _ => true
  | .fileWrite _ _ _ ok => !ok
  | _ => false

/-! ### The potential -/

/-- How many more faults the entry of a page allows before it permits all accesses. -/
def PageState.faultsLeft (X : PageState) : ℕ :=
  if X.flags.pte.writeEnable then 0 else if X.flags.pte.readEnable then 1 else 2

/-- The same for a page that may not be made yet. -/
def State.faultsLeft (s : State) (r : PageRef) : ℕ :=
  if r < s.nextPage then (s.pages r).faultsLeft else 2

lemma PageState.faultsLeft_le (X : PageState) : X.faultsLeft ≤ 2 := by
  unfold PageState.faultsLeft
  split
  · omega
  · split <;> omega

lemma State.faultsLeft_le (s : State) (r : PageRef) : s.faultsLeft r ≤ 2 := by
  unfold State.faultsLeft
  split
  · exact PageState.faultsLeft_le _
  · omega

lemma faultsLeft_congr {X Y : PageState} (h : Y.flags = X.flags) : Y.faultsLeft = X.faultsLeft := by
  unfold PageState.faultsLeft
  rw [h]

/-- An entry that denies a load denies all accesses. -/
lemma faultsLeft_of_denied {X : PageState} {w : Bool} (hden : X.flags.pte.permits w = false) :
    (if w then 1 else 2) ≤ X.faultsLeft := by
  unfold PageState.faultsLeft
  generalize X.flags = F at *
  obtain ⟨ppn, referenced, resident, dirty⟩ := F
  cases w <;> cases resident <;> cases referenced <;> cases dirty <;>
    simp_all [Flags.pte, Pte.permits, Pte.zero]

lemma faultsLeft_of_granted {X : PageState} {p : ℕ} {d : Bool} (h : X.flags = ⟨p, true, true, d⟩) :
    X.faultsLeft = if d then 0 else 1 := by
  unfold PageState.faultsLeft
  rw [h]
  cases d <;> rfl

/-! ### Moves -/

/-- The faults on the page are paid for, by two for each search of a full memory. -/
abbrev FaultsPaid (r : PageRef) : State → State → Prop :=
  Paid State.trace (fun s => s.faultsLeft r) (isFaultOn r) endsSearch 2

section Paid

variable {s s' t : State} {r q : PageRef} {w : Bool} {p : ℕ}

/-- A search for a frame pays whatever it takes from the entry. -/
lemma Reclaim.faultsPaid (hr : Reclaim s p t) (q : PageRef) : FaultsPaid q s t := by
  have hle := t.faultsLeft_le q
  cases hr with
  | free => exact .silent rfl le_rfl
  | clean =>
    refine .event (by rw [State.dropPage_trace, swept_trace]) ?_
    simp [isFaultOn, endsSearch]
    omega
  | written =>
    refine ⟨_, written_trace .., ?_⟩
    simp [List.countP_cons, isFaultOn, endsSearch]
    omega
  | stuck => exact .event (stuck_trace ..) (by simp [isFaultOn, endsSearch]; omega)

/-- A fault that is resolved takes the entry of its page up, and no other. -/
lemma faultsPaid_granted {d : Bool} (hlt : r < s.nextPage)
    (hden : (s.pages r).flags.pte.permits w = false) (hd : w = true → d = true)
    (hnext : s'.nextPage = s.nextPage) (htrace : s'.trace = .faulted r w :: s.trace)
    (hpage : ∀ q, s'.pages q = if q = r then (s.pages r).withFlags ⟨p, true, true, d⟩ else s.pages q)
    (q : PageRef) : FaultsPaid q s s' := by
  refine .event htrace ?_
  simp only [State.faultsLeft, hnext, hpage, isFaultOn, endsSearch, Bool.toNat_false]
  by_cases hqr : q = r
  · subst hqr
    have hleft := faultsLeft_of_denied hden
    have hnow := faultsLeft_of_granted (X := (s.pages q).withFlags ⟨p, true, true, d⟩) (d := d) rfl
    rw [if_pos rfl, if_pos hlt, if_pos hlt, hnow, decide_eq_true rfl, Bool.toNat_true]
    cases w with
    | true =>
      rw [if_pos rfl] at hleft
      rw [if_pos (hd rfl)]
      omega
    | false =>
      rw [if_neg Bool.false_ne_true] at hleft
      split <;> omega
  · rw [if_neg hqr, decide_eq_false (Ne.symm hqr), Bool.toNat_false]

lemma PageFault.faultsPaid (h : Inv none s) (hf : PageFault s s') (q : PageRef) :
    FaultsPaid q s s' := by
  obtain @⟨vpn, r, w, res, _, hs, hden, hend, -, -⟩ := hf
  have hr : s.Held r := .inl ⟨_, _, hs⟩
  have hlt := h.layout.held_lt hr
  cases hend with
  | touched =>
    apply faultsPaid_granted hlt hden (d := (s.pages r).dirty || w)
    · intro hw
      rw [hw, Bool.or_true]
    · rfl
    · rfl
    · exact refresh_page s r _
  | noFrame _ hrec => exact hrec.faultsPaid q
  | @zeroed p t hf hp hrec hw =>
    have hm := (hrec.room h).1
    have hpage := hm.frameless hr hf
    have hlt' : r < (t.zeroFrame p).nextPage := lt_of_lt_of_eq hlt hm.layout.nextPage.symm
    have hcopy : FaultsPaid q t (t.zeroFrame p) := .event rfl le_rfl
    apply ((hrec.faultsPaid q).trans hcopy).trans
    apply faultsPaid_granted hlt' (w := w) (p := p) (d := true)
    · rw [State.zeroFrame_pages, hpage]
      exact hden
    · exact fun _ => rfl
    · rfl
    · rfl
    · exact fill_page _ r p true w
  | @loaded p t hf hp hrec hread =>
    have hm := (hrec.room h).1
    have hpage := hm.frameless hr hf
    let bk := (s.pages r).backing
    have hlt' : r < (t.readInto bk p).nextPage := lt_of_lt_of_eq hlt hm.layout.nextPage.symm
    have hcopy : FaultsPaid q t (t.readInto bk p) := .event rfl le_rfl
    apply ((hrec.faultsPaid q).trans hcopy).trans
    apply faultsPaid_granted hlt' (w := w) (p := p) (d := w)
    · rw [State.readInto_pages, hpage]
      exact hden
    · exact id
    · rfl
    · rfl
    · exact fill_page _ r p w w
  | unread _ _ hrec => exact (hrec.faultsPaid q).trans (.event rfl le_rfl)

lemma Act.faultsPaid (ha : Act s s') (q : PageRef) : FaultsPaid q s s' := by
  have hleft : s'.faultsLeft q ≤ s.faultsLeft q := by
    by_cases hq : q < s.nextPage
    · unfold State.faultsLeft
      rw [if_pos hq, if_pos (hq.trans_le ha.nextPage), faultsLeft_congr (ha.flags hq)]
    · rw [State.faultsLeft, State.faultsLeft, if_neg hq]
      exact s'.faultsLeft_le q
  rcases ha.trace with ht | ⟨r, n, b, ht⟩
  · exact .silent ht hleft
  · refine .event ht ?_
    simpa [isFaultOn, endsSearch] using hleft

lemma Moves.faultsPaid (h : Inv none s) (hm : Moves s s') (q : PageRef) : FaultsPaid q s s' := by
  apply hm.preserves .refl (fun _ _ _ => .trans) ?_ h
  intro s s' h hmove
  cases hmove with
  | fault hf => exact hf.faultsPaid h q
  | act ha => exact ha.faultsPaid q

end Paid

/-! ### Runs -/

/-- **A page faults at most twice, and twice more for each search of a full memory**, in any part of
a run, whatever the processes that map it do. -/
theorem fault_count {u : Setup} {k k' : Kernel} {ls : List Label} (h : (system u).Reachable k)
    (hr : (system u).Reaches k ls k') {new : List Event}
    (hn : k'.pager.trace = new ++ k.pager.trace) (r : PageRef) :
    new.countP (isFaultOn r) ≤ 2 * (1 + new.countP endsSearch) := by
  have hcount := ((reaches_moves h hr).faultsPaid (Sound.reachable h).inv r).count hn
  have hleft := k.pager.faultsLeft_le r
  omega

/-- The run of the small kernel, from the state that `vm_init` leaves. -/
theorem fault_count_small : ∃ k ls new, (system .small).Reaches k ls Kernel.small ∧
    Kernel.small.pager.trace = new ++ k.pager.trace ∧
    new.countP (isFaultOn 0) ≤ 2 * (1 + new.countP endsSearch) := by
  obtain ⟨ls, hrun⟩ := Kernel.small_reachable
  obtain ⟨k, hinit, hr⟩ := hrun.reaches
  have hn : Kernel.small.pager.trace = Kernel.small.pager.trace ++ k.pager.trace := by
    rw [init_pager hinit]
    exact (List.append_nil _).symm
  exact ⟨k, ls, _, hr, hn, fault_count (.init hinit) hr hn 0⟩

end VmPager
