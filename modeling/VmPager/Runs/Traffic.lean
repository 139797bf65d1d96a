import VmPager.Core.Moves
import VmPager.Lib.Amortised

/-!
# What moves between memory and disk

The traffic of a run is bounded by its faults: a page is brought in only for a fault that is resolved,
evicted only to bring another one in, and written only to be evicted. And there is none of the last
two while all pages in use fit into memory.
-/

namespace VmPager

open Lib.Amortised Lib.SecondChance Lib.Transition

/-! ### The kinds of events -/

/-- A page was brought into a frame: from its block, or as a page of zeroes. -/
def isFill : Event → Bool
  | .fileRead _ _ _ ok => ok
  | .memcpy _ _ => true
  | _ => false

def isFaulted : Event → Bool
  | .faulted _ _ => true
  | _ => false

def isEviction : Event → Bool
  | .evicted _ => true
  | _ => false

/-- The block of a page was written. -/
def isWriteBack : Event → Bool
  | .fileWrite _ _ _ ok => ok
  | _ => false

/-- An eviction, or an attempt to write a block. -/
def isPressure : Event → Bool
  | .evicted _ => true
  | .fileWrite _ _ _ _ => true
  | _ => false

/-! ### The accounts -/

/-- A page is brought in only for a fault that is resolved. -/
abbrev FillsPaid : State → State → Prop := Paid State.trace (fun _ => 0) isFill isFaulted 1

/-- An eviction is paid for by a page that is brought in, or by a frame that was in use. -/
abbrev EvictionsPaid : State → State → Prop :=
  Paid State.trace (fun s => s.activePages.length) isEviction isFill 1

/-- A block is written only to evict its page. -/
abbrev WritesPaid : State → State → Prop := Paid State.trace (fun _ => 0) isWriteBack isEviction 1

section Paid

variable {s s' t : State} {p : ℕ}

/-- A search for a frame brings no page in and resolves no fault. -/
lemma Reclaim.fillsPaid (hr : Reclaim s p t) : FillsPaid s t := by
  cases hr with
  | free => exact .silent rfl le_rfl
  | clean => exact .event (by rw [State.dropPage_trace, swept_trace]) le_rfl
  | written => exact ⟨_, written_trace .., le_rfl⟩
  | stuck => exact .event (stuck_trace ..) le_rfl

lemma Reclaim.writesPaid (hr : Reclaim s p t) : WritesPaid s t := by
  cases hr with
  | free => exact .silent rfl le_rfl
  | clean => exact .event (by rw [State.dropPage_trace, swept_trace]) (Nat.zero_le _)
  | written => exact ⟨_, written_trace .., le_rfl⟩
  | stuck => exact .event (stuck_trace ..) le_rfl

/-- A search for a frame may owe for the one it finds. -/
lemma Reclaim.evictions (hr : Reclaim s p t) : ∃ new, t.trace = new ++ s.trace ∧
    new.countP isEviction + t.activePages.length ≤ s.activePages.length + 1 ∧
    new.countP isFill = 0 := by
  cases hr with
  | free => exact ⟨[], rfl, by simp, rfl⟩
  | @clean v passed rest r hs =>
    have hlen := hs.rotated.perm.length_eq
    refine ⟨[.evicted r], by rw [State.dropPage_trace, swept_trace]; rfl, ?_, rfl⟩
    show 1 + (rest ++ [p]).length ≤ _
    omega
  | @written v passed rest r hs =>
    have hlen := hs.rotated.perm.length_eq
    refine ⟨_, written_trace .., ?_, rfl⟩
    show 1 + (rest ++ [p]).length ≤ _
    omega
  | @stuck v passed rest r hs =>
    have hlen := hs.rotated.perm.length_eq
    refine ⟨[_], stuck_trace .., ?_, rfl⟩
    show 0 + (rest ++ [v]).length ≤ _
    omega

lemma Reclaim.evictionsPaid (h : Inv none s) (hr : Reclaim s 0 t) : EvictionsPaid s t := by
  obtain ⟨v, passed, rest, r, hs, -, -, rfl⟩ := hr.of_zero h
  refine .event (stuck_trace ..) ?_
  have hlen := hs.rotated.perm.length_eq
  show 0 + (rest ++ [v]).length ≤ 1 * 0 + _
  omega

/-! ### Faults and acts -/

lemma PageFault.fillsPaid (hf : PageFault s s') : FillsPaid s s' := by
  obtain @⟨vpn, r, w, res, _, -, -, hend, -, -⟩ := hf
  cases hend with
  | touched => exact .event rfl (Nat.zero_le _)
  | noFrame _ hrec => exact hrec.fillsPaid
  | zeroed _ _ hrec => exact hrec.fillsPaid.trans ⟨[.faulted r w, .memcpy _ _], rfl, le_rfl⟩
  | loaded _ _ hrec => exact hrec.fillsPaid.trans ⟨[.faulted r w, .fileRead _ _ _ true], rfl, le_rfl⟩
  | unread _ _ hrec => exact hrec.fillsPaid.trans (.event rfl le_rfl)

lemma PageFault.writesPaid (hf : PageFault s s') : WritesPaid s s' := by
  obtain @⟨vpn, r, w, res, _, -, -, hend, -, -⟩ := hf
  cases hend with
  | touched => exact .event rfl le_rfl
  | noFrame _ hrec => exact hrec.writesPaid
  | zeroed _ _ hrec => exact hrec.writesPaid.trans ⟨[.faulted r w, .memcpy _ _], rfl, le_rfl⟩
  | loaded _ _ hrec =>
    exact hrec.writesPaid.trans ⟨[.faulted r w, .fileRead _ _ _ true], rfl, le_rfl⟩
  | unread _ _ hrec => exact hrec.writesPaid.trans (.event rfl le_rfl)

/-- A page that is brought in pays for the frame that was found. -/
lemma Reclaim.evictionsPaid_fill (hr : Reclaim s p t) {r : PageRef} {w : Bool} {e : Event}
    (he : isFill e = true ∧ isEviction e = false) (ht : s'.trace = .faulted r w :: e :: t.trace)
    (ha : s'.activePages = t.activePages) : EvictionsPaid s s' := by
  obtain ⟨new, hn, hle, -⟩ := hr.evictions
  refine ⟨.faulted r w :: e :: new, by rw [ht, hn]; rfl, ?_⟩
  have hfault : isEviction (.faulted r w) = false ∧ isFill (.faulted r w) = false := ⟨rfl, rfl⟩
  simp only [List.countP_cons, he, hfault, ha, Bool.false_eq_true, if_false, if_true]
  omega

lemma PageFault.evictionsPaid (h : Inv none s) (hf : PageFault s s') : EvictionsPaid s s' := by
  obtain @⟨vpn, r, w, res, _, -, -, hend, -, -⟩ := hf
  cases hend with
  | touched => exact .event rfl le_rfl
  | noFrame _ hrec => exact hrec.evictionsPaid h
  | zeroed _ _ hrec => exact hrec.evictionsPaid_fill ⟨rfl, rfl⟩ rfl rfl
  | loaded _ _ hrec => exact hrec.evictionsPaid_fill ⟨rfl, rfl⟩ rfl rfl
  | @unread p t left _ hp hrec =>
    obtain ⟨new, hn, hle, -⟩ := hrec.evictions
    -- the frame that was found is given back
    have hmem : p ∈ t.activePages := by
      rcases (hrec.room h).2 with ⟨h0, -⟩ | ⟨-, h1⟩
      · exact absurd h0 hp
      · exact h1.frames.hole_active rfl
    have hlen := List.length_erase_of_mem hmem
    have hpos := List.length_pos_of_mem hmem
    let bk := (s.pages r).backing
    refine ⟨.fileRead bk.1 bk.2 (p * vmPagesize) false :: new, ?_, ?_⟩
    · rw [State.readFailed_trace, hn, List.cons_append]
    · simp only [List.countP_cons, isEviction, isFill, State.readFailed_activePages, hlen,
        Bool.false_eq_true, if_false]
      omega

lemma Act.paid (ha : Act s s') : FillsPaid s s' ∧ EvictionsPaid s s' ∧ WritesPaid s s' := by
  have hact := ha.activePages.2.length_le
  rcases ha.trace with ht | ⟨r, n, b, ht⟩
  · exact ⟨.silent ht le_rfl, .silent ht hact, .silent ht le_rfl⟩
  · exact ⟨.event ht le_rfl, .event ht (by simpa [isEviction, isFill] using hact), .event ht le_rfl⟩

/-- The three accounts, over moves one after the other. -/
lemma Moves.paid (h : Inv none s) (hm : Moves s s') :
    FillsPaid s s' ∧ EvictionsPaid s s' ∧ WritesPaid s s' := by
  apply hm.preserves (R := fun s s' => FillsPaid s s' ∧ EvictionsPaid s s' ∧ WritesPaid s s')
  · exact fun s => ⟨.refl s, .refl s, .refl s⟩
  · rintro a b c ⟨h1, h2, h3⟩ ⟨h1', h2', h3'⟩
    exact ⟨h1.trans h1', h2.trans h2', h3.trans h3'⟩
  · intro s s' h hmove
    cases hmove with
    | fault hf => exact ⟨hf.fillsPaid, hf.evictionsPaid h, hf.writesPaid⟩
    | act ha => exact ha.paid
  · exact h

end Paid

/-! ### Pressure -/

/-- As many pages are in use as memory has frames, the zero frame counted. -/
def State.Pressed (s : State) : Prop :=
  ∃ pages : List PageRef, pages.Nodup ∧ (∀ r ∈ pages, s.Held r) ∧ pages.length = s.maxSize

/-- From `s` to `s'` the history grows, by evictions and writes only when `s` is pressed. -/
def Relieves (s s' : State) : Prop :=
  ∃ new, s'.trace = new ++ s.trace ∧ ((∃ e ∈ new, isPressure e = true) → s.Pressed)

section Pressure

variable {s s' t : State} {p : ℕ}

lemma Relieves.trans (hev : Evolves s s') (h : Relieves s s') (h' : Relieves s' t) :
    Relieves s t := by
  obtain ⟨new, hn, hp⟩ := h
  obtain ⟨new', hn', hp'⟩ := h'
  refine ⟨new' ++ new, by rw [hn', hn, List.append_assoc], ?_⟩
  rintro ⟨e, he, hpe⟩
  rcases List.mem_append.1 he with he | he
  · obtain ⟨pages, hnd, hheld, hlen⟩ := hp' ⟨e, he, hpe⟩
    exact ⟨pages, hnd, fun r hr => (hev.layout.held r).1 (hheld r hr),
      hlen.trans hev.layout.maxSize⟩
  · exact hp ⟨e, he, hpe⟩

/-- When no frame is free, each has a page of its own. -/
lemma Inv.full_pages (h : Inv none s) (hfull : s.freePages = []) :
    ∃ pages : List PageRef, pages.Nodup ∧ (∀ r ∈ pages, s.Held r ∧ (s.pages r).Framed) ∧
      pages.length + 1 = s.maxSize := by
  have hlen : s.activePages.length + 1 = s.maxSize := by
    have hl := h.frames.queues.length_eq
    have hmin := h.frames.size_min
    rw [hfull, List.nil_append, List.length_range'] at hl
    omega
  -- the page of each frame, in the order of the queue
  have key : ∀ l : List ℕ, l.Nodup → (∀ p ∈ l, p ∈ s.activePages) → ∃ pages : List PageRef,
      pages.length = l.length ∧ pages.Nodup ∧ ∀ r ∈ pages, ∃ p ∈ l, s.owner p = some r := by
    intro l
    induction l with
    | nil => exact fun _ _ => ⟨[], rfl, List.nodup_nil, by simp⟩
    | cons p l ih =>
      intro hnd hsub
      obtain ⟨hp, hnd⟩ := List.nodup_cons.1 hnd
      obtain ⟨pages, hl, hpn, hown⟩ := ih hnd fun q hq => hsub q (List.mem_cons_of_mem _ hq)
      obtain ⟨r, hr⟩ := h.frames.active_owned (hsub p List.mem_cons_self) (by simp)
      refine ⟨r :: pages, by simp [hl], List.nodup_cons.2 ⟨fun hmem => ?_, hpn⟩, fun q hq => ?_⟩
      · obtain ⟨p', hp', hr'⟩ := hown r hmem
        rw [← h.frames.owner_ppn hr', h.frames.owner_ppn hr] at hp'
        exact hp hp'
      · rcases List.mem_cons.1 hq with rfl | hq
        · exact ⟨p, List.mem_cons_self, hr⟩
        · obtain ⟨p', hp', hr'⟩ := hown q hq
          exact ⟨p', List.mem_cons_of_mem _ hp', hr'⟩
  obtain ⟨pages, hl, hnd, hown⟩ := key s.activePages h.frames.active_nodup fun _ => id
  refine ⟨pages, hnd, fun r hr => ?_, by omega⟩
  obtain ⟨p, -, ho⟩ := hown r hr
  exact ⟨h.frames.owner_held ho, h.frames.owner_framed ho⟩

/-- A search that leaves a mark in the history found no frame free; with the page it is for, the pages
in use are one more than the frames. -/
lemma Reclaim.relieves (h : Inv none s) (hr : Reclaim s p t) {r : PageRef} (hheld : s.Held r)
    (hf : ¬ (s.pages r).Framed) : Relieves s t := by
  have hpressed : s.freePages = [] → s.Pressed := by
    intro hfull
    obtain ⟨pages, hnd, hown, hlen⟩ := h.full_pages hfull
    refine ⟨r :: pages, List.nodup_cons.2 ⟨fun hr => hf (hown r hr).2, hnd⟩, ?_, hlen⟩
    intro q hq
    rcases List.mem_cons.1 hq with rfl | hq
    · exact hheld
    · exact (hown q hq).1
  cases hr with
  | free => exact ⟨[], rfl, by simp⟩
  | clean hs => exact ⟨[_], by rw [State.dropPage_trace, swept_trace]; rfl, fun _ => hpressed hs.full⟩
  | written hs => exact ⟨_, written_trace .., fun _ => hpressed hs.full⟩
  | stuck hs => exact ⟨[_], stuck_trace .., fun _ => hpressed hs.full⟩

/-- The rest of a fault leaves no such mark. -/
lemma Relieves.append (h : Relieves s t) (es : List Event) (ht : s'.trace = es ++ t.trace)
    (hes : ∀ e ∈ es, isPressure e = false) : Relieves s s' := by
  obtain ⟨new, hn, hp⟩ := h
  refine ⟨es ++ new, by rw [ht, hn, List.append_assoc], ?_⟩
  rintro ⟨e, he, hpe⟩
  rcases List.mem_append.1 he with he | he
  · rw [hes e he] at hpe
    cases hpe
  · exact hp ⟨e, he, hpe⟩

lemma Relieves.refl (s : State) : Relieves s s := ⟨[], rfl, by simp⟩

lemma PageFault.relieves (h : Inv none s) (hf : PageFault s s') : Relieves s s' := by
  obtain @⟨vpn, r, w, res, _, hs, -, hend, -, -⟩ := hf
  have hheld : s.Held r := .inl ⟨_, _, hs⟩
  cases hend with
  | touched => exact (Relieves.refl s).append [.faulted r w] rfl (by simp [isPressure])
  | noFrame hf hrec => exact hrec.relieves h hheld hf
  | @zeroed p t hf _ hrec =>
    exact (hrec.relieves h hheld hf).append [.faulted r w, .memcpy (p * vmPagesize) 0] rfl
      (by simp [isPressure])
  | loaded hf _ hrec =>
    exact (hrec.relieves h hheld hf).append [.faulted r w, .fileRead _ _ _ true] rfl
      (by simp [isPressure])
  | unread hf _ hrec =>
    exact (hrec.relieves h hheld hf).append [.fileRead _ _ _ false] rfl
      (by simp [isPressure])

lemma Outcome.relieves (h : Inv none s) {c : Call} {ret : Ret} (ho : Outcome s c ret s') :
    Relieves s s' := by
  obtain ⟨t, hf, hlast⟩ := ho.split h
  have ht : Relieves s t := by
    apply hf.preserves Relieves.refl ?_ ?_ h
    · exact fun a b c hev _ hab hbc => hab.trans hev hbc
    · exact fun a b ha hab => hab.relieves ha
  rcases hlast with rfl | ha
  · exact ht
  · rcases ha.trace with he | ⟨r, n, b, he⟩
    · exact ht.append [] he (by simp)
    · exact ht.append [.mapped r n b] he (by simp [isPressure])

end Pressure

/-! ### Runs -/

/-- **The traffic is bounded by the faults.** In any part of a run, pages are brought in at most once
for each fault that is resolved; pages are evicted at most once for each that is brought in, or that
had a frame before; and blocks are written at most once for each eviction. -/
theorem traffic_bounded {u : Setup} {k k' : Kernel} {ls : List Label} (h : (system u).Reachable k)
    (hr : (system u).Reaches k ls k') {new : List Event}
    (hn : k'.pager.trace = new ++ k.pager.trace) :
    new.countP isFill ≤ new.countP isFaulted ∧
      new.countP isEviction + k'.pager.activePages.length ≤
        new.countP isFill + k.pager.activePages.length ∧
      new.countP isWriteBack ≤ new.countP isEviction := by
  obtain ⟨h1, h2, h3⟩ := (reaches_moves h hr).paid (Sound.reachable h).inv
  have h1 := h1.count hn
  have h2 := h2.count hn
  have h3 := h3.count hn
  omega

/-- The run of the small kernel, from the state that `vm_init` leaves. -/
theorem traffic_bounded_small : ∃ k ls new, (system .small).Reaches k ls Kernel.small ∧
    Kernel.small.pager.trace = new ++ k.pager.trace ∧ new.countP isFill ≤ new.countP isFaulted ∧
    new.countP isEviction + Kernel.small.pager.activePages.length ≤
      new.countP isFill + k.pager.activePages.length ∧
    new.countP isWriteBack ≤ new.countP isEviction := by
  obtain ⟨ls, hrun⟩ := Kernel.small_reachable
  obtain ⟨k, hinit, hr⟩ := hrun.reaches
  have hn : Kernel.small.pager.trace = Kernel.small.pager.trace ++ k.pager.trace := by
    rw [init_pager hinit]
    exact (List.append_nil _).symm
  exact ⟨k, ls, _, hr, hn, traffic_bounded (.init hinit) hr hn⟩

/-- **No eviction without pressure.** A call evicts a page, or tries to write one, only when as many
pages are in use as memory has frames, the zero frame counted. -/
theorem eviction_pressed {u : Setup} {k k' : Kernel} {l : Label} (h : (system u).Reachable k)
    (hs : (system u).step k l k') {new : List Event} (hn : k'.pager.trace = new ++ k.pager.trace)
    {e : Event} (he : e ∈ new) (hp : isPressure e = true) :
    ∃ pages : List PageRef, pages.Nodup ∧ (∀ r ∈ pages, k.pager.Held r) ∧
      pages.length = u.memoryPages := by
  have hsound := Sound.reachable h
  obtain ⟨new', hn', hpressed⟩ := (step_outcome h hs).relieves hsound.inv
  rw [hn] at hn'
  obtain rfl := List.append_cancel_right hn'
  obtain ⟨pages, hnd, hheld, hlen⟩ := hpressed ⟨e, he, hp⟩
  exact ⟨pages, hnd, hheld, hlen.trans hsound.memory⟩

/-- The page that was evicted first is loaded from again: the other one is written and evicted. -/
theorem eviction_pressed_small : ∃ pages : List PageRef, pages.Nodup ∧
    (∀ r ∈ pages, Kernel.small.pager.Held r) ∧ pages.length = Setup.small.memoryPages := by
  obtain ⟨k, ⟨ret, hs⟩, hn⟩ : ∃ k,
      (∃ ret, (system .small).step .small (.fault (vpnToVa 0) false, ret) k) ∧
      k.pager.trace = [.faulted 0 false, .fileRead none 0 65536 true, .evicted 1,
        .fileWrite none 1 65536 true] ++ Kernel.small.pager.trace :=
    ⟨Kernel.small.call _ (by decide +kernel), Kernel.call_step .., by decide +kernel⟩
  exact eviction_pressed Kernel.small_reachable hs hn (e := .evicted 1) (by simp) rfl

end VmPager
