import VmPager.Core.Step

/-!
# The name at an address

`get_filename` returns the bytes from its address up to the first NUL of the arena, as the pages of
the arena had them when it was called, unless a page cannot be brought in or there is no NUL. `vm_map`
with a name succeeds when `get_filename` does, and maps the page of the file table for that name.
-/

namespace VmPager

open Lib.Exec Lib.Transition

/-! ### The bytes at an address -/

/-- The bytes of the valid pages of the current process, one page after the other. -/
def State.validBytes (s : State) : List UInt8 :=
  (s.arenas s.pageTableBaseRegister).flatMap fun r => List.ofFn (s.content r)

/-- The bytes of the valid pages from an address on. -/
def State.bytesAt (s : State) (va : BitVec 64) : List UInt8 :=
  s.validBytes.drop (va.toNat - vmArenaBaseaddr.toNat)

/-- From `s` to `s'` a call of `file_read` or `file_write` has failed. -/
def State.DiskFailed (s s' : State) : Prop :=
  ∃ new, s'.trace = new ++ s.trace ∧ ∃ e ∈ new, e.failed = true

/-- The result of `get_filename`. -/
structure NameAt (s : State) (va : BitVec 64) (res : Option Name) (s' : State) : Prop where
  /-- The bytes up to the first NUL. -/
  found : 0 ∈ s.bytesAt va → ¬ s.DiskFailed s' → res = some (cString (s.bytesAt va))
  /-- The address is past the valid pages, there is no NUL, or a page cannot be brought in. -/
  refused : vmArenaBaseaddr.toNat + s.arenaSize * vmPagesize ≤ va.toNat ∨ 0 ∉ s.bytesAt va ∨
    s.DiskFailed s' → res = none

/-- The result of `vm_map` for an address at which `get_filename` reads `res`. -/
structure MapsName (s : State) (block : ℕ) (res : Option Name) (va : BitVec 64) (s' : State) :
    Prop where
  refused : res = none → va = nullptr
  mapped : ∀ {n}, res = some n → va ≠ nullptr ∧ va = vpnToVa s.arenaSize ∧
    ∃ r, s'.fileTable n block = some r ∧
      s'.arenas s.pageTableBaseRegister = s.arenas s.pageTableBaseRegister ++ [r] ∧
      (s'.pages r).filename = some n ∧ (s'.pages r).fileBlock = block

/-- Pieces of one length, from the middle of one of them on. -/
lemma drop_mul_flatMap {α β : Type} {f : α → List β} {n : ℕ} (hf : ∀ a, (f a).length = n) (j : ℕ) :
    ∀ (i : ℕ) (l : List α), (l.flatMap f).drop (i * n + j) = ((l.drop i).flatMap f).drop j := by
  intro i
  induction i with
  | zero =>
    intro l
    rw [Nat.zero_mul, Nat.zero_add, List.drop_zero]
  | succ i ih =>
    intro l
    cases l with
    | nil => simp
    | cons a l =>
      have hlen : (i + 1) * n + j = (f a).length + (i * n + j) := by rw [hf]; ring
      rw [List.flatMap_cons, hlen, List.drop_length_add_append, ih, List.drop_succ_cons]

/-- The bytes at an address are those of its page, from its offset on, and of the pages after. -/
lemma bytesAt_eq_arenaBytes (s : State) {va : BitVec 64} (hle : vmArenaBaseaddr.toNat ≤ va.toNat)
    (hlt : va.toNat < vmArenaBaseaddr.toNat + 2 ^ 48) :
    s.bytesAt va = s.arenaBytes (vaToVpn va) (va.toNat % vmPagesize) := by
  have hb : vmArenaBaseaddr.toNat = 25769803776 := by decide
  have hv : vmPagesize = 65536 := rfl
  have hsplit : va.toNat - vmArenaBaseaddr.toNat =
      vaToVpn va * vmPagesize + va.toNat % vmPagesize := by
    rw [vaToVpn_of_near hle hlt, hb, hv]
    omega
  rw [State.bytesAt, State.validBytes, hsplit, drop_mul_flatMap fun r => List.length_ofFn]
  rfl

/-- Past the valid pages there are no bytes. -/
lemma bytesAt_of_past (s : State) {va : BitVec 64}
    (hpast : vmArenaBaseaddr.toNat + s.arenaSize * vmPagesize ≤ va.toNat) : s.bytesAt va = [] := by
  have hlen : s.validBytes.length = s.arenaSize * vmPagesize := by
    simp [State.validBytes, State.arenaSize, List.length_flatMap]
  rw [State.bytesAt, List.drop_eq_nil_of_le]
  omega

/-! ### Reading the name -/

/-- What has happened decides whether a disk call failed. -/
lemma Happened.diskFailed {s s' : State} {failed : Prop} (h : Happened s s' failed) :
    s.DiskFailed s' ↔ failed := by
  obtain ⟨new, ht, hf⟩ := h
  rw [hf]
  constructor
  · rintro ⟨new', ht', he⟩
    rw [ht, List.append_cancel_right_eq] at ht'
    rw [ht']
    exact he
  · exact fun he => ⟨new, ht, he⟩

section Read

variable {s : State} (h : Inv none s) {va : BitVec 64} (hle : vmArenaBaseaddr.toNat ≤ va.toNat)
  (hlt : va.toNat < vmArenaBaseaddr.toNat + 2 ^ 48)
include h hle hlt

/-- **`get_filename` returns**, with the name at the address. -/
theorem getFilename_nameAt : Returns (getFilename va) s (NameAt s va) := by
  refine (getFilename_spec h va).mono fun res s' hr => ?_
  rcases hr with ⟨hslt, -⟩ | ⟨-, hname⟩
  · rw [not_slt_of_near hle hlt] at hslt
    cases hslt
  · obtain ⟨failed, hhap, hsome, hnone⟩ := hname.happened
    rw [← bytesAt_eq_arenaBytes s hle hlt] at hsome hnone
    refine ⟨fun hnul hok => ?_, fun hno => ?_⟩
    · rw [hhap.diskFailed] at hok
      cases res with
      | none => exact absurd hnul ((hnone rfl).resolve_left hok)
      | some n =>
        obtain ⟨-, -, hn⟩ := hsome n rfl
        rw [hn, List.nil_append]
    · rw [hhap.diskFailed] at hno
      cases res with
      | none => rfl
      | some n =>
        obtain ⟨hok, hnul, -⟩ := hsome n rfl
        rcases hno with hpast | hno | hfail
        · rw [bytesAt_of_past s hpast] at hnul
          cases hnul
        · exact absurd hnul hno
        · exact absurd hfail hok

/-- **`vm_map` maps the name** that `get_filename` reads. -/
theorem vmMap_mapsName (hlive : s.Running) (hroom : s.arenaSize < numPtes) (block : ℕ)
    {res : Option Name} {t : State} (hread : getFilename va s = .ok (res, t)) :
    Returns (vmMap va block) s (MapsName s block res) := by
  refine (vmMap_spec h hlive va block).mono fun va' s' hm => ?_
  have hva : va ≠ nullptr := by
    rintro rfl
    exact absurd hle (by decide)
  have hinv := h.map hlive hm
  have hmaps : ∀ {n}, res = some n → va' ≠ nullptr → MapsName s block res va' s' := by
    intro n hres hne
    obtain ⟨n', t', r, hread', -, hev, g, hf⟩ := hm.file h hva hne
    rw [hread, hres] at hread'
    cases hread'
    obtain ⟨-, hn, hb⟩ := hinv.layout.file_entry hf
    refine ⟨fun h0 => absurd (h0.symm.trans hres) (by simp), fun {m} hm' => ?_⟩
    rw [hm'] at hres
    cases hres
    rcases hm.steps h with ⟨h0, -⟩ | ⟨-, hnext, -⟩
    · exact absurd h0 hne
    · refine ⟨hne, hnext, r, hf, ?_, hn, hb⟩
      rw [g.arenas, hev.layout.ptbr, Function.update_self, hev.layout.arenas]
  cases hm with
  | full hfull => exact absurd hroom (Nat.not_lt.2 hfull)
  | noBlock _ hname => exact absurd hname hva
  | swap _ hname => exact absurd hname hva
  | noName _ _ hread' =>
    rw [hread] at hread'
    cases hread'
    exact ⟨fun _ => rfl, fun hn => by cases hn⟩
  | known hlen _ hread' =>
    rw [hread] at hread'
    cases hread'
    exact hmaps rfl (nextVa_ne_nullptr hlen)
  | new hlen _ hread' =>
    rw [hread] at hread'
    cases hread'
    exact hmaps rfl (nextVa_ne_nullptr hlen)

end Read

/-- **The name at an address is read, or it is refused**, and a page is mapped with it. -/
theorem name_read {u : Setup} {k : Kernel} (h : (system u).Reachable k) {va : BitVec 64}
    (hle : vmArenaBaseaddr.toNat ≤ va.toNat) (hlt : va.toNat < vmArenaBaseaddr.toNat + 2 ^ 48) :
    ∃ res s', getFilename va k.pager = .ok (res, s') ∧ NameAt k.pager va res s' ∧
      (k.current.isSome → k.pager.arenaSize < numPtes → ∀ block,
        Returns (vmMap va block) k.pager (MapsName k.pager block res)) := by
  have hsound := Sound.reachable h
  obtain ⟨res, s', hread, hname⟩ := getFilename_nameAt hsound.inv hle hlt
  exact ⟨res, s', hread, hname, fun hcur hroom block =>
    vmMap_mapsName hsound.inv hle hlt (hsound.running hcur) hroom block hread⟩

/-- The name is on the page that was evicted. -/
theorem name_read_small : ∃ res s', getFilename (vpnToVa 0) Kernel.small.pager = .ok (res, s') ∧
    NameAt Kernel.small.pager (vpnToVa 0) res s' ∧ ∀ block,
      Returns (vmMap (vpnToVa 0) block) Kernel.small.pager
        (MapsName Kernel.small.pager block res) := by
  obtain ⟨res, s', hread, hname, hmap⟩ : ∃ res s',
      getFilename (vpnToVa 0) Kernel.small.pager = .ok (res, s') ∧ _ :=
    name_read Kernel.small_reachable (by decide) (by decide)
  exact ⟨res, s', hread, hname, hmap (by decide +kernel) (by decide +kernel)⟩

end VmPager
