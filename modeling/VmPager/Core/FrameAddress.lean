import VmPager.Code.System

/-!
# The addresses of a frame

A byte of a frame is reached in three ways: by the MMU through the `ppage` of an entry, by the disk
calls and `memcpy` through `ppn_to_mem_addr`, and by `get_filename` through a cursor. The last two
are products of `unsigned int`s, in which the frame is taken modulo 65536: they reach the byte of
the MMU in the frames below 65536, and in no other.
-/

namespace VmPager

open Lib.Exec Lib.Frames

/-- The address that the MMU reaches through an entry. -/
def mmuAddr (e : Pte) (offset : ℕ) : ℕ := e.ppage * vmPagesize + offset

/-- The address at which `get_filename` starts to read a page in the frame `ppn`. -/
def cursorStart (ppn offset : ℕ) : ℕ := (vmPagesize * ppn + offset) % 2 ^ 32

theorem loadByte_mmuAddr (vpn : ℕ) (offset : Fin vmPagesize) (s : State) :
    loadByte vpn offset s = .ok (s.physmem (mmuAddr (s.currentPte vpn) offset), s) := rfl

theorem storeByte_mmuAddr (vpn : ℕ) (offset : Fin vmPagesize) (byte : UInt8) (s : State) :
    storeByte vpn offset byte s = .ok ((), { s with
      physmem := Function.update s.physmem (mmuAddr (s.currentPte vpn) offset) byte }) := rfl

/-! ### The products -/

/-- The frame number is taken modulo 65536. -/
lemma ppnToMemAddr_mod (p : ℕ) : ppnToMemAddr p = p % 65536 * vmPagesize := by
  have hv : vmPagesize = 65536 := rfl
  rw [ppnToMemAddr, hv]
  omega

lemma cursorStart_mod (p : ℕ) {offset : ℕ} (ho : offset < vmPagesize) :
    cursorStart p offset = p % 65536 * vmPagesize + offset := by
  have hv : vmPagesize = 65536 := rfl
  rw [hv] at ho
  rw [cursorStart, hv]
  omega

/-- Below 65536 the products do not wrap. -/
lemma ppnToMemAddr_eq {p : ℕ} (h : p < 65536) : ppnToMemAddr p = p * vmPagesize := by
  rw [ppnToMemAddr_mod, Nat.mod_eq_of_lt h]

lemma cursorStart_eq {p offset : ℕ} (h : p < 65536) (ho : offset < vmPagesize) :
    cursorStart p offset = p * vmPagesize + offset := by
  rw [cursorStart_mod p ho, Nat.mod_eq_of_lt h]

/-- The sum in `last_addr_in_ppn` wraps in the frame 65535, and the difference wraps back. -/
lemma lastAddrInPpn_eq {p : ℕ} (h : p < 65536) :
    lastAddrInPpn p + 1 = p * vmPagesize + vmPagesize := by
  have hv : vmPagesize = 65536 := rfl
  rw [lastAddrInPpn, hv]
  omega

lemma mmuAddr_mkPte {p : ℕ} (h : p < 2 ^ 20) (read write : Bool) (offset : ℕ) :
    mmuAddr (mkPte p read write) offset = p * vmPagesize + offset := by
  rw [mmuAddr, mkPte, Nat.mod_eq_of_lt h]

/-! ### Writes to a frame -/

lemma frame_store_ne {s s' : State} {p : ℕ} {page : Page}
    (h : s'.physmem = store s.physmem (p * vmPagesize) page) {q : ℕ} (hq : q ≠ p) :
    s'.frame q = s.frame q := by
  unfold State.frame
  rw [h, load_store_ne _ _ hq.symm]

lemma frame_store_self {s s' : State} {p : ℕ} {page : Page}
    (h : s'.physmem = store s.physmem (p * vmPagesize) page) : s'.frame p = page := by
  unfold State.frame
  rw [h, load_store]

/-- `file_read` writes a page to its buffer, whatever its outcome. -/
lemma fileRead_physmem {filename : Option Name} {block buf : ℕ} {s s' : State} {res : ℤ}
    (h : fileRead filename block buf s = .ok (res, s')) :
    ∃ page : Page, s'.physmem = store s.physmem buf page := by
  simp only [fileRead, bind_apply, get_apply, ok_bind] at h
  cases hread : s.reads.head with
  | success =>
    rw [hread] at h
    cases h
    exact ⟨_, rfl⟩
  | failure left =>
    rw [hread] at h
    cases h
    exact ⟨left, rfl⟩

lemma memcpyPage_physmem {dst src : ℕ} {s s' : State} (h : memcpyPage dst src s = .ok ((), s')) :
    s'.physmem = store s.physmem dst (load s.physmem src : Page) := by
  cases h
  rfl

/-! ### Agreement -/

/-- All who use the frame `p` reach the same bytes of it, those of the MMU. -/
structure FrameAddressed (p : ℕ) : Prop where
  mmu : ∀ read write, ∀ offset < vmPagesize,
    mmuAddr (mkPte p read write) offset = p * vmPagesize + offset
  disk : ∀ offset < vmPagesize, ppnToMemAddr p + offset = p * vmPagesize + offset
  cursor : ∀ offset < vmPagesize, cursorStart p offset = p * vmPagesize + offset
  /-- Reading a block into the frame changes no other frame. -/
  read : ∀ {filename block s res s'}, fileRead filename block (ppnToMemAddr p) s = .ok (res, s') →
    ∀ q ≠ p, s'.frame q = s.frame q
  /-- Nor does filling it with zeroes. -/
  copy : ∀ {s s'}, memcpyPage (ppnToMemAddr p) 0 s = .ok ((), s') →
    ∀ q ≠ p, s'.frame q = s.frame q

/-- The frames below 65536 are addressed alike. -/
theorem frameAddressed_of_lt {p : ℕ} (hp : p < 65536) : FrameAddressed p where
  mmu read write offset _ := mmuAddr_mkPte (by omega) read write offset
  disk offset _ := by rw [ppnToMemAddr_eq hp]
  cursor offset ho := cursorStart_eq hp ho
  read h q hq := by
    obtain ⟨page, hmem⟩ := fileRead_physmem h
    rw [ppnToMemAddr_eq hp] at hmem
    exact frame_store_ne hmem hq
  copy h q hq := by
    have hmem := memcpyPage_physmem h
    rw [ppnToMemAddr_eq hp] at hmem
    exact frame_store_ne hmem hq

/-- A frame that the product does not move is below 65536. -/
theorem FrameAddressed.lt {p : ℕ} (h : FrameAddressed p) : p < 65536 := by
  have hdisk := h.disk 0 vmPagesize_pos
  rw [Nat.add_zero, Nat.add_zero, ppnToMemAddr_mod] at hdisk
  have hp : p % 65536 = p := Nat.eq_of_mul_eq_mul_right vmPagesize_pos hdisk
  omega

/-- **Which frames are addressed alike**, and so in which memories all are. -/
theorem frame_addressed_iff (memoryPages : ℕ) : (∀ p, FrameAddressed p ↔ p < 65536) ∧
    ((∀ p < memoryPages, FrameAddressed p) ↔ memoryPages ≤ 65536) := by
  constructor
  · intro p
    exact ⟨FrameAddressed.lt, frameAddressed_of_lt⟩
  · constructor
    · intro h
      by_contra hm
      have hlt := (h 65536 (by omega)).lt
      omega
    · intro hm p hp
      apply frameAddressed_of_lt
      omega

/-- A machine whose blocks have no NUL. -/
def State.ones : State := { Setup.small.globals with disk := fun _ _ _ => 1 }

/-- The frame 65536 is taken for the zero frame: a block read into it goes there. -/
theorem frame_wraps : ppnToMemAddr 65536 = 0 ∧ cursorStart 65536 0 = 0 ∧
    mmuAddr (mkPte 65536 true true) 0 = 2 ^ 32 ∧
    (∃ s', fileRead none 0 (ppnToMemAddr 65536) State.ones = .ok (0, s') ∧
      s'.frame 0 ≠ State.ones.frame 0) ∧
    ¬ ∀ p < 65537, FrameAddressed p := by
  refine ⟨rfl, rfl, rfl, ⟨_, rfl, fun heq => ?_⟩, fun h => ?_⟩
  · have hbyte := congrFun heq ⟨0, vmPagesize_pos⟩
    revert hbyte
    decide +kernel
  · have hdisk := (h 65536 (by norm_num)).disk 0 vmPagesize_pos
    revert hdisk
    decide

end VmPager
