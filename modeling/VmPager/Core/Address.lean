import VmPager.Code.System

/-!
# Addresses

`va_to_vpn` subtracts, shifts and narrows. On an address at most `2 ^ 48` bytes past the base of the
arena it is the number of the page, and `vpnToVa` is its inverse; every other address at or above
the base is taken for the one the narrowing leaves.
-/

namespace VmPager

/-- At or above the base, the shift and the narrowing leave the bits from 16 to 47 of the distance. -/
theorem vaToVpn_of_le {va : BitVec 64} (hle : vmArenaBaseaddr.toNat ≤ va.toNat) :
    vaToVpn va = (va.toNat - vmArenaBaseaddr.toNat) % 2 ^ 48 / vmPagesize := by
  have hv : vmPagesize = 2 ^ 16 := rfl
  have hsub : (va - vmArenaBaseaddr).toNat = va.toNat - vmArenaBaseaddr.toNat :=
    BitVec.toNat_sub_of_le (BitVec.le_def.2 hle)
  -- the sign goes into bits that the narrowing drops
  have hbits : ((va - vmArenaBaseaddr).sshiftRight 16).setWidth 32 =
      (va - vmArenaBaseaddr).extractLsb' 16 32 := by
    apply BitVec.eq_of_getLsbD_eq
    intro i hi
    have h1 : ¬ 64 ≤ i := by omega
    have h2 : 16 + i < 64 := by omega
    simp [BitVec.getLsbD_sshiftRight, hi, h1, h2]
  rw [vaToVpn, hbits, BitVec.extractLsb'_toNat, hsub, Nat.shiftRight_eq_div_pow, hv]
  omega

/-- Near the base they are a division. -/
theorem vaToVpn_of_near {va : BitVec 64} (hle : vmArenaBaseaddr.toNat ≤ va.toNat)
    (hlt : va.toNat < vmArenaBaseaddr.toNat + 2 ^ 48) :
    vaToVpn va = (va.toNat - vmArenaBaseaddr.toNat) / vmPagesize := by
  rw [vaToVpn_of_le hle, Nat.mod_eq_of_lt]
  omega

theorem vaToVpn_of_inArena {va : BitVec 64} (h : InArena va) : vaToVpn va = arenaVpn va := by
  have hs : vmArenaSize = 16777216 := rfl
  obtain ⟨hle, hlt⟩ := h
  refine vaToVpn_of_near hle (lt_of_lt_of_le hlt (Nat.add_le_add_left ?_ _))
  rw [hs]
  norm_num

/-- The page of an address of the arena has an entry. -/
lemma arenaVpn_lt {va : BitVec 64} (h : InArena va) : arenaVpn va < numPtes := by
  have hs : vmArenaSize = numPtes * vmPagesize := rfl
  obtain ⟨hle, hlt⟩ := h
  apply Nat.div_lt_of_lt_mul
  rw [hs, Nat.mul_comm] at hlt
  omega

lemma not_lt_of_inArena {va : BitVec 64} (h : InArena va) : ¬ va < vmArenaBaseaddr := by
  rw [BitVec.lt_def]
  exact Nat.not_lt.2 h.1

/-- The signed comparison of `get_filename` is the unsigned one of `vm_fault`, or stricter. -/
lemma not_lt_of_not_slt {va : BitVec 64} (h : va.slt vmArenaBaseaddr = false) :
    ¬ va < vmArenaBaseaddr := by
  have hb : vmArenaBaseaddr.toNat = 25769803776 := by decide
  have hbi : vmArenaBaseaddr.toInt = 25769803776 := by decide
  rw [BitVec.slt_eq_decide, decide_eq_false_iff_not, hbi, BitVec.toInt_eq_toNat_cond] at h
  rw [BitVec.lt_def, hb]
  split at h <;> omega

/-- Near the base the signed comparison does not refuse an address. -/
lemma not_slt_of_near {va : BitVec 64} (hle : vmArenaBaseaddr.toNat ≤ va.toNat)
    (hlt : va.toNat < vmArenaBaseaddr.toNat + 2 ^ 48) : va.slt vmArenaBaseaddr = false := by
  have hb : vmArenaBaseaddr.toNat = 25769803776 := by decide
  have hbi : vmArenaBaseaddr.toInt = 25769803776 := by decide
  rw [hb] at hle hlt
  rw [BitVec.slt_eq_decide, decide_eq_false_iff_not, hbi, BitVec.toInt_eq_toNat_cond]
  split <;> omega

/-- Below the base both comparisons refuse an address. -/
lemma slt_of_lt {va : BitVec 64} (h : va < vmArenaBaseaddr) : va.slt vmArenaBaseaddr = true := by
  have hb : vmArenaBaseaddr.toNat = 25769803776 := by decide
  have hbi : vmArenaBaseaddr.toInt = 25769803776 := by decide
  rw [BitVec.lt_def, hb] at h
  rw [BitVec.slt_eq_decide, decide_eq_true_eq, hbi, BitVec.toInt_eq_toNat_cond]
  split <;> omega

lemma vpnToVa_toNat {vpn : ℕ} (h : vpn < 2 ^ 32) :
    (vpnToVa vpn).toNat = vmArenaBaseaddr.toNat + vpn * vmPagesize := by
  have hb : vmArenaBaseaddr.toNat = 25769803776 := by decide
  have hv : vmPagesize = 65536 := rfl
  rw [vpnToVa, BitVec.toNat_add, BitVec.toNat_ofNat, hb, hv]
  omega

/-- The first address of a page is an address of the page. -/
theorem vaToVpn_vpnToVa {vpn : ℕ} (h : vpn < 2 ^ 32) : vaToVpn (vpnToVa vpn) = vpn := by
  have hn := vpnToVa_toNat h
  have hv : vmPagesize = 65536 := rfl
  rw [vaToVpn_of_near (by omega) (by rw [hn, hv]; omega), hn, Nat.add_sub_cancel_left,
    Nat.mul_div_cancel _ (by rw [hv]; norm_num)]

lemma not_vpnToVa_lt {vpn : ℕ} (h : vpn < 2 ^ 32) : ¬ vpnToVa vpn < vmArenaBaseaddr := by
  rw [BitVec.lt_def, vpnToVa_toNat h]
  omega

/-- It lies in the arena, when the page has an entry. -/
lemma inArena_vpnToVa {vpn : ℕ} (h : vpn < numPtes) :
    InArena (vpnToVa vpn) ∧ arenaVpn (vpnToVa vpn) = vpn := by
  have hs : vmArenaSize = numPtes * vmPagesize := rfl
  have hn : numPtes = 256 := rfl
  have hv : vmPagesize = 65536 := rfl
  have hva := vpnToVa_toNat (show vpn < 2 ^ 32 by omega)
  have harena : InArena (vpnToVa vpn) := by
    constructor
    · omega
    · rw [hva, hs, hn, hv]
      omega
  exact ⟨harena, by rw [← vaToVpn_of_inArena harena, vaToVpn_vpnToVa (by omega)]⟩

/-- No page is at the null address. -/
lemma vpnToVa_ne_nullptr {vpn : ℕ} (h : vpn < 2 ^ 32) : vpnToVa vpn ≠ nullptr := by
  have hb : vmArenaBaseaddr.toNat = 25769803776 := by decide
  intro he
  have hn := vpnToVa_toNat h
  rw [he, hb] at hn
  simp only [nullptr, BitVec.toNat_ofNat, Nat.zero_mod] at hn
  omega

end VmPager
