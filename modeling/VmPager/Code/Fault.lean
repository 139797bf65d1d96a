import VmPager.Code.Clock

/-!
# `vm_fault`

The functions of `shared.cpp` that give a page a frame, and the eight branches of `vm_fault` over
the kind of the page, the bits of its entry and its residency.
-/

namespace VmPager

open Lib.Exec

/-- A frame for a page, 0 when the victim of the eviction could not be written back. -/
def evictOrGetFreePpn : PagerM ℕ := do
  if ← isFull then
    let freePpn ← evict
    if freePpn = 0 then return 0 else return freePpn
  else
    getFreePpn

/-- A frame with the block read into it, 0 when there is no frame or the read fails. -/
def diskToMem (filename : Option Name) (block : ℕ) : PagerM ℕ := do
  let freePpn ← evictOrGetFreePpn
  if freePpn = 0 then
    return 0
  else
    if (← fileRead filename block (ppnToMemAddr freePpn)) = -1 then
      makeFree freePpn
      return 0
    else
      return freePpn

def makePageDirty (vpn : ℕ) (page : PageRef) : PagerM Unit := do
  modifyPage page fun X => { X with referenced := true }
  require ((← getPage page).resident = true) .assertion
  modifyPage page fun X => { X with dirty := true }
  let X ← getPage page
  if X.type = .swapBacked then
    updatePte vpn X.ppn true true X.ownerPtbr
  else
    updatePtes page X.ppn true true

/-! ### Swap-backed pages -/

/-- Resident but unreferenced. -/
def faultSwapUnreferenced (page : PageRef) (writeFlag : Bool) : PagerM ℤ := do
  require ((← getPage page).referenced = false) .assertion
  modifyPage page fun X => { X with referenced := true }
  let X ← getPage page
  -- writable if dirty or attempting to write
  if X.dirty || writeFlag then
    updatePte X.vpn X.ppn true true X.ownerPtbr
    modifyPage page fun X => { X with dirty := true }
  else
    updatePte X.vpn X.ppn true false X.ownerPtbr
  return 0

/-- Not resident. -/
def faultSwapNonResident (vpn : ℕ) (page : PageRef) (writeFlag : Bool) : PagerM ℤ := do
  let ppn ← diskToMem none (← getPage page).swapBlock
  if ppn = 0 then
    return -1
  else
    setPhysMemPage ppn (some page)
    modifyPage page fun X => { X with ppn := ppn, referenced := true, resident := true }
    if writeFlag then
      modifyPage page fun X => { X with dirty := true }
    let X ← getPage page
    if writeFlag then updatePte vpn ppn true true X.ownerPtbr
    else updatePte vpn ppn true false X.ownerPtbr
    return 0

/-- A fresh page, whose entry still points to the frame of zeroes. -/
def faultSwapFresh (vpn : ℕ) (page : PageRef) : PagerM ℤ := do
  let freePpn ← evictOrGetFreePpn
  if freePpn = 0 then
    return -1
  else
    memcpyPage (ppnToMemAddr freePpn) 0
    setPhysMemPage freePpn (some page)
    modifyPage page fun X =>
      { X with ppn := freePpn, referenced := true, resident := true, dirty := true }
    updatePte vpn freePpn true true (← getPage page).ownerPtbr
    return 0

def faultSwapBacked (vpn : ℕ) (page : PageRef) (pte : Pte) (writeFlag : Bool) : PagerM ℤ := do
  let X ← getPage page
  if pte.readEnable = false ∧ pte.writeEnable = false then
    if X.resident then
      faultSwapUnreferenced page writeFlag
    else
      faultSwapNonResident vpn page writeFlag
  else if pte.readEnable = true ∧ pte.writeEnable = false then
    require (writeFlag = true) .assertion
    if X.ppn = 0 then
      faultSwapFresh vpn page
    else
      makePageDirty vpn page
      return 0
  else
    return 0

/-! ### File-backed pages -/

/-- Resident but unreferenced. -/
def faultFileUnreferenced (page : PageRef) (writeFlag : Bool) : PagerM ℤ := do
  require ((← getPage page).referenced = false) .assertion
  modifyPage page fun X => { X with referenced := true }
  let X ← getPage page
  if X.dirty || writeFlag then
    updatePtes page X.ppn true true
    modifyPage page fun X => { X with dirty := true }
  else
    updatePtes page X.ppn true false
  return 0

/-- Not resident. -/
def faultFileNonResident (page : PageRef) (writeFlag : Bool) : PagerM ℤ := do
  let X ← getPage page
  let ppn ← diskToMem X.filename X.fileBlock
  if ppn = 0 then
    return -1
  else
    setPhysMemPage ppn (some page)
    modifyPage page fun X => { X with ppn := ppn, referenced := true, resident := true }
    if writeFlag then
      modifyPage page fun X => { X with dirty := true }
    updatePtes page ppn true writeFlag
    return 0

/-- `file_in_file_table(page_state->filename, page_state->file_block)`. -/
def pageInFileTable (X : PageState) : PagerM Bool := do
  match X.filename with
  | none => throw .nullDeref
  | some filename => fileInFileTable filename X.fileBlock

def faultFileBacked (vpn : ℕ) (page : PageRef) (pte : Pte) (writeFlag : Bool) : PagerM ℤ := do
  let X ← getPage page
  if pte.readEnable = false ∧ pte.writeEnable = false then
    require ((← pageInFileTable X) = true) .assertion
    if X.resident then
      faultFileUnreferenced page writeFlag
    else
      faultFileNonResident page writeFlag
  else if pte.readEnable = true ∧ pte.writeEnable = false then
    makePageDirty vpn page
    return 0
  else
    return 0

/-! ### The function -/

/-- `vm_fault`: 0 when the access may be tried again, -1 when it is refused. -/
def vmFault (addr : BitVec 64) (writeFlag : Bool) : PagerM ℤ := do
  if addr < vmArenaBaseaddr then
    return -1
  else
    let vpn := vaToVpn addr
    if (← lowestInvalidVpn) ≤ vpn then
      return -1
    else
      let page ← arenaPage vpn
      let pte ← readPte (← get).pageTableBaseRegister vpn
      require (¬ (pte.readEnable = true ∧ pte.writeEnable = true)) .assertion
      require (¬ (pte.readEnable = false ∧ pte.writeEnable = true)) .assertion
      let res ← if (← getPage page).type = .swapBacked then
          faultSwapBacked vpn page pte writeFlag
        else
          faultFileBacked vpn page pte writeFlag
      if res = 0 then note (.faulted page writeFlag)
      return res

end VmPager
