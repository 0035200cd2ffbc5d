import RvEmulator.Core64.Csr
import RvEmulator.Mmu.Tlb

/-! Sv39 (`core64/src/mmu.cpp`). -/

namespace RvEmulator.Core64

/-! Bits of an Sv39 entry beyond those shared with Sv32. -/
namespace PteBits

def ppn : Xlen := ((1#64 <<< 44) - 1) <<< 10
def reserved : Xlen := 0x3FF#64 <<< 54

end PteBits

namespace Sv39

/-- The virtual page number's part for a level. -/
def vpn (virtualAddress : Xlen) (level : Nat) : Xlen :=
  (virtualAddress >>> (12 + 9 * level)) &&& 0x1FF

def lowerPpnMask (level : Nat) : Xlen := if level * 9 = 0 then 0 else (1#64 <<< (level * 9)) - 1

def ptePpn (pte : Xlen) : Xlen := (pte &&& PteBits.ppn) >>> 10

def physicalAddress (level : Nat) (pte virtualAddress : Xlen) : PhysAddr :=
  let mask := lowerPpnMask level
  (((ptePpn pte &&& ~~~mask) ||| ((virtualAddress >>> 12) &&& mask)) <<< 12) |||
    (virtualAddress &&& 0xFFF)

def canonicalAddress (address : Xlen) : Bool :=
  let upper := address >>> 39
  let sign := ((address >>> 38) &&& 1) != 0
  if sign then upper == (1#64 <<< 25) - 1 else upper == 0

end Sv39

open Sv39 in
def sv39 : Paging 64 where
  levels := 3
  width := .doubleWord
  satpMode := SatpBits.mode
  satpPpn := SatpBits.ppn
  asid satp := ((satp &&& SatpBits.asid) >>> 44).setWidth 16
  entryAddress virtualAddress level tableAddress := tableAddress + vpn virtualAddress level * 8
  reserved := PteBits.reserved
  nextTable pte := ptePpn pte <<< 12
  misaligned level pte := flag (ptePpn pte) (lowerPpnMask level)
  physicalAddress := physicalAddress
  leafShift level := BitVec.ofNat 8 (12 + level * 9)
  offsetMask shift := (1#64 <<< shift.toNat) - 1
  shifts := [12, 21, 30]
  canonical := canonicalAddress

def effectivePrivilege (state : CpuSnapshot) (access : MemoryAccessType) : PrivilegeMode :=
  let mstatus := sanitizeMstatus state.machineCsrs.mstatus
  if access = .instructionFetch ∨ !flag mstatus MstatusBits.mprv then state.privilege
  else
    (PrivilegeMode.ofCode? ((mstatus &&& MstatusBits.mpp) >>> MstatusBits.mppShift)).getD .user

/-- What a translation reads of the state. -/
def translationContext (state : CpuSnapshot) (access : MemoryAccessType) : TranslationContext 64 where
  satp := sanitizeSatp state.supervisorCsrs.satp
  privilege := effectivePrivilege state access
  mstatus := state.machineCsrs.mstatus

def translateAddress [CpuBus β] (state : CpuSnapshot) (virtualAddress : Xlen)
    (access : MemoryAccessType) : StateM β TranslationResult :=
  sv39.translateAddress (translationContext state access) virtualAddress access

/-- `Sv39Tlb::translate`. -/
def tlbTranslate [CpuBus β] (state : CpuSnapshot) (virtualAddress : Xlen)
    (access : MemoryAccessType) : StateM (β × Tlb 64) TranslationResult :=
  Tlb.translate sv39 (translationContext state access) virtualAddress access

end RvEmulator.Core64
