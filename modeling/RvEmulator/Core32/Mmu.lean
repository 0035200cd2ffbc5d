import RvEmulator.Core32.Csr
import RvEmulator.Mmu.Tlb

/-! Sv32 (`core32/src/mmu.cpp`). -/

namespace RvEmulator.Core32

namespace Sv32

def vpn (virtualAddress : Xlen) (level : Nat) : Xlen :=
  if level = 0 then (virtualAddress >>> 12) &&& 0x3FF else (virtualAddress >>> 22) &&& 0x3FF

def ptePpn (pte : Xlen) : Xlen := pte >>> 10

def physicalAddress (level : Nat) (pte virtualAddress : Xlen) : PhysAddr :=
  let offset : PhysAddr := (virtualAddress &&& 0xFFF).setWidth 64
  if level = 1 then
    ((ptePpn pte &&& ~~~0x3FF).setWidth 64 <<< 12) |||
      ((vpn virtualAddress 0).setWidth 64 <<< 12) ||| offset
  else ((ptePpn pte).setWidth 64 <<< 12) ||| offset

def addressMask (shift : BitVec 8) : Xlen := if shift = 22 then 0x003FFFFF else 0xFFF

end Sv32

open Sv32 in
def sv32 : Paging 32 where
  levels := 2
  width := .word
  satpMode := SatpBits.mode
  satpPpn := SatpBits.ppn
  asid satp := ((satp &&& SatpBits.asid) >>> 22).setWidth 16
  entryAddress virtualAddress level tableAddress :=
    tableAddress + (vpn virtualAddress level).setWidth 64 * 4
  reserved := 0
  nextTable pte := (ptePpn pte).setWidth 64 <<< 12
  misaligned level pte := level == 1 && flag (ptePpn pte) 0x3FF
  physicalAddress := physicalAddress
  leafShift level := if level = 1 then 22 else 12
  offsetMask := addressMask
  shifts := [12, 22]
  canonical _ := true

def effectivePrivilege (state : CpuSnapshot) (access : MemoryAccessType) : PrivilegeMode :=
  let mstatus := sanitizeMstatus state.machineCsrs.mstatus
  if access = .instructionFetch ∨ !flag mstatus MstatusBits.mprv then state.privilege
  else
    (PrivilegeMode.ofCode? ((mstatus &&& MstatusBits.mpp) >>> MstatusBits.mppShift)).getD .user

/-- What a translation reads of the state. -/
def translationContext (state : CpuSnapshot) (access : MemoryAccessType) : TranslationContext 32 where
  satp := sanitizeSatp state.supervisorCsrs.satp
  privilege := effectivePrivilege state access
  mstatus := state.machineCsrs.mstatus

def translateAddress [CpuBus β] (state : CpuSnapshot) (virtualAddress : Xlen)
    (access : MemoryAccessType) : StateM β TranslationResult :=
  sv32.translateAddress (translationContext state access) virtualAddress access

/-- `Sv32Tlb::translate`. -/
def tlbTranslate [CpuBus β] (state : CpuSnapshot) (virtualAddress : Xlen)
    (access : MemoryAccessType) : StateM (β × Tlb 32) TranslationResult :=
  Tlb.translate sv32 (translationContext state access) virtualAddress access

end RvEmulator.Core32
