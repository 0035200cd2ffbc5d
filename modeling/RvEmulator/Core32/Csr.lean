import RvEmulator.Common.Hart

/-! Control and status registers of the 32-bit core (`core32/src/csr.cpp`). -/

namespace RvEmulator.Core32

abbrev Xlen := BitVec 32

/-- The 32-bit core has no state of its own besides the shared one. -/
abbrev CpuSnapshot := Hart 32

namespace MstatusBits

export RvEmulator.MstatusBits (sie mie spie mpie spp mppShift mpp mprv sum mxr tvm tw tsr)

def supervisorView : Xlen := sie ||| spie ||| spp ||| sum ||| mxr
def implemented : Xlen :=
  supervisorView ||| mie ||| mpie ||| mpp ||| mprv ||| tvm ||| tw ||| tsr

end MstatusBits

namespace SatpBits

def mode : Xlen := 1#32 <<< 31
def asid : Xlen := 0x1FF#32 <<< 22
def ppn : Xlen := 0x003FFFFF

end SatpBits

namespace CsrAddress

@[match_pattern] abbrev sstatus : CsrAddress := 0x100#16
@[match_pattern] abbrev sie : CsrAddress := 0x104#16
@[match_pattern] abbrev stvec : CsrAddress := 0x105#16
@[match_pattern] abbrev scounteren : CsrAddress := 0x106#16
@[match_pattern] abbrev sscratch : CsrAddress := 0x140#16
@[match_pattern] abbrev sepc : CsrAddress := 0x141#16
@[match_pattern] abbrev scause : CsrAddress := 0x142#16
@[match_pattern] abbrev stval : CsrAddress := 0x143#16
@[match_pattern] abbrev sip : CsrAddress := 0x144#16
@[match_pattern] abbrev satp : CsrAddress := 0x180#16
@[match_pattern] abbrev mstatus : CsrAddress := 0x300#16
@[match_pattern] abbrev misa : CsrAddress := 0x301#16
@[match_pattern] abbrev medeleg : CsrAddress := 0x302#16
@[match_pattern] abbrev mideleg : CsrAddress := 0x303#16
@[match_pattern] abbrev mie : CsrAddress := 0x304#16
@[match_pattern] abbrev mtvec : CsrAddress := 0x305#16
@[match_pattern] abbrev mcounteren : CsrAddress := 0x306#16
@[match_pattern] abbrev mstatush : CsrAddress := 0x310#16
@[match_pattern] abbrev medelegh : CsrAddress := 0x312#16
@[match_pattern] abbrev mscratch : CsrAddress := 0x340#16
@[match_pattern] abbrev mepc : CsrAddress := 0x341#16
@[match_pattern] abbrev mcause : CsrAddress := 0x342#16
@[match_pattern] abbrev mtval : CsrAddress := 0x343#16
@[match_pattern] abbrev mip : CsrAddress := 0x344#16
@[match_pattern] abbrev mcycle : CsrAddress := 0xB00#16
@[match_pattern] abbrev minstret : CsrAddress := 0xB02#16
@[match_pattern] abbrev mcycleh : CsrAddress := 0xB80#16
@[match_pattern] abbrev minstreth : CsrAddress := 0xB82#16
@[match_pattern] abbrev cycle : CsrAddress := 0xC00#16
@[match_pattern] abbrev time : CsrAddress := 0xC01#16
@[match_pattern] abbrev instret : CsrAddress := 0xC02#16
@[match_pattern] abbrev cycleh : CsrAddress := 0xC80#16
@[match_pattern] abbrev timeh : CsrAddress := 0xC81#16
@[match_pattern] abbrev instreth : CsrAddress := 0xC82#16
@[match_pattern] abbrev mvendorid : CsrAddress := 0xF11#16
@[match_pattern] abbrev marchid : CsrAddress := 0xF12#16
@[match_pattern] abbrev mimpid : CsrAddress := 0xF13#16
@[match_pattern] abbrev mhartid : CsrAddress := 0xF14#16

end CsrAddress

def machineIsaValue : Xlen := 0x40141105

def sanitizeMstatus (value : Xlen) : Xlen :=
  let sanitized := value &&& MstatusBits.implemented
  let previousPrivilege := (sanitized &&& MstatusBits.mpp) >>> MstatusBits.mppShift
  if previousPrivilege = 2 then sanitized &&& ~~~MstatusBits.mpp else sanitized

def sanitizeMtvec (value : Xlen) : Xlen :=
  let base := value &&& ~~~3
  let mode := value &&& 3
  base ||| (if mode ≤ 1 then mode else 0)

def sanitizeSatp (value : Xlen) : Xlen :=
  if (value &&& SatpBits.mode) = 0 then 0
  else SatpBits.mode ||| (value &&& (SatpBits.asid ||| SatpBits.ppn))

structure CsrReadResult where
  status : CsrAccessStatus := .notFound
  value : Xlen := 0
deriving DecidableEq

def CsrReadResult.ready (result : CsrReadResult) : Bool := result.status == .ready

namespace CsrFile

def csrPrivilegeAllows (address : CsrAddress) (privilege : PrivilegeMode) : Bool :=
  let minimum : BitVec 8 := ((address >>> 8) &&& 0x3).setWidth 8
  decide (minimum ≤ privilege.code 8)

def isZicntrAddress : CsrAddress → Bool
  | CsrAddress.cycle | CsrAddress.time | CsrAddress.instret | CsrAddress.cycleh
  | CsrAddress.timeh | CsrAddress.instreth => true
  | _ => false

def counterEnableBit : CsrAddress → Xlen
  | CsrAddress.cycle | CsrAddress.cycleh => 1#32 <<< 0
  | CsrAddress.time | CsrAddress.timeh => 1#32 <<< 1
  | CsrAddress.instret | CsrAddress.instreth => 1#32 <<< 2
  | _ => 0

def counterReadAllowed (state : CpuSnapshot) (address : CsrAddress) (privilege : PrivilegeMode) :
    Bool :=
  if privilege = .machine then true
  else
    let enable := counterEnableBit address
    if !flag state.machineCsrs.mcounteren enable then false
    else privilege != .user || flag state.supervisorCsrs.scounteren enable

def isMachineIdentityAddress : CsrAddress → Bool
  | CsrAddress.mvendorid | CsrAddress.marchid | CsrAddress.mimpid | CsrAddress.mhartid => true
  | _ => false

def isWritableMachineAddress : CsrAddress → Bool
  | CsrAddress.mstatus | CsrAddress.misa | CsrAddress.medeleg | CsrAddress.mideleg
  | CsrAddress.mie | CsrAddress.mtvec | CsrAddress.mcounteren | CsrAddress.mstatush
  | CsrAddress.medelegh | CsrAddress.mscratch | CsrAddress.mepc | CsrAddress.mcause
  | CsrAddress.mtval | CsrAddress.mip | CsrAddress.mcycle | CsrAddress.minstret
  | CsrAddress.mcycleh | CsrAddress.minstreth => true
  | _ => false

def isWritableSupervisorAddress : CsrAddress → Bool
  | CsrAddress.sstatus | CsrAddress.sie | CsrAddress.stvec | CsrAddress.scounteren
  | CsrAddress.sscratch | CsrAddress.sepc | CsrAddress.scause | CsrAddress.stval
  | CsrAddress.sip | CsrAddress.satp => true
  | _ => false

def lowWord (value : BitVec 64) : Xlen := value.setWidth 32

def highWord (value : BitVec 64) : Xlen := (value >>> 32).setWidth 32

def satpAccessTrapped (state : CpuSnapshot) (address : CsrAddress) (privilege : PrivilegeMode) :
    Bool :=
  address == CsrAddress.satp && privilege == .supervisor &&
    flag state.machineCsrs.mstatus MstatusBits.tvm

/-- The value a readable register has; `none` where the switch falls through. -/
def value? (state : CpuSnapshot) (time : BitVec 64) : CsrAddress → Option Xlen
  | CsrAddress.sstatus => some (state.machineCsrs.mstatus &&& MstatusBits.supervisorView)
  | CsrAddress.sie =>
    some (state.machineCsrs.mie &&& state.machineCsrs.mideleg &&& InterruptBits.supervisor)
  | CsrAddress.stvec => some state.supervisorCsrs.stvec
  | CsrAddress.scounteren => some state.supervisorCsrs.scounteren
  | CsrAddress.sscratch => some state.supervisorCsrs.sscratch
  | CsrAddress.sepc => some state.supervisorCsrs.sepc
  | CsrAddress.scause => some state.supervisorCsrs.scause
  | CsrAddress.stval => some state.supervisorCsrs.stval
  | CsrAddress.sip =>
    some (state.pendingInterrupts &&& state.machineCsrs.mideleg &&& InterruptBits.supervisor)
  | CsrAddress.satp => some state.supervisorCsrs.satp
  | CsrAddress.mstatus => some state.machineCsrs.mstatus
  | CsrAddress.misa => some machineIsaValue
  | CsrAddress.medeleg => some state.machineCsrs.medeleg
  | CsrAddress.mideleg => some state.machineCsrs.mideleg
  | CsrAddress.mie => some (state.machineCsrs.mie &&& InterruptBits.supported)
  | CsrAddress.mcounteren => some state.machineCsrs.mcounteren
  | CsrAddress.mstatush | CsrAddress.medelegh => some 0
  | CsrAddress.mtvec => some state.machineCsrs.mtvec
  | CsrAddress.mscratch => some state.machineCsrs.mscratch
  | CsrAddress.mepc => some state.machineCsrs.mepc
  | CsrAddress.mcause => some state.machineCsrs.mcause
  | CsrAddress.mtval => some state.machineCsrs.mtval
  | CsrAddress.mip => some state.pendingInterrupts
  | CsrAddress.mcycle | CsrAddress.cycle => some (lowWord state.cycle)
  | CsrAddress.time => some (lowWord time)
  | CsrAddress.minstret | CsrAddress.instret => some (lowWord state.instructionsRetired)
  | CsrAddress.mcycleh | CsrAddress.cycleh => some (highWord state.cycle)
  | CsrAddress.timeh => some (highWord time)
  | CsrAddress.minstreth | CsrAddress.instreth => some (highWord state.instructionsRetired)
  | CsrAddress.mvendorid | CsrAddress.marchid | CsrAddress.mimpid => some 0
  | CsrAddress.mhartid => some state.hartId
  | _ => none

/-- `CsrFile::read`, with the bus's `read_time` as an argument. -/
def read (state : CpuSnapshot) (time : BitVec 64) (address : CsrAddress)
    (privilege : PrivilegeMode) : CsrReadResult :=
  if !csrPrivilegeAllows address privilege then { status := .privilegeViolation }
  else if satpAccessTrapped state address privilege then { status := .privilegeViolation }
  else if isZicntrAddress address && !counterReadAllowed state address privilege then
    { status := .privilegeViolation }
  else
    match value? state time address with
    | some value => { status := .ready, value }
    | none => { status := .notFound }

def validateWrite (state : CpuSnapshot) (address : CsrAddress) (privilege : PrivilegeMode) :
    CsrAccessStatus :=
  if !csrPrivilegeAllows address privilege then .privilegeViolation
  else if satpAccessTrapped state address privilege then .privilegeViolation
  else if isZicntrAddress address || isMachineIdentityAddress address then .readOnly
  else if isWritableMachineAddress address || isWritableSupervisorAddress address then .ready
  else .notFound

/-- Assign fields of `machine_csrs`. -/
def onMachine (state : CpuSnapshot) (change : MachineCsrState 32 → MachineCsrState 32) :
    CpuSnapshot :=
  { state with machineCsrs := change state.machineCsrs }

/-- Assign fields of `supervisor_csrs`. -/
def onSupervisor (state : CpuSnapshot)
    (change : SupervisorCsrState 32 → SupervisorCsrState 32) : CpuSnapshot :=
  { state with supervisorCsrs := change state.supervisorCsrs }

def writeValidated (state : CpuSnapshot) (address : CsrAddress) (value : Xlen) : CpuSnapshot :=
  match address with
  | CsrAddress.sstatus =>
    onMachine state fun csrs =>
      { csrs with
        mstatus := sanitizeMstatus
          ((csrs.mstatus &&& ~~~MstatusBits.supervisorView) |||
            (value &&& MstatusBits.supervisorView)) }
  | CsrAddress.sie =>
    let mask := state.machineCsrs.mideleg &&& InterruptBits.supervisor
    onMachine state fun csrs => { csrs with mie := (csrs.mie &&& ~~~mask) ||| (value &&& mask) }
  | CsrAddress.stvec => onSupervisor state ({ · with stvec := sanitizeMtvec value })
  | CsrAddress.scounteren =>
    onSupervisor state ({ · with scounteren := value &&& supportedCounterEnable })
  | CsrAddress.sscratch => onSupervisor state ({ · with sscratch := value })
  | CsrAddress.sepc => onSupervisor state ({ · with sepc := value &&& ~~~1 })
  | CsrAddress.scause => onSupervisor state ({ · with scause := value })
  | CsrAddress.stval => onSupervisor state ({ · with stval := value })
  | CsrAddress.sip =>
    let mask := state.machineCsrs.mideleg &&& InterruptBits.supervisorWritablePending
    onMachine state fun csrs =>
      { csrs with mipSoftware := (csrs.mipSoftware &&& ~~~mask) ||| (value &&& mask) }
  | CsrAddress.satp => onSupervisor state ({ · with satp := sanitizeSatp value })
  | CsrAddress.mstatus => onMachine state ({ · with mstatus := sanitizeMstatus value })
  | CsrAddress.misa => state
  | CsrAddress.medeleg =>
    onMachine state ({ · with medeleg := value &&& supportedExceptionDelegation })
  | CsrAddress.mideleg =>
    onMachine state ({ · with mideleg := value &&& supportedInterruptDelegation })
  | CsrAddress.mie => onMachine state ({ · with mie := value &&& InterruptBits.supported })
  | CsrAddress.mcounteren =>
    onMachine state ({ · with mcounteren := value &&& supportedCounterEnable })
  | CsrAddress.mstatush | CsrAddress.medelegh => state
  | CsrAddress.mtvec => onMachine state ({ · with mtvec := sanitizeMtvec value })
  | CsrAddress.mscratch => onMachine state ({ · with mscratch := value })
  | CsrAddress.mepc => onMachine state ({ · with mepc := value &&& ~~~1 })
  | CsrAddress.mcause => onMachine state ({ · with mcause := value })
  | CsrAddress.mtval => onMachine state ({ · with mtval := value })
  | CsrAddress.mip =>
    onMachine state ({ · with mipSoftware := value &&& InterruptBits.machineWritablePending })
  | CsrAddress.mcycle =>
    { state with cycle := (state.cycle &&& 0xFFFFFFFF00000000) ||| value.setWidth 64 }
  | CsrAddress.minstret =>
    { state with
      instructionsRetired :=
        (state.instructionsRetired &&& 0xFFFFFFFF00000000) ||| value.setWidth 64 }
  | CsrAddress.mcycleh =>
    { state with cycle := (state.cycle &&& 0x00000000FFFFFFFF) ||| (value.setWidth 64 <<< 32) }
  | CsrAddress.minstreth =>
    { state with
      instructionsRetired :=
        (state.instructionsRetired &&& 0x00000000FFFFFFFF) ||| (value.setWidth 64 <<< 32) }
  | _ => state

/-- The base that CSRRS and CSRRC modify: the software part of a pending bit,
not the interrupt line it is read together with. -/
def readForWrite (state : CpuSnapshot) (address : CsrAddress) (readValue : Xlen) : Xlen :=
  if address = CsrAddress.mip then
    (readValue &&& ~~~InterruptBits.machineWritablePending) |||
      (state.machineCsrs.mipSoftware &&& InterruptBits.machineWritablePending)
  else if address = CsrAddress.sip then
    (readValue &&& ~~~InterruptBits.supervisorWritablePending) |||
      (state.machineCsrs.mipSoftware &&& InterruptBits.supervisorWritablePending)
  else readValue

end CsrFile

end RvEmulator.Core32
