import RvEmulator.Core64.Types

/-! Control and status registers of the 64-bit core: `csr.cpp`, and the
privileged instructions of `trap.cpp`. -/

namespace RvEmulator.Core64

namespace MstatusBits

export RvEmulator.MstatusBits (sie mie spie mpie spp mppShift mpp mprv sum mxr tvm tw tsr)

def fs : Xlen := 3#64 <<< 13
def fsDirty : Xlen := 3#64 <<< 13
def uxl : Xlen := 2#64 <<< 32
def sxl : Xlen := 2#64 <<< 34
def sd : Xlen := 1#64 <<< 63
def supervisorView : Xlen := sie ||| spie ||| spp ||| fs ||| sum ||| mxr ||| uxl ||| sd
def writable : Xlen :=
  sie ||| mie ||| spie ||| mpie ||| spp ||| mpp ||| fs ||| mprv ||| sum ||| mxr ||| tvm ||| tw |||
    tsr
def fixed : Xlen := uxl ||| sxl

end MstatusBits

namespace SatpBits

def mode : Xlen := 0xF#64 <<< 60
def sv39Mode : Xlen := 8#64 <<< 60
def asid : Xlen := 0xFFFF#64 <<< 44
def ppn : Xlen := (1#64 <<< 44) - 1

end SatpBits

namespace CsrAddress

@[match_pattern] abbrev fflags : CsrAddress := 0x001#16
@[match_pattern] abbrev frm : CsrAddress := 0x002#16
@[match_pattern] abbrev fcsr : CsrAddress := 0x003#16
@[match_pattern] abbrev sstatus : CsrAddress := 0x100#16
@[match_pattern] abbrev sie : CsrAddress := 0x104#16
@[match_pattern] abbrev stvec : CsrAddress := 0x105#16
@[match_pattern] abbrev scounteren : CsrAddress := 0x106#16
@[match_pattern] abbrev sscratch : CsrAddress := 0x140#16
@[match_pattern] abbrev sepc : CsrAddress := 0x141#16
@[match_pattern] abbrev scause : CsrAddress := 0x142#16
@[match_pattern] abbrev stval : CsrAddress := 0x143#16
@[match_pattern] abbrev sip : CsrAddress := 0x144#16
@[match_pattern] abbrev satp : CsrAddress := 0x180#16
@[match_pattern] abbrev mstatus : CsrAddress := 0x300#16
@[match_pattern] abbrev misa : CsrAddress := 0x301#16
@[match_pattern] abbrev medeleg : CsrAddress := 0x302#16
@[match_pattern] abbrev mideleg : CsrAddress := 0x303#16
@[match_pattern] abbrev mie : CsrAddress := 0x304#16
@[match_pattern] abbrev mtvec : CsrAddress := 0x305#16
@[match_pattern] abbrev mcounteren : CsrAddress := 0x306#16
@[match_pattern] abbrev mscratch : CsrAddress := 0x340#16
@[match_pattern] abbrev mepc : CsrAddress := 0x341#16
@[match_pattern] abbrev mcause : CsrAddress := 0x342#16
@[match_pattern] abbrev mtval : CsrAddress := 0x343#16
@[match_pattern] abbrev mip : CsrAddress := 0x344#16
@[match_pattern] abbrev mcycle : CsrAddress := 0xB00#16
@[match_pattern] abbrev minstret : CsrAddress := 0xB02#16
@[match_pattern] abbrev cycle : CsrAddress := 0xC00#16
@[match_pattern] abbrev time : CsrAddress := 0xC01#16
@[match_pattern] abbrev instret : CsrAddress := 0xC02#16
@[match_pattern] abbrev mvendorid : CsrAddress := 0xF11#16
@[match_pattern] abbrev marchid : CsrAddress := 0xF12#16
@[match_pattern] abbrev mimpid : CsrAddress := 0xF13#16
@[match_pattern] abbrev mhartid : CsrAddress := 0xF14#16

end CsrAddress

def machineIsaValue : Xlen := (2#64 <<< 62) ||| 0x14112D

def sanitizeMstatus (value : Xlen) : Xlen :=
  let result := (value &&& MstatusBits.writable) ||| MstatusBits.fixed
  let previous := (result &&& MstatusBits.mpp) >>> MstatusBits.mppShift
  let result := if previous = 2 then result &&& ~~~MstatusBits.mpp else result
  if (result &&& MstatusBits.fs) = MstatusBits.fsDirty then result ||| MstatusBits.sd
  else result &&& ~~~MstatusBits.sd

def sanitizeTvec (value : Xlen) : Xlen :=
  let mode := value &&& 0x3
  (value &&& ~~~3) ||| (if mode ≤ 1 then mode else 0)

def sanitizeSatp (value : Xlen) : Xlen :=
  if (value &&& SatpBits.mode) ≠ SatpBits.sv39Mode then 0
  else SatpBits.sv39Mode ||| (value &&& (SatpBits.asid ||| SatpBits.ppn))

def floatingPointEnabled (state : CpuSnapshot) : Bool :=
  flag state.machineCsrs.mstatus MstatusBits.fs

/-- Assign `machine_csrs.mstatus`. -/
def CpuSnapshot.setMstatus (state : CpuSnapshot) (mstatus : Xlen) : CpuSnapshot :=
  { state with machineCsrs := { state.machineCsrs with mstatus } }

def markFloatingPointDirty (state : CpuSnapshot) : CpuSnapshot :=
  state.setMstatus (sanitizeMstatus
    ((state.machineCsrs.mstatus &&& ~~~MstatusBits.fs) ||| MstatusBits.fsDirty))

/-- Assign `floating_point.fcsr` and mark the unit dirty. -/
def CpuSnapshot.setFcsr (state : CpuSnapshot) (fcsr : BitVec 8) : CpuSnapshot :=
  markFloatingPointDirty { state with floatingPoint := { state.floatingPoint with fcsr } }

structure CsrReadResult where
  status : CsrAccessStatus := .notFound
  value : Xlen := 0
deriving DecidableEq

def CsrReadResult.ready (result : CsrReadResult) : Bool := result.status == .ready

namespace CsrFile

def privilegeAllows (address : CsrAddress) (privilege : PrivilegeMode) : Bool :=
  let required : BitVec 8 := ((address >>> 8) &&& 0x3).setWidth 8
  decide (required ≤ privilege.code 8)

def isCounter (address : CsrAddress) : Bool :=
  address == CsrAddress.cycle || address == CsrAddress.time || address == CsrAddress.instret

def counterEnableBit (address : CsrAddress) : Xlen :=
  if address = CsrAddress.cycle then 1#64 <<< 0
  else if address = CsrAddress.time then 1#64 <<< 1
  else if address = CsrAddress.instret then 1#64 <<< 2
  else 0

def counterAllowed (state : CpuSnapshot) (address : CsrAddress) (privilege : PrivilegeMode) :
    Bool :=
  if privilege = .machine then true
  else
    let enable := counterEnableBit address
    if !flag state.machineCsrs.mcounteren enable then false
    else privilege != .user || flag state.supervisorCsrs.scounteren enable

def machineIdentity (address : CsrAddress) : Bool :=
  address == CsrAddress.mvendorid || address == CsrAddress.marchid ||
    address == CsrAddress.mimpid || address == CsrAddress.mhartid

def floatingCsr (address : CsrAddress) : Bool :=
  address == CsrAddress.fflags || address == CsrAddress.frm || address == CsrAddress.fcsr

def machineWritable : CsrAddress → Bool
  | CsrAddress.mstatus | CsrAddress.misa | CsrAddress.medeleg | CsrAddress.mideleg
  | CsrAddress.mie | CsrAddress.mtvec | CsrAddress.mcounteren | CsrAddress.mscratch
  | CsrAddress.mepc | CsrAddress.mcause | CsrAddress.mtval | CsrAddress.mip
  | CsrAddress.mcycle | CsrAddress.minstret => true
  | _ => false

def supervisorWritable : CsrAddress → Bool
  | CsrAddress.sstatus | CsrAddress.sie | CsrAddress.stvec | CsrAddress.scounteren
  | CsrAddress.sscratch | CsrAddress.sepc | CsrAddress.scause | CsrAddress.stval
  | CsrAddress.sip | CsrAddress.satp => true
  | _ => false

def satpTrapped (state : CpuSnapshot) (address : CsrAddress) (privilege : PrivilegeMode) : Bool :=
  address == CsrAddress.satp && privilege == .supervisor &&
    flag state.machineCsrs.mstatus MstatusBits.tvm

/-- The checks that reads and writes share. -/
def accessDenied (state : CpuSnapshot) (address : CsrAddress) (privilege : PrivilegeMode) : Bool :=
  !privilegeAllows address privilege || satpTrapped state address privilege ||
    (floatingCsr address && !floatingPointEnabled state)

/-- The value a readable register has; `none` where the switch falls through. -/
def value? (state : CpuSnapshot) (time : Xlen) : CsrAddress → Option Xlen
  | CsrAddress.fflags => some ((state.floatingPoint.fcsr &&& 0x1F).setWidth 64)
  | CsrAddress.frm => some (((state.floatingPoint.fcsr >>> 5) &&& 0x7).setWidth 64)
  | CsrAddress.fcsr => some (state.floatingPoint.fcsr.setWidth 64)
  | CsrAddress.sstatus =>
    some (sanitizeMstatus state.machineCsrs.mstatus &&& MstatusBits.supervisorView)
  | CsrAddress.sie =>
    some (state.machineCsrs.mie &&& state.machineCsrs.mideleg &&& InterruptBits.supervisor)
  | CsrAddress.stvec => some state.supervisorCsrs.stvec
  | CsrAddress.scounteren => some state.supervisorCsrs.scounteren
  | CsrAddress.sscratch => some state.supervisorCsrs.sscratch
  | CsrAddress.sepc => some state.supervisorCsrs.sepc
  | CsrAddress.scause => some state.supervisorCsrs.scause
  | CsrAddress.stval => some state.supervisorCsrs.stval
  | CsrAddress.sip =>
    some (state.pendingInterrupts &&& state.machineCsrs.mideleg &&& InterruptBits.supervisor)
  | CsrAddress.satp => some state.supervisorCsrs.satp
  | CsrAddress.mstatus => some (sanitizeMstatus state.machineCsrs.mstatus)
  | CsrAddress.misa => some machineIsaValue
  | CsrAddress.medeleg => some state.machineCsrs.medeleg
  | CsrAddress.mideleg => some state.machineCsrs.mideleg
  | CsrAddress.mie => some (state.machineCsrs.mie &&& InterruptBits.supported)
  | CsrAddress.mtvec => some state.machineCsrs.mtvec
  | CsrAddress.mcounteren => some state.machineCsrs.mcounteren
  | CsrAddress.mscratch => some state.machineCsrs.mscratch
  | CsrAddress.mepc => some state.machineCsrs.mepc
  | CsrAddress.mcause => some state.machineCsrs.mcause
  | CsrAddress.mtval => some state.machineCsrs.mtval
  | CsrAddress.mip => some state.pendingInterrupts
  | CsrAddress.mcycle | CsrAddress.cycle => some state.cycle
  | CsrAddress.time => some time
  | CsrAddress.minstret | CsrAddress.instret => some state.instructionsRetired
  | CsrAddress.mvendorid | CsrAddress.marchid | CsrAddress.mimpid => some 0
  | CsrAddress.mhartid => some state.hartId
  | _ => none

/-- `CsrFile::read`, with the bus's `read_time` as an argument. -/
def read (state : CpuSnapshot) (time : Xlen) (address : CsrAddress) (privilege : PrivilegeMode) :
    CsrReadResult :=
  if accessDenied state address privilege ||
      (isCounter address && !counterAllowed state address privilege) then
    { status := .privilegeViolation }
  else
    match value? state time address with
    | some value => { status := .ready, value }
    | none => { status := .notFound }

def validateWrite (state : CpuSnapshot) (address : CsrAddress) (privilege : PrivilegeMode) :
    CsrAccessStatus :=
  if accessDenied state address privilege then .privilegeViolation
  else if isCounter address || machineIdentity address then .readOnly
  else if floatingCsr address || machineWritable address || supervisorWritable address then .ready
  else .notFound

def writeValidated (state : CpuSnapshot) (address : CsrAddress) (value : Xlen) : CpuSnapshot :=
  match address with
  | CsrAddress.fflags =>
    state.setFcsr ((state.floatingPoint.fcsr &&& 0xE0) ||| (value &&& 0x1F).setWidth 8)
  | CsrAddress.frm =>
    state.setFcsr ((state.floatingPoint.fcsr &&& 0x1F) ||| ((value &&& 0x7) <<< 5).setWidth 8)
  | CsrAddress.fcsr => state.setFcsr ((value &&& 0xFF).setWidth 8)
  | CsrAddress.sstatus =>
    state.setMstatus (sanitizeMstatus
      ((state.machineCsrs.mstatus &&& ~~~MstatusBits.supervisorView) |||
        (value &&& MstatusBits.supervisorView)))
  | CsrAddress.sie =>
    let mask := state.machineCsrs.mideleg &&& InterruptBits.supervisor
    { state with
      machineCsrs :=
        { state.machineCsrs with
          mie := (state.machineCsrs.mie &&& ~~~mask) ||| (value &&& mask) } }
  | CsrAddress.stvec =>
    { state with supervisorCsrs := { state.supervisorCsrs with stvec := sanitizeTvec value } }
  | CsrAddress.scounteren =>
    { state with
      supervisorCsrs := { state.supervisorCsrs with scounteren := value &&& supportedCounterEnable } }
  | CsrAddress.sscratch =>
    { state with supervisorCsrs := { state.supervisorCsrs with sscratch := value } }
  | CsrAddress.sepc =>
    { state with supervisorCsrs := { state.supervisorCsrs with sepc := value &&& ~~~1 } }
  | CsrAddress.scause =>
    { state with supervisorCsrs := { state.supervisorCsrs with scause := value } }
  | CsrAddress.stval =>
    { state with supervisorCsrs := { state.supervisorCsrs with stval := value } }
  | CsrAddress.sip =>
    let mask := state.machineCsrs.mideleg &&& InterruptBits.supervisorWritablePending
    { state with
      machineCsrs :=
        { state.machineCsrs with
          mipSoftware := (state.machineCsrs.mipSoftware &&& ~~~mask) ||| (value &&& mask) } }
  | CsrAddress.satp =>
    let mode := value >>> 60
    if mode = 0 ∨ mode = 8 then
      { state with supervisorCsrs := { state.supervisorCsrs with satp := sanitizeSatp value } }
    else state
  | CsrAddress.mstatus => state.setMstatus (sanitizeMstatus value)
  | CsrAddress.misa => state
  | CsrAddress.medeleg =>
    { state with
      machineCsrs := { state.machineCsrs with medeleg := value &&& supportedExceptionDelegation } }
  | CsrAddress.mideleg =>
    { state with
      machineCsrs := { state.machineCsrs with mideleg := value &&& supportedInterruptDelegation } }
  | CsrAddress.mie =>
    { state with
      machineCsrs := { state.machineCsrs with mie := value &&& InterruptBits.supported } }
  | CsrAddress.mtvec =>
    { state with machineCsrs := { state.machineCsrs with mtvec := sanitizeTvec value } }
  | CsrAddress.mcounteren =>
    { state with
      machineCsrs := { state.machineCsrs with mcounteren := value &&& supportedCounterEnable } }
  | CsrAddress.mscratch =>
    { state with machineCsrs := { state.machineCsrs with mscratch := value } }
  | CsrAddress.mepc =>
    { state with machineCsrs := { state.machineCsrs with mepc := value &&& ~~~1 } }
  | CsrAddress.mcause =>
    { state with machineCsrs := { state.machineCsrs with mcause := value } }
  | CsrAddress.mtval =>
    { state with machineCsrs := { state.machineCsrs with mtval := value } }
  | CsrAddress.mip =>
    { state with
      machineCsrs :=
        { state.machineCsrs with mipSoftware := value &&& InterruptBits.machineWritablePending } }
  | CsrAddress.mcycle => { state with cycle := value }
  | CsrAddress.minstret => { state with instructionsRetired := value }
  | _ => state

/-- The base that CSRRS and CSRRC modify: the software part of a pending bit,
not the interrupt line it is read together with. -/
def readForWrite (state : CpuSnapshot) (address : CsrAddress) (readValue : Xlen) : Xlen :=
  if address = CsrAddress.mip then
    (readValue &&& ~~~InterruptBits.machineWritablePending) |||
      (state.machineCsrs.mipSoftware &&& InterruptBits.machineWritablePending)
  else if address = CsrAddress.sip then
    (readValue &&& ~~~InterruptBits.supervisorWritablePending) |||
      (state.machineCsrs.mipSoftware &&& InterruptBits.supervisorWritablePending)
  else readValue

end CsrFile

def takeTrap (state : CpuSnapshot) (request : TrapRequest 64) : CpuSnapshot :=
  state.onHart fun hart => hart.takeTrap sanitizeMstatus request

def takeInterruptTrap (state : CpuSnapshot) (cause : InterruptCause) (interruptedPc : Xlen)
    (target : TrapTarget) : CpuSnapshot :=
  state.onHart fun hart => hart.takeInterruptTrap sanitizeMstatus cause interruptedPc target

/-- `none` where `execute_mret` returns false. -/
def executeMret (state : CpuSnapshot) : Option CpuSnapshot :=
  if state.privilege ≠ .machine then none
  else
    let old := sanitizeMstatus state.machineCsrs.mstatus
    match PrivilegeMode.ofCode? ((old &&& MstatusBits.mpp) >>> MstatusBits.mppShift) with
    | none => none
    | some target =>
      some
        { state.setMstatus (sanitizeMstatus (machineReturnStatus old target)) with
          privilege := target
          pc := state.machineCsrs.mepc }

/-- `none` where `execute_sret` returns false. -/
def executeSret (state : CpuSnapshot) : Option CpuSnapshot :=
  let old := sanitizeMstatus state.machineCsrs.mstatus
  if state.privilege = .user ∨ (state.privilege = .supervisor ∧ flag old MstatusBits.tsr) then none
  else
    some
      { state.setMstatus (sanitizeMstatus (supervisorReturnStatus old)) with
        privilege := if flag old MstatusBits.spp then .supervisor else .user
        pc := state.supervisorCsrs.sepc }

def wfiAllowed (state : CpuSnapshot) : Bool :=
  state.privilege != .user &&
    !(state.privilege == .supervisor && flag state.machineCsrs.mstatus MstatusBits.tw)

def sfenceVmaAllowed (state : CpuSnapshot) : Bool :=
  state.privilege != .user &&
    !(state.privilege == .supervisor && flag state.machineCsrs.mstatus MstatusBits.tvm)

end RvEmulator.Core64
