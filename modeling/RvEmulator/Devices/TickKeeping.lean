import RvEmulator.Devices.BlockReentrant
import RvEmulator.Devices.NetReentrant
import RvEmulator.Library.Keeping

/-! The tick of a device reaches its surroundings by direct memory accesses alone. -/

namespace RvEmulator.Devices

open Library Platform

/-- What is known of the surroundings outlasts every access of the device. -/
structure Surroundings.Keeps (Δ : Type) [Surroundings Δ δ] (known : δ → Prop) : Prop where
  read : ∀ address width (device : Δ) dma, known dma →
    known (Surroundings.dmaRead address width device dma).2
  write : ∀ address width value (device : Δ) dma, known dma →
    known (Surroundings.dmaWrite address width value device dma).2

namespace Hazardous

variable {Δ δ : Type} {known : δ → Prop}

/-- The computation keeps what is known of the surroundings. -/
abbrev Keeps (known : δ → Prop) (x : Hazardous Δ δ α) : Prop :=
  Exec.Keeps (fun state => known state.2) x

theorem keeps_device : Keeps (Δ := Δ) known device := .lift fun _ before => before

theorem keeps_change (update : Δ → Δ) : Keeps known (change update) := .lift fun _ before => before

theorem keeps_modulo (index size : BitVec 16) : Keeps (Δ := Δ) known (modulo index size) :=
  .ite .stop .pure

theorem keeps_elementAt (items : List α) (index : Nat) :
    Keeps (Δ := Δ) known (elementAt items index) := by
  unfold elementAt
  split
  · exact .stop
  · exact .pure

theorem keeps_storeAt (items : List α) (index : Nat) (item : α) :
    Keeps (Δ := Δ) known (storeAt items index item) :=
  .ite .pure .stop

theorem keeps_firstOf (items : List α) (count : Nat) :
    Keeps (Δ := Δ) known (firstOf items count) :=
  .ite .stop .pure

section

variable [Surroundings Δ δ] (keeps : Surroundings.Keeps Δ known)

include keeps

theorem keeps_dmaRead (address : PhysAddr) (width : AccessWidth) :
    Keeps (Δ := Δ) known (dmaRead address width) :=
  .lift fun state before => keeps.read address width state.1 state.2 before

theorem keeps_readDescriptor (table : PhysAddr) (index : BitVec 16) :
    Keeps (Δ := Δ) known (readDescriptor table index) :=
  .bind (keeps_dmaRead keeps _ _) fun _ => .bind (keeps_dmaRead keeps _ _) fun _ =>
    .bind (keeps_dmaRead keeps _ _) fun _ => .bind (keeps_dmaRead keeps _ _) fun _ => .pure

variable [RegisterFile Δ]

theorem keeps_dmaWrite (address : PhysAddr) (width : AccessWidth) (value : BitVec 64) :
    Keeps (Δ := Δ) known (dmaWrite address width value) := by
  apply Exec.Keeps.lift
  rintro ⟨device, dma⟩ before
  have after := keeps.write address width value device dma before
  dsimp only
  generalize Surroundings.dmaWrite address width value device dma = answer at after ⊢
  rcases answer with ⟨offset | fault, dma⟩ <;> exact after

theorem keeps_writeElement (element : PhysAddr) (head : BitVec 16) (bytesWritten : BitVec 32) :
    Keeps (Δ := Δ) known (writeElement element head bytesWritten) :=
  .bind (keeps_dmaWrite keeps _ _ _) fun _ => .ite (keeps_dmaWrite keeps _ _ _) .pure

end

end Hazardous

open Hazardous

variable {δ : Type} {known : δ → Prop}

/-! ### The block device -/

namespace VirtioBlock.Reentrant

variable {σ : Type} [Surroundings (VirtioBlock σ) δ]
  (keeps : Surroundings.Keeps (VirtioBlock σ) known)

include keeps

theorem keeps_loadLoop (fuel : Nat) (count : BitVec 16) (visited : List Bool)
    (current : BitVec 16) :
    Keeps (Δ := VirtioBlock σ) known (loadLoop fuel count visited current) := by
  induction fuel generalizing count visited current with
  | zero => exact .stop
  | succ fuel ih =>
    refine .bind keeps_device fun device => .ite .pure (.ite .pure ?_)
    refine .bind (keeps_elementAt _ _) fun seen => .ite .pure (.bind ?_ fun descriptor => ?_)
    · exact .bind keeps_device fun device => .ite .pure (keeps_readDescriptor keeps _ _)
    · cases descriptor with
      | none => exact .pure
      | some descriptor => exact .ite .pure (.bind (ih _ _ _) fun _ => .pure)

theorem keeps_gather (address : PhysAddr) (remaining byte : Nat) (chunk : List (BitVec 8)) :
    Keeps (Δ := VirtioBlock σ) known (gather address remaining byte chunk) := by
  induction remaining generalizing byte chunk with
  | zero => exact .pure
  | succ remaining ih =>
    refine .bind (keeps_dmaRead keeps _ _) fun result => .ite .pure ?_
    exact .bind (keeps_storeAt _ _ _) fun chunk => ih _ chunk

theorem keeps_scatter (address : PhysAddr) (chunk : List (BitVec 8)) (remaining byte : Nat)
    (written : BitVec 32) :
    Keeps (Δ := VirtioBlock σ) known (scatter address chunk remaining byte written) := by
  induction remaining generalizing byte written with
  | zero => exact .pure
  | succ remaining ih =>
    refine .bind (keeps_elementAt _ _) fun value => ?_
    exact .bind (keeps_dmaWrite keeps _ _ _) fun stored => .ite .pure (ih _ _)

variable [BlockStorage σ]

theorem keeps_transferChunk (requestType : BitVec 32) (address : PhysAddr)
    (diskOffset : BitVec 64) (count : Nat) (written : BitVec 32) :
    Keeps (Δ := VirtioBlock σ) known
      (transferChunk requestType address diskOffset count written) := by
  refine .bind (keeps_firstOf _ _) fun chunk => .bind keeps_device fun device => .ite ?_ ?_
  · split
    · exact .bind (keeps_change _) fun _ => .pure
    · exact .bind (keeps_change _) fun _ => keeps_scatter keeps _ _ _ _ _
  · refine .bind (keeps_gather keeps _ _ _ _) fun gathered => ?_
    cases gathered with
    | none => exact .pure
    | some bytes =>
      exact .ite (.bind (keeps_change _) fun _ => .pure) (.bind (keeps_change _) fun _ => .pure)

theorem keeps_transfer (requestType : BitVec 32) (address : PhysAddr) (diskOffset : BitVec 64)
    (length fuel transferred : Nat) (written : BitVec 32) :
    Keeps (Δ := VirtioBlock σ) known
      (transfer requestType address diskOffset length fuel transferred written) := by
  induction fuel generalizing transferred written with
  | zero => exact .stop
  | succ fuel ih =>
    refine .ite .pure (.bind (keeps_transferChunk keeps _ _ _ _ _) fun round => .ite .pure ?_)
    exact .bind (keeps_change _) fun _ => ih _ _

theorem keeps_transferAll (requestType : BitVec 32) (chain : List Descriptor) (fuel index : Nat)
    (diskOffset : BitVec 64) (written : BitVec 32) :
    Keeps (Δ := VirtioBlock σ) known
      (transferAll requestType chain fuel index diskOffset written) := by
  induction fuel generalizing index diskOffset written with
  | zero => exact .stop
  | succ fuel ih =>
    refine .ite .pure (.bind (keeps_elementAt _ _) fun descriptor => .bind keeps_device fun device => ?_)
    refine .ite .pure (.ite .pure (.bind (keeps_transfer keeps _ _ _ _ _ _ _) fun data => ?_))
    exact .ite .pure (ih _ _ _)

theorem keeps_serveChain (chain : List Descriptor) :
    Keeps (Δ := VirtioBlock σ) known (serveChain chain) := by
  refine .bind (keeps_elementAt _ _) fun header => .bind (keeps_elementAt _ _) fun status => ?_
  refine .ite .pure (.bind (keeps_dmaRead keeps _ _) fun requestType =>
    .bind (keeps_dmaRead keeps _ _) fun sector => .ite .pure (.bind (keeps_change _) fun _ => ?_))
  refine .bind (.ite .pure (.ite .pure (keeps_transferAll keeps _ _ _ _ _ _))) fun progress => ?_
  exact .bind (keeps_dmaWrite keeps _ _ _) fun stored => .bind (keeps_change _) fun _ => .pure

theorem keeps_processRequest (head : BitVec 16) :
    Keeps (Δ := VirtioBlock σ) known (processRequest head) := by
  refine .bind keeps_device fun device => .ite .pure ?_
  refine .bind (keeps_loadLoop keeps _ _ _ _) fun chain => ?_
  cases chain with
  | none => exact .pure
  | some chain => exact .ite .pure (keeps_serveChain keeps chain)

omit [BlockStorage σ] in
theorem keeps_completeChain (head : BitVec 16) (bytesWritten : BitVec 32) :
    Keeps (Δ := VirtioBlock σ) known (completeChain head bytesWritten) := by
  refine .bind keeps_device fun before => .bind (keeps_modulo _ _) fun slot => ?_
  refine .bind (keeps_writeElement keeps _ _ _) fun stored => .ite .pure ?_
  exact .bind (keeps_change _) fun _ => .bind keeps_device fun after => keeps_dmaWrite keeps _ _ _

theorem keeps_processHeads (availableIndex : BitVec 16) (fuel : Nat) (processed : BitVec 16) :
    Keeps (Δ := VirtioBlock σ) known (processHeads availableIndex fuel processed) := by
  induction fuel generalizing processed with
  | zero => exact .stop
  | succ fuel ih =>
    refine .bind keeps_device fun device => .ite .pure (.bind (keeps_modulo _ _) fun slot => ?_)
    refine .bind (keeps_dmaRead keeps _ _) fun entry => .ite .pure (.bind ?_ fun completed => ?_)
    · exact .bind (keeps_change _) fun _ => .bind (keeps_processRequest keeps _) fun written =>
        keeps_completeChain keeps _ written
    · exact .ite .pure (.bind (keeps_change _) fun _ => ih _)

theorem keeps_tick : Keeps (Δ := VirtioBlock σ) known tick := by
  refine .bind keeps_device fun device => .ite .pure (.bind (keeps_change _) fun _ => ?_)
  refine .bind keeps_device fun device => .ite .pure (.bind (keeps_dmaRead keeps _ _) fun index => ?_)
  exact .ite .pure (keeps_processHeads keeps _ _ _)

end VirtioBlock.Reentrant

/-! ### The network device -/

namespace VirtioNet.Reentrant

variable {ν : Type}

theorem keeps_record (edit : VirtioNetStatistics → VirtioNetStatistics) :
    Hazardous.Keeps (Δ := VirtioNet ν) known (record edit) := keeps_change _

theorem keeps_front : Hazardous.Keeps (Δ := VirtioNet ν) known front := by
  refine .bind keeps_device fun device => ?_
  split
  · exact .stop
  · exact .pure

theorem keeps_popFront : Hazardous.Keeps (Δ := VirtioNet ν) known popFront := by
  refine .bind keeps_device fun device => ?_
  split
  · exact .stop
  · exact keeps_change _

theorem keeps_packetByte (source : Nat) :
    Hazardous.Keeps (Δ := VirtioNet ν) known (packetByte source) :=
  .ite .pure (.bind keeps_front fun _ => keeps_elementAt _ _)

theorem keeps_sendPacket [NetworkBackend ν] (packet : List (BitVec 8)) :
    Hazardous.Keeps (Δ := VirtioNet ν) known (sendPacket packet) := by
  refine .ite .stop (.bind keeps_device fun device => ?_)
  split
  · exact .pure
  · exact .bind (keeps_change _) fun _ => .pure

variable [Surroundings (VirtioNet ν) δ] (keeps : Surroundings.Keeps (VirtioNet ν) known)

include keeps

theorem keeps_loadLoop (side : Side) (fuel : Nat) (count : BitVec 16) (visited : List Bool)
    (current : BitVec 16) :
    Hazardous.Keeps (Δ := VirtioNet ν) known (loadLoop side fuel count visited current) := by
  induction fuel generalizing count visited current with
  | zero => exact .stop
  | succ fuel ih =>
    refine .bind keeps_device fun device => .ite .pure (.ite .pure ?_)
    refine .bind (keeps_elementAt _ _) fun seen => .ite .pure ?_
    refine .bind (keeps_readDescriptor keeps _ _) fun descriptor => ?_
    cases descriptor with
    | none => exact .bind (keeps_record _) fun _ => .pure
    | some descriptor => exact .ite .pure (.bind (ih _ _ _) fun _ => .pure)

theorem keeps_loadWholeChain (side : Side) (head : BitVec 16) :
    Hazardous.Keeps (Δ := VirtioNet ν) known (loadWholeChain side head) :=
  .bind keeps_device fun _ => .ite .pure (keeps_loadLoop keeps _ _ _ _ _)

theorem keeps_readAvailableHead (side : Side) :
    Hazardous.Keeps (Δ := VirtioNet ν) known (readAvailableHead side) := by
  refine .bind keeps_device fun device => .bind (keeps_modulo _ _) fun slot => ?_
  refine .bind (keeps_dmaRead keeps _ _) fun entry => .ite ?_ .pure
  exact .bind (keeps_record _) fun _ => .pure

theorem keeps_completeChain (side : Side) (head : BitVec 16) (bytesWritten : BitVec 32) :
    Hazardous.Keeps (Δ := VirtioNet ν) known (completeChain side head bytesWritten) := by
  refine .bind keeps_device fun before => .bind (keeps_modulo _ _) fun slot => ?_
  refine .bind (keeps_writeElement keeps _ _ _) fun stored => .ite ?_ ?_
  · exact .bind (keeps_record _) fun _ => .pure
  · refine .bind keeps_device fun after => .bind (keeps_dmaWrite keeps _ _ _) fun index => .ite ?_ ?_
    · exact .bind (keeps_record _) fun _ => .pure
    · exact .bind (keeps_change _) fun _ => .pure

/-! ### Transmission -/

theorem keeps_gather (address : PhysAddr) (count : Nat) :
    Hazardous.Keeps (Δ := VirtioNet ν) known (gather address count) := by
  induction count generalizing address with
  | zero => exact .pure
  | succ count ih =>
    refine .bind (keeps_dmaRead keeps _ _) fun byte => .ite .pure ?_
    exact .bind (ih (address + 1)) fun rest => .pure

theorem keeps_gatherChain (chain : List Descriptor) :
    Hazardous.Keeps (Δ := VirtioNet ν) known (gatherChain chain) := by
  induction chain with
  | nil => exact .pure
  | cons descriptor rest ih =>
    refine .bind (keeps_gather keeps _ _) fun bytes => ?_
    cases bytes with
    | none => exact .pure
    | some bytes => exact .bind ih fun others => .pure

section

variable [NetworkBackend ν]

theorem keeps_transmitIfValid (chain : Option (List Descriptor)) :
    Hazardous.Keeps (Δ := VirtioNet ν) known (transmitIfValid chain) := by
  cases chain with
  | none => exact .pure
  | some chain =>
    change Hazardous.Keeps known (transmitChain chain)
    unfold transmitChain
    split
    · exact .pure
    refine .ite .pure (.bind (keeps_gatherChain keeps chain) fun packet => ?_)
    cases packet with
    | none => exact .bind (keeps_record _) fun _ => .pure
    | some packet => exact keeps_sendPacket packet

theorem keeps_transmitHead (head : BitVec 16) :
    Hazardous.Keeps (Δ := VirtioNet ν) known (transmitHead head) := by
  refine .bind (keeps_record _) fun _ => .bind (keeps_loadWholeChain keeps _ _) fun chain => ?_
  refine .bind (keeps_transmitIfValid keeps chain) fun sent => .bind (keeps_record _) fun _ => ?_
  exact keeps_completeChain keeps _ _ _

theorem keeps_transmitLoop (fuel : Nat) (processed : BitVec 16) :
    Hazardous.Keeps (Δ := VirtioNet ν) known (transmitLoop fuel processed) := by
  induction fuel generalizing processed with
  | zero => exact .stop
  | succ fuel ih =>
    refine .bind keeps_device fun device => .ite .pure (.bind (keeps_dmaRead keeps _ _) fun index => ?_)
    refine .ite (keeps_record _) (.ite .pure (.bind (keeps_readAvailableHead keeps _) fun head => ?_))
    cases head with
    | none => exact .pure
    | some head =>
      refine .bind (keeps_transmitHead keeps head) fun completed => .ite .pure ?_
      exact .bind (keeps_change _) fun _ => ih _

end

/-! ### Reception -/

theorem keeps_fill (required : Nat) (address : PhysAddr) (count source : Nat) :
    Hazardous.Keeps (Δ := VirtioNet ν) known (fill required address count source) := by
  induction count generalizing address source with
  | zero => exact .pure
  | succ count ih =>
    refine .ite .pure (.bind (keeps_packetByte _) fun byte => ?_)
    exact .bind (keeps_dmaWrite keeps _ _ _) fun stored => .ite .pure (ih _ _)

theorem keeps_fillChain (required : Nat) (chain : List Descriptor) (source : Nat) :
    Hazardous.Keeps (Δ := VirtioNet ν) known (fillChain required chain source) := by
  induction chain generalizing source with
  | nil => exact .pure
  | cons descriptor rest ih =>
    refine .bind (keeps_fill keeps _ _ _ _) fun filled => ?_
    cases filled with
    | none => exact .pure
    | some source => exact ih source

theorem keeps_receiveIfValid (chain : Option (List Descriptor)) :
    Hazardous.Keeps (Δ := VirtioNet ν) known (receiveIfValid chain) := by
  cases chain with
  | none => exact .pure
  | some chain =>
    refine .bind keeps_front fun frame => ?_
    split
    · exact .pure
    refine .ite .pure (.bind (keeps_fillChain keeps _ _ _) fun filled => .ite ?_ ?_)
    · exact .bind (keeps_record _) fun _ => .pure
    · exact .bind (keeps_record _) fun _ => .pure

theorem keeps_receiveHead (head : BitVec 16) :
    Hazardous.Keeps (Δ := VirtioNet ν) known (receiveHead head) := by
  refine .bind (keeps_record _) fun _ => .bind (keeps_loadWholeChain keeps _ _) fun chain => ?_
  refine .bind (keeps_receiveIfValid keeps chain) fun written => .bind (keeps_record _) fun _ => ?_
  exact .bind keeps_popFront fun _ => keeps_completeChain keeps _ _ _

theorem keeps_receiveLoop (fuel : Nat) (processed : BitVec 16) :
    Hazardous.Keeps (Δ := VirtioNet ν) known (receiveLoop fuel processed) := by
  induction fuel generalizing processed with
  | zero => exact .stop
  | succ fuel ih =>
    refine .bind keeps_device fun device => .ite .pure (.bind (keeps_dmaRead keeps _ _) fun index => ?_)
    refine .ite (keeps_record _) (.ite (keeps_record _) ?_)
    refine .bind (keeps_readAvailableHead keeps _) fun head => ?_
    cases head with
    | none => exact .pure
    | some head =>
      refine .bind (keeps_receiveHead keeps head) fun completed => .ite .pure ?_
      exact .bind (keeps_change _) fun _ => ih _

theorem keeps_tick [NetworkBackend ν] (cycles : BitVec 64) :
    Hazardous.Keeps (Δ := VirtioNet ν) known (tick cycles) := by
  refine .bind (keeps_change _) fun _ => .bind ?_ fun _ => .bind (keeps_change _) fun _ => ?_
  · refine .bind keeps_device fun device => .ite (.bind (keeps_change _) fun _ => ?_) .pure
    refine .bind (.bind keeps_device fun device => .ite .pure ?_) fun _ => keeps_change _
    exact keeps_transmitLoop keeps _ _
  · refine .bind keeps_device fun device => .ite .pure (.bind keeps_device fun device => ?_)
    exact .ite .pure (keeps_receiveLoop keeps _ _)

end VirtioNet.Reentrant

end RvEmulator.Devices
