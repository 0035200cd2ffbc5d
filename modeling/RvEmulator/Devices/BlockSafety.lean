import RvEmulator.Devices.BlockReentrant
import RvEmulator.Devices.NetSafety

/-! No hazard stops a tick of the block device, whatever its writes reach. -/

namespace RvEmulator.Devices.VirtioBlock.Reentrant

open Library Platform Hazardous

variable {σ δ : Type} [Surroundings (VirtioBlock σ) δ]

/-- What a round knows of the device up to its first write of a whole word. -/
def Sized (queueNum : BitVec 16) (device : VirtioBlock σ) : Prop := device.queueNum = queueNum

variable {queueNum : BitVec 16}

/-! ### Chains -/

theorem secure_loadDescriptor (index : BitVec 16) :
    Secure (Δ := VirtioBlock σ) (δ := δ) (Sized queueNum) (loadDescriptor index) fun _ => True :=
  .bind secure_device fun _ _ => .ite (fun _ => .pure trivial) fun _ => secure_readDescriptor _ _

theorem secure_loadLoop (fuel : Nat) (count : BitVec 16) (visited : List Bool)
    (current : BitVec 16) (length : visited.length = queueNum.toNat)
    (budget : count.toNat + fuel = 2 ^ 16) :
    Secure (Δ := VirtioBlock σ) (δ := δ) (Sized queueNum) (loadLoop fuel count visited current)
      fun _ => True := by
  induction fuel generalizing count visited current with
  | zero => exact absurd count.isLt (by omega)
  | succ fuel ih =>
    refine .bind secure_device fun device known => ?_
    rw [show device.queueNum = queueNum from known]
    refine .ite (fun _ => .pure trivial) fun more => .ite (fun _ => .pure trivial) fun inside => ?_
    have inside : current.toNat < queueNum.toNat := BitVec.not_le.mp inside
    refine .bind (secure_elementAt (length ▸ inside)) fun seen _ =>
      .ite (fun _ => .pure trivial) fun _ => ?_
    refine .bind (secure_loadDescriptor current) fun descriptor _ => ?_
    cases descriptor with
    | none => exact .pure trivial
    | some descriptor =>
      refine .ite (fun _ => .pure trivial) fun _ => .bind (ih _ _ _ ?_ ?_) fun _ _ => .pure trivial
      · rw [List.length_set, length]
      · rw [toNat_succ more]
        omega

/-! ### Data -/

omit [Surroundings (VirtioBlock σ) δ] in
theorem secure_changeDisk (edit : Disk σ → Disk σ) :
    Secure (Δ := VirtioBlock σ) (δ := δ) (Sized queueNum) (changeDisk edit) fun _ => True :=
  secure_change fun _ known => known

theorem secure_gather (address : PhysAddr) (remaining byte : Nat) (chunk : List (BitVec 8))
    (fits : byte + remaining ≤ chunk.length) :
    Secure (Δ := VirtioBlock σ) (δ := δ) (Sized queueNum) (gather address remaining byte chunk)
      fun _ => True := by
  induction remaining generalizing byte chunk with
  | zero => exact .pure trivial
  | succ remaining ih =>
    refine .bind (secure_dmaRead _ _) fun result _ => .ite (fun _ => .pure trivial) fun _ => ?_
    refine .bind (secure_storeAt (by omega) _) fun stored same => ih _ _ ?_
    omega

theorem secure_scatter (address : PhysAddr) (chunk : List (BitVec 8)) (remaining byte : Nat)
    (written : BitVec 32) (fits : byte + remaining ≤ chunk.length) :
    Secure (Δ := VirtioBlock σ) (δ := δ) (Sized queueNum)
      (scatter address chunk remaining byte written) fun _ => True := by
  induction remaining generalizing byte written with
  | zero => exact .pure trivial
  | succ remaining ih =>
    refine .bind (secure_elementAt (by omega)) fun value _ => ?_
    refine .bind (secure_dmaWrite AccessWidth.noConfusion _ _) fun stored _ => ?_
    exact .ite (fun _ => .pure trivial) fun _ => ih _ _ (by omega)

section

variable [BlockStorage σ]

theorem secure_transferChunk (requestType : BitVec 32) (address : PhysAddr)
    (diskOffset : BitVec 64) {count : Nat} (fits : count ≤ transferBufferSize)
    (written : BitVec 32) :
    Secure (Δ := VirtioBlock σ) (δ := δ) (Sized queueNum)
      (transferChunk requestType address diskOffset count written) fun _ => True := by
  refine .bind (secure_firstOf (by rwa [List.length_replicate])) fun chunk length => ?_
  refine .bind secure_device fun device _ => .ite (fun _ => ?_) fun _ => ?_
  · split
    · exact .bind (secure_changeDisk _) fun _ _ => .pure trivial
    · rename_i bytes storage _
      refine .bind (secure_changeDisk _) fun _ _ => secure_scatter _ _ _ _ _ ?_
      rw [Vector.length_toList, length, Nat.zero_add]
  · refine .bind (secure_gather _ _ _ _ (by omega)) fun gathered _ => ?_
    cases gathered with
    | none => exact .pure trivial
    | some bytes =>
      exact .ite (fun _ => .bind (secure_changeDisk _) fun _ _ => .pure trivial) fun _ =>
        .bind (secure_changeDisk _) fun _ _ => .pure trivial

theorem secure_transfer (requestType : BitVec 32) (address : PhysAddr) (diskOffset : BitVec 64)
    (length fuel transferred : Nat) (written : BitVec 32) (budget : length - transferred < fuel) :
    Secure (Δ := VirtioBlock σ) (δ := δ) (Sized queueNum)
      (transfer requestType address diskOffset length fuel transferred written)
      fun _ => True := by
  induction fuel generalizing transferred written with
  | zero => exact absurd budget (Nat.not_lt_zero _)
  | succ fuel ih =>
    refine .ite (fun _ => .pure trivial) fun more => ?_
    refine .bind (secure_transferChunk _ _ _ (Nat.min_le_right _ _) _) fun round _ => ?_
    refine .ite (fun _ => .pure trivial) fun _ => .bind (secure_changeDisk _) fun _ _ => ih _ _ ?_
    have positive : 0 < transferBufferSize := Nat.zero_lt_succ _
    omega

theorem secure_transferAll (requestType : BitVec 32) (chain : List Descriptor)
    (fuel index : Nat) (diskOffset : BitVec 64) (written : BitVec 32)
    (budget : chain.length < index + fuel) (some : 0 < fuel) :
    Secure (Δ := VirtioBlock σ) (δ := δ) (Sized queueNum)
      (transferAll requestType chain fuel index diskOffset written) fun _ => True := by
  induction fuel generalizing index diskOffset written with
  | zero => exact absurd some (Nat.lt_irrefl _)
  | succ fuel ih =>
    refine .ite (fun _ => .pure trivial) fun more => ?_
    refine .bind (secure_elementAt (by omega)) fun descriptor _ => ?_
    refine .bind secure_device fun device _ => .ite (fun _ => .pure trivial) fun _ => ?_
    refine .ite (fun _ => .pure trivial) fun _ => ?_
    refine .bind (secure_transfer _ _ _ _ _ _ _ (Nat.lt_succ_self _)) fun data _ => ?_
    exact .ite (fun _ => .pure trivial) fun _ => ih _ _ _ (by omega) (by omega)

/-! ### Requests -/

theorem secure_performData (requestType : BitVec 32) (sector : BitVec 64)
    {chain : List Descriptor} (long : 2 ≤ chain.length) :
    Secure (Δ := VirtioBlock σ) (δ := δ) (Sized queueNum) (performData requestType sector chain)
      fun _ => True :=
  .ite (fun _ => .pure trivial) fun _ => .ite (fun _ => .pure trivial) fun _ =>
    secure_transferAll _ _ _ _ _ _ (by omega) (by omega)

theorem secure_serveChain {chain : List Descriptor} (long : 2 ≤ chain.length) :
    Secure (Δ := VirtioBlock σ) (δ := δ) (Sized queueNum) (serveChain chain) fun _ => True := by
  refine .bind (secure_elementAt (by omega)) fun header _ => ?_
  refine .bind (secure_elementAt (by omega)) fun statusDescriptor _ => ?_
  refine .ite (fun _ => .pure trivial) fun _ => .bind (secure_dmaRead _ _) fun typeResult _ =>
    .bind (secure_dmaRead _ _) fun sectorResult _ => .ite (fun _ => .pure trivial) fun _ =>
      .bind (secure_changeDisk _) fun _ _ => ?_
  refine .bind (secure_performData _ _ long) fun progress _ => ?_
  -- the status is one byte
  exact .bind (secure_dmaWrite AccessWidth.noConfusion _ _) fun _ _ =>
    .bind (secure_changeDisk _) fun _ _ => .pure trivial

theorem secure_processRequest (head : BitVec 16) :
    Secure (Δ := VirtioBlock σ) (δ := δ) (Sized queueNum) (processRequest head)
      fun _ => True := by
  refine .bind secure_device fun device known => .ite (fun _ => .pure trivial) fun _ => ?_
  rw [show device.queueNum = queueNum from known]
  refine .bind (secure_loadLoop _ _ _ _ List.length_replicate rfl) fun chain _ => ?_
  cases chain with
  | none => exact .pure trivial
  | some chain =>
    exact .ite (fun _ => .pure trivial) fun long => secure_serveChain (Nat.le_of_not_lt long)

end

/-! ### The queue -/

theorem safe_completeChain (positive : queueNum ≠ 0) (head : BitVec 16)
    (bytesWritten : BitVec 32) :
    Safe (Δ := VirtioBlock σ) (δ := δ) (Sized queueNum) (completeChain head bytesWritten) := by
  refine .bind secure_device fun before known => ?_
  rw [show before.queueNum = queueNum from known]
  refine .bind (secure_modulo positive _) fun slot _ => ?_
  -- the divisor has been used: nothing depends on what the writes change
  refine .andThen (safe_writeElement _ _ _) fun stored => .ite (fun _ => .pure) fun _ => ?_
  exact .andThen safe_change fun _ => safe_device fun after => safe_dmaWrite _ _ _

section

variable [BlockStorage σ]

theorem safe_processHead (positive : queueNum ≠ 0) (head : BitVec 16) :
    Safe (Δ := VirtioBlock σ) (δ := δ) (Sized queueNum) (processHead head) :=
  .bind (secure_changeDisk _) fun _ _ => .bind (secure_processRequest head) fun written _ =>
    safe_completeChain positive head written

theorem safe_processHeads {pre : VirtioBlock σ × δ → Prop} (availableIndex : BitVec 16)
    (fuel : Nat) (processed : BitVec 16) (budget : processed.toNat + fuel = 2 ^ 16) :
    Exec.Safe pre (processHeads (σ := σ) (δ := δ) availableIndex fuel processed) := by
  induction fuel generalizing processed pre with
  | zero => exact absurd processed.isLt (by omega)
  | succ fuel ih =>
    refine safe_device fun device => .ite (fun _ => .pure) fun going => ?_
    obtain ⟨_, more⟩ := not_or.mp going
    have positive := ne_zero_of_guard more
    refine Exec.Safe.weaken ?_ fun state same =>
      show Sized device.queueNum state.1 from congrArg queueNum same
    refine .bind (secure_modulo positive _) fun slot _ => .bind (secure_dmaRead _ _) fun entry _ =>
      .ite (fun _ => .pure) fun _ => ?_
    refine .andThen (safe_processHead positive _) fun completed =>
      .ite (fun _ => .pure) fun _ => .andThen safe_change fun _ => ih _ ?_
    rw [toNat_succ more]
    omega

theorem safe_tick {pre : VirtioBlock σ × δ → Prop} :
    Exec.Safe pre (tick (σ := σ) (δ := δ)) := by
  refine safe_device fun device => .ite (fun _ => .pure) fun _ => .andThen safe_change fun _ => ?_
  exact safe_device fun device => .ite (fun _ => .pure) fun _ =>
    .andThen (safe_dmaRead _ _) fun available => .ite (fun _ => .pure) fun _ =>
      safe_processHeads _ _ _ rfl

end

end RvEmulator.Devices.VirtioBlock.Reentrant

namespace RvEmulator.Devices

/-- Whatever the guest has put into the registers and into memory, and whatever the device
reaches by direct memory access, its own registers included, every tick of either device
returns. -/
theorem ticks_return {σ ν δ : Type} [BlockStorage σ] [NetworkBackend ν]
    [Surroundings (VirtioBlock σ) δ] [Surroundings (VirtioNet ν) δ] (dma : δ) :
    (∀ device : VirtioBlock σ, ∃ after,
      VirtioBlock.Reentrant.tick (device, dma) = (.ok (), after)) ∧
    ∀ (device : VirtioNet ν) (cycles : BitVec 64), ∃ after,
      VirtioNet.Reentrant.tick cycles (device, dma) = (.ok (), after) := by
  refine ⟨fun device => ?_, fun device cycles => ?_⟩
  · obtain ⟨_, after, returned⟩ := VirtioBlock.Reentrant.safe_tick.returns (device, dma)
    exact ⟨after, returned⟩
  · obtain ⟨_, after, returned⟩ := (VirtioNet.Reentrant.safe_tick cycles).returns (device, dma)
    exact ⟨after, returned⟩

end RvEmulator.Devices
