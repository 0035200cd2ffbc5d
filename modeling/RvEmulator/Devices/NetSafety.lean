import RvEmulator.Devices.NetPacket
import RvEmulator.Devices.NetReentrant

/-! No hazard stops a tick of the network device, whatever its writes reach. -/

namespace RvEmulator.Devices.VirtioNet.Reentrant

open Library Platform Hazardous

variable {ν δ : Type}

/-- What a round knows of the device up to its first write of a whole word. -/
def Known (side : Side) (queue : Queue) (frames : List Frame) (device : VirtioNet ν) : Prop :=
  side.queue device = queue ∧ device.pendingReceiveFrames = frames

variable {side : Side} {queue : Queue} {frames : List Frame}

theorem secure_record (edit : VirtioNetStatistics → VirtioNetStatistics) :
    Secure (Δ := VirtioNet ν) (δ := δ) (Known side queue frames) (record edit) fun _ => True :=
  secure_change fun device known => ⟨by cases side <;> exact known.1, known.2⟩

theorem safe_record {pre : VirtioNet ν × δ → Prop}
    (edit : VirtioNetStatistics → VirtioNetStatistics) : Exec.Safe pre (record edit) :=
  safe_change

section

variable [Surroundings (VirtioNet ν) δ]

theorem secure_loadLoop (fuel : Nat) (count : BitVec 16) (visited : List Bool)
    (current : BitVec 16) (length : visited.length = queue.size.toNat)
    (budget : count.toNat + fuel = 2 ^ 16) :
    Secure (Δ := VirtioNet ν) (δ := δ) (Known side queue frames) (loadLoop side fuel count visited current)
      fun _ => True := by
  induction fuel generalizing count visited current with
  | zero => exact absurd count.isLt (by omega)
  | succ fuel ih =>
    refine .bind secure_device fun device known => ?_
    rw [known.1]
    refine .ite (fun _ => .pure trivial) fun more => .ite (fun _ => .pure trivial) fun inside => ?_
    have inside : current.toNat < queue.size.toNat := BitVec.not_le.mp inside
    refine .bind (secure_elementAt (length ▸ inside)) fun seen _ =>
      .ite (fun _ => .pure trivial) fun _ => ?_
    refine .bind (secure_readDescriptor _ _) fun descriptor _ => ?_
    cases descriptor with
    | none => exact .bind (secure_record _) fun _ _ => .pure trivial
    | some descriptor =>
      refine .ite (fun _ => .pure trivial) fun _ => .bind (ih _ _ _ ?_ ?_) fun _ _ => .pure trivial
      · rw [List.length_set, length]
      · rw [toNat_succ more]
        omega

theorem secure_loadWholeChain (head : BitVec 16) :
    Secure (Δ := VirtioNet ν) (δ := δ) (Known side queue frames) (loadWholeChain side head)
      fun _ => True := by
  refine .bind secure_device fun device known => ?_
  rw [known.1]
  exact .ite (fun _ => .pure trivial) fun _ =>
    secure_loadLoop _ _ _ _ List.length_replicate rfl

theorem secure_readAvailableHead (positive : queue.size ≠ 0) :
    Secure (Δ := VirtioNet ν) (δ := δ) (Known side queue frames) (readAvailableHead side)
      fun _ => True := by
  refine .bind secure_device fun device known => ?_
  rw [known.1]
  exact .bind (secure_modulo positive _) fun slot _ => .bind (secure_dmaRead _ _) fun entry _ =>
    .ite (fun _ => .bind (secure_record _) fun _ _ => .pure trivial) fun _ => .pure trivial

theorem safe_completeChain (positive : queue.size ≠ 0) (head : BitVec 16)
    (bytesWritten : BitVec 32) :
    Safe (Δ := VirtioNet ν) (δ := δ) (Known side queue frames)
      (completeChain side head bytesWritten) := by
  refine .bind secure_device fun before known => ?_
  rw [known.1]
  refine .bind (secure_modulo positive _) fun slot _ => ?_
  -- the divisor has been used: nothing depends on what the writes change
  refine .andThen (safe_writeElement _ _ _) fun stored => ?_
  refine .ite (fun _ => .andThen (safe_record _) fun _ => .pure) fun _ => ?_
  refine safe_device fun after => .andThen (safe_dmaWrite _ _ _) fun index => ?_
  exact .ite (fun _ => .andThen (safe_record _) fun _ => .pure) fun _ =>
    .andThen safe_change fun _ => .pure

theorem secure_gather (address : PhysAddr) (count : Nat) :
    Secure (Δ := VirtioNet ν) (δ := δ) (Known side queue frames) (gather address count)
      fun bytes => ∀ found, bytes = some found → found.length = count := by
  induction count generalizing address with
  | zero => exact .pure fun _ found => by cases found; rfl
  | succ count ih =>
    refine .bind (secure_dmaRead _ _) fun byte _ => .ite (fun _ => .pure fun _ none => ?_)
      fun _ => .bind (ih (address + 1)) fun rest known => .pure fun found same => ?_
    · cases none
    · obtain ⟨others, later, rfl⟩ := Option.map_eq_some_iff.mp same
      rw [List.length_cons, known others later]

theorem secure_gatherChain (chain : List Descriptor) :
    Secure (Δ := VirtioNet ν) (δ := δ) (Known side queue frames) (gatherChain chain)
      fun packet => ∀ found, packet = some found →
        found.length = capacity chain := by
  induction chain with
  | nil => exact .pure fun _ found => by cases found; rfl
  | cons descriptor rest ih =>
    refine .bind (secure_gather _ _) fun bytes length => ?_
    cases bytes with
    | none => exact .pure fun _ none => by cases none
    | some bytes =>
      refine .bind ih fun others known => .pure fun found same => ?_
      obtain ⟨left, later, rfl⟩ := Option.map_eq_some_iff.mp same
      rw [List.length_append, length bytes rfl, known left later]
      rfl

/-! ### Transmission -/

section

variable [NetworkBackend ν]

omit [Surroundings (VirtioNet ν) δ] in
theorem secure_sendPacket {packet : List (BitVec 8)} (headed : netHeaderSize ≤ packet.length) :
    Secure (Δ := VirtioNet ν) (δ := δ) (Known side queue frames) (sendPacket packet)
      fun _ => True := by
  rw [sendPacket, if_neg (Nat.not_lt.mpr headed)]
  refine .bind secure_device fun device _ => ?_
  cases device.backend with
  | none => exact .pure trivial
  | some backend =>
    exact .bind (secure_change fun device known => ⟨by cases side <;> exact known.1, known.2⟩)
      fun _ _ => .pure trivial

theorem secure_transmitChain (chain : List Descriptor) :
    Secure (Δ := VirtioNet ν) (δ := δ) (Known side queue frames) (transmitChain chain)
      fun _ => True := by
  unfold transmitChain
  rw [packetSize_eq chain (Nat.zero_le _)]
  split
  · exact .pure trivial
  rename_i total size
  have length : total = capacity chain := by
    split at size
    · cases size
      exact Nat.zero_add _
    · cases size
  refine .ite (fun _ => .pure trivial) fun headed => .bind (secure_gatherChain chain) ?_
  intro packet known
  cases packet with
  | none => exact .bind (secure_record _) fun _ _ => .pure trivial
  | some packet =>
    refine secure_sendPacket ?_
    rw [known packet rfl, ← length]
    exact Nat.le_of_not_le headed

theorem secure_transmitIfValid (chain : Option (List Descriptor)) :
    Secure (Δ := VirtioNet ν) (δ := δ) (Known side queue frames) (transmitIfValid chain)
      fun _ => True := by
  cases chain with
  | none => exact .pure trivial
  | some chain => exact secure_transmitChain chain

theorem safe_transmitHead (positive : queue.size ≠ 0) (head : BitVec 16) :
    Safe (Δ := VirtioNet ν) (δ := δ) (Known .transmit queue frames) (transmitHead head) :=
  .bind (secure_record _) fun _ _ => .bind (secure_loadWholeChain head) fun chain _ =>
    .bind (secure_transmitIfValid chain) fun _ _ => .bind (secure_record _) fun _ _ =>
      safe_completeChain positive head 0

theorem safe_transmitLoop {pre : VirtioNet ν × δ → Prop} (fuel : Nat) (processed : BitVec 16)
    (budget : processed.toNat + fuel = 2 ^ 16) :
    Exec.Safe pre (transmitLoop (ν := ν) (δ := δ) fuel processed) := by
  induction fuel generalizing processed pre with
  | zero => exact absurd processed.isLt (by omega)
  | succ fuel ih =>
    refine safe_device fun device => .ite (fun _ => .pure) fun more => ?_
    have positive := ne_zero_of_guard more
    have known : ∀ found, found = device →
        Known .transmit device.transmit device.pendingReceiveFrames found := by
      rintro found rfl
      exact ⟨rfl, rfl⟩
    refine Exec.Safe.weaken ?_ fun state same => known state.1 same
    refine .bind (secure_dmaRead _ _) fun available _ => .ite (fun _ => safe_record _) fun _ =>
      .ite (fun _ => .pure) fun _ => .bind (secure_readAvailableHead positive) fun head _ => ?_
    cases head with
    | none => exact .pure
    | some head =>
      refine .andThen (safe_transmitHead positive head) fun completed =>
        .ite (fun _ => .pure) fun _ => .andThen safe_change fun _ => ih _ ?_
      rw [toNat_succ more]
      omega

theorem safe_processTransmitQueue {pre : VirtioNet ν × δ → Prop} :
    Exec.Safe pre (processTransmitQueue (ν := ν) (δ := δ)) :=
  safe_device fun _ => .ite (fun _ => .pure) fun _ => safe_transmitLoop _ _ rfl

end

/-! ### Reception -/

omit [Surroundings (VirtioNet ν) δ] in
theorem secure_front {frame : Frame} {rest : List Frame} :
    Secure (Δ := VirtioNet ν) (δ := δ) (Known side queue (frame :: rest)) front
      fun found => found = frame := by
  refine .bind secure_device fun device known => ?_
  rw [known.2]
  exact .pure rfl

omit [Surroundings (VirtioNet ν) δ] in
theorem secure_packetByte {frame : Frame} {rest : List Frame} {source : Nat}
    (inside : source < netHeaderSize + frame.length) :
    Secure (Δ := VirtioNet ν) (δ := δ) (Known side queue (frame :: rest)) (packetByte source)
      fun _ => True := by
  refine .ite (fun _ => .pure trivial) fun past => .bind secure_front fun found same => ?_
  rw [same]
  exact secure_elementAt (by omega)

theorem secure_fill {frame : Frame} {rest : List Frame} (address : PhysAddr) (count source : Nat) :
    Secure (Δ := VirtioNet ν) (δ := δ) (Known side queue (frame :: rest))
      (fill (netHeaderSize + frame.length) address count source) fun _ => True := by
  induction count generalizing address source with
  | zero => exact .pure trivial
  | succ count ih =>
    refine .ite (fun _ => .pure trivial) fun more => ?_
    refine .bind (secure_packetByte (Nat.lt_of_not_le more)) fun byte _ => ?_
    -- the registers refuse a byte, so that the frame is still pending
    refine .bind (secure_dmaWrite AccessWidth.noConfusion _ _) fun stored _ => ?_
    exact .ite (fun _ => .pure trivial) fun _ => ih _ _

theorem secure_fillChain {frame : Frame} {rest : List Frame} (chain : List Descriptor)
    (source : Nat) :
    Secure (Δ := VirtioNet ν) (δ := δ) (Known side queue (frame :: rest))
      (fillChain (netHeaderSize + frame.length) chain source) fun _ => True := by
  induction chain generalizing source with
  | nil => exact .pure trivial
  | cons descriptor others ih =>
    refine .bind (secure_fill _ _ _) fun filled _ => ?_
    cases filled with
    | none => exact .pure trivial
    | some source => exact ih source

theorem secure_receiveIfValid {frame : Frame} {rest : List Frame}
    (chain : Option (List Descriptor)) :
    Secure (Δ := VirtioNet ν) (δ := δ) (Known side queue (frame :: rest)) (receiveIfValid chain)
      fun _ => True := by
  cases chain with
  | none => exact .pure trivial
  | some chain =>
    refine .bind secure_front fun found same => ?_
    rw [same]
    cases chainCapacity chain 0 with
    | none => exact .pure trivial
    | some room =>
      refine .ite (fun _ => .pure trivial) fun _ => .bind (secure_fillChain chain 0) fun _ _ => ?_
      exact .ite (fun _ => .bind (secure_record _) fun _ _ => .pure trivial) fun _ =>
        .bind (secure_record _) fun _ _ => .pure trivial

omit [Surroundings (VirtioNet ν) δ] in
/-- The first pending frame is there to be taken off. -/
theorem ensures_popFront {frame : Frame} {rest : List Frame} :
    (popFront (ν := ν) (δ := δ)).Ensures (fun state => Known side queue (frame :: rest) state.1)
      (fun _ state => Known side queue rest state.1) fun _ _ => False := by
  refine .bind (secure_device (Δ := VirtioNet ν)) fun device => ?_
  rintro state ⟨known, found⟩
  rw [found.2]
  refine ⟨fun _ same => ?_, fun _ same => by cases same⟩
  exact ⟨by cases side <;> exact known.1, rfl⟩

theorem safe_receiveHead {frame : Frame} {rest : List Frame} (positive : queue.size ≠ 0)
    (head : BitVec 16) :
    Safe (Δ := VirtioNet ν) (δ := δ) (Known .receive queue (frame :: rest)) (receiveHead head) :=
  .bind (secure_record _) fun _ _ => .bind (secure_loadWholeChain head) fun chain _ =>
    .bind (secure_receiveIfValid chain) fun written _ => .bind (secure_record _) fun _ _ =>
      Exec.Ensures.bind ensures_popFront fun _ => safe_completeChain positive head (written.getD 0)

theorem safe_receiveLoop {pre : VirtioNet ν × δ → Prop} (fuel : Nat) (processed : BitVec 16)
    (budget : processed.toNat + fuel = 2 ^ 16) :
    Exec.Safe pre (receiveLoop (ν := ν) (δ := δ) fuel processed) := by
  induction fuel generalizing processed pre with
  | zero => exact absurd processed.isLt (by omega)
  | succ fuel ih =>
    refine safe_device fun device => .ite (fun _ => .pure) fun going => ?_
    obtain ⟨pending, more⟩ := not_or.mp going
    obtain ⟨frame, rest, frames⟩ := List.exists_cons_of_ne_nil pending
    have positive := ne_zero_of_guard more
    have known : ∀ found, found = device →
        Known .receive device.receive (frame :: rest) found := by
      rintro found rfl
      exact ⟨rfl, frames⟩
    refine Exec.Safe.weaken ?_ fun state same => known state.1 same
    refine .bind (secure_dmaRead _ _) fun available _ => .ite (fun _ => safe_record _) fun _ =>
      .ite (fun _ => safe_record _) fun _ =>
        .bind (secure_readAvailableHead positive) fun head _ => ?_
    cases head with
    | none => exact .pure
    | some head =>
      refine .andThen (safe_receiveHead positive head) fun completed =>
        .ite (fun _ => .pure) fun _ => .andThen safe_change fun _ => ih _ ?_
      rw [toNat_succ more]
      omega

theorem safe_processReceiveQueue {pre : VirtioNet ν × δ → Prop} :
    Exec.Safe pre (processReceiveQueue (ν := ν) (δ := δ)) :=
  safe_device fun _ => .ite (fun _ => .pure) fun _ => safe_receiveLoop _ _ rfl

theorem safe_tick [NetworkBackend ν] (cycles : BitVec 64) {pre : VirtioNet ν × δ → Prop} :
    Exec.Safe pre (tick (ν := ν) (δ := δ) cycles) := by
  refine .andThen safe_change fun _ => .andThen (safe_device fun device => ?_) fun _ => ?_
  · exact .ite (fun _ => .andThen safe_change fun _ => .andThen safe_processTransmitQueue fun _ =>
      safe_change) fun _ => .pure
  · exact .andThen safe_change fun _ => safe_device fun device =>
      .ite (fun _ => .pure) fun _ => safe_processReceiveQueue

end

end RvEmulator.Devices.VirtioNet.Reentrant
