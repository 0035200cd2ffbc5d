import RvEmulator.Devices.NetAccounting
import RvEmulator.Devices.NetPacket
import RvEmulator.Devices.Recording
import RvEmulator.Devices.RingMemory

/-! The network device with a record of its memory accesses, and of the frames that it sends. -/

namespace RvEmulator.Devices

open Library Platform

/-! ### Refused completions -/

namespace Access

/-- Whether a byte of a frame was read, for a backend that is attached, or was written. -/
def transfers (attached : Bool) : Access → Bool
  | .read _ width answered => attached && width == .byte && answered
  | .write _ width _ accepted => width == .byte && accepted

/-- Whether a field of a used ring was written. -/
def completes : Access → Bool
  | .read .. => false
  | .write _ width _ accepted => width != .byte && accepted

/-- Whether a write to a used ring was refused. -/
def fails : Access → Bool
  | .read .. => false
  | .write _ width _ accepted => width != .byte && !accepted

end Access

/-- Whether a write to a used ring was refused after a frame had been transferred, with nothing but
writes to that ring in between. -/
def unfinished (attached : Bool) : (transferred : Bool) → List Access → Bool
  | _, [] => false
  | transferred, access :: rest =>
    transferred && access.fails ||
      unfinished attached (access.transfers attached || transferred && access.completes) rest

/-- The last access has transferred the last byte of a frame. -/
def Transferred (attached : Bool) (accesses : List Access) : Prop :=
  ∃ older last, accesses = older ++ [last] ∧ Access.transfers attached last = true

section

variable {attached transferred : Bool} {accesses older newer stores : List Access}

theorem unfinished_append (found : unfinished attached transferred accesses = true)
    (newer : List Access) : unfinished attached transferred (accesses ++ newer) = true := by
  induction accesses generalizing transferred with
  | nil => cases found
  | cons access rest ih =>
    rw [unfinished, Bool.or_eq_true] at found
    rw [List.cons_append, unfinished, Bool.or_eq_true]
    exact found.imp_right ih

theorem unfinished_of_fails {refused : Access}
    (completes : ∀ access ∈ stores, access.completes = true) (fails : refused.fails = true) :
    unfinished attached true (stores ++ [refused]) = true := by
  induction stores with
  | nil => rw [List.nil_append, unfinished, fails, Bool.and_self, Bool.true_or]
  | cons access rest ih =>
    have first := completes access (List.mem_cons_self ..)
    rw [List.cons_append, unfinished, first, Bool.and_self, Bool.or_true, Bool.or_eq_true]
    exact .inr (ih fun other member => completes other (List.mem_cons_of_mem _ member))

theorem unfinished_of_transferred {refused : Access} (done : Transferred attached accesses)
    (completes : ∀ access ∈ stores, access.completes = true) (fails : refused.fails = true)
    (transferred : Bool) :
    unfinished attached transferred (accesses ++ (stores ++ [refused])) = true := by
  obtain ⟨older, last, rfl, transfers⟩ := done
  rw [List.append_assoc]
  induction older generalizing transferred with
  | nil =>
    rw [List.nil_append, List.singleton_append, unfinished, transfers, Bool.true_or,
      Bool.or_eq_true]
    exact .inr (unfinished_of_fails completes fails)
  | cons access rest ih =>
    rw [List.cons_append, unfinished, Bool.or_eq_true]
    exact .inr (ih _)

end

/-- Whatever accesses can lead to. -/
abbrev Reached [DmaAccess δ] (dma after : δ) : Prop := Accessed (fun _ => True) dma after

theorem unfinished_of_reached [DmaAccess δ] {before after : Recorded δ} {attached : Bool}
    (reached : Reached before after) (found : unfinished attached false before.accesses = true) :
    unfinished attached false after.accesses = true := by
  obtain ⟨later, grown, _⟩ := Recorded.accesses_of_accessed reached
  rw [grown]
  exact unfinished_append found later

/-- A backend that keeps a copy of every frame that it is given. -/
structure Copying (ν : Type) where
  backend : ν
  given : List Frame := []

instance [NetworkBackend ν] : NetworkBackend (Copying ν) where
  tickIntervalCycles copying := NetworkBackend.tickIntervalCycles copying.backend
  tick elapsed copying := { copying with backend := NetworkBackend.tick elapsed copying.backend }
  sendFrame frame copying :=
    { backend := NetworkBackend.sendFrame frame copying.backend, given := copying.given ++ [frame] }
  receiveFrame copying :=
    let received := NetworkBackend.receiveFrame copying.backend
    (received.1, { copying with backend := received.2 })
  waiting copying := NetworkBackend.waiting copying.backend
  receiveFrame_waiting received := by
    obtain ⟨first, rfl⟩ := Prod.mk.inj received
    exact NetworkBackend.receiveFrame_waiting (Prod.ext first rfl)

namespace VirtioNet

variable {ν δ : Type} [DmaAccess δ]

/-! ### What the accesses of the device lead to -/

section

variable {dma middle : δ}

theorem reached_loadChain (reached : Reached dma middle) (queue : Queue) (count : Nat)
    (visited : List (BitVec 16)) (current : BitVec 16) (statistics : VirtioNetStatistics) :
    Reached dma (loadChain queue count visited current (statistics, middle)).2.2 := by
  rw [loadChain_follow]
  exact reached.follow queue.rings queue.size count visited current

theorem reached_loadWholeChain (reached : Reached dma middle) (queue : Queue) (head : BitVec 16)
    (statistics : VirtioNetStatistics) :
    Reached dma (loadWholeChain queue head (statistics, middle)).2.2 := by
  unfold loadWholeChain
  split
  · exact reached
  · exact reached_loadChain reached queue _ _ _ _

theorem reached_readAvailableHead (reached : Reached dma middle) (queue : Queue)
    (statistics : VirtioNetStatistics) :
    Reached dma (readAvailableHead queue (statistics, middle)).2.2 := by
  unfold readAvailableHead
  dsimp only
  split <;> exact reached.read

theorem reached_completeChain (reached : Reached dma middle) (queue : Queue) (head : BitVec 16)
    (written : BitVec 32) (statistics : VirtioNetStatistics) :
    Reached dma (completeChain queue head written (statistics, middle)).2.2 := by
  unfold completeChain
  dsimp only
  split
  · exact reached.write trivial
  split
  · exact (reached.write trivial).write trivial
  split <;> exact ((reached.write trivial).write trivial).write trivial

theorem reached_gatherChain (reached : Reached dma middle) (chain : List Descriptor) :
    Reached dma (gatherChain chain middle).2 := by
  induction chain generalizing middle with
  | nil => exact reached
  | cons descriptor rest ih =>
    have first := reached.gather descriptor.address descriptor.length.toNat
    unfold gatherChain
    generalize gather descriptor.address descriptor.length.toNat middle = read at first ⊢
    obtain ⟨_ | bytes, after⟩ := read
    · exact first
    · exact ih first

theorem reached_fill (reached : Reached dma middle) (address : PhysAddr) (count : Nat)
    (bytes : List (BitVec 8)) : Reached dma (fill address count bytes middle).2 := by
  induction count generalizing middle address bytes with
  | zero => exact reached
  | succ count ih =>
    cases bytes with
    | nil => exact reached
    | cons byte rest =>
      unfold fill
      dsimp only
      split
      · exact reached.write trivial
      · exact ih (reached.write trivial) _ _

theorem reached_fillChain (reached : Reached dma middle) (chain : List Descriptor)
    (bytes : List (BitVec 8)) : Reached dma (fillChain chain bytes middle).2 := by
  induction chain generalizing middle bytes with
  | nil => exact reached
  | cons descriptor rest ih =>
    have first := reached_fill reached descriptor.address descriptor.length.toNat bytes
    unfold fillChain
    generalize fill descriptor.address descriptor.length.toNat bytes middle = filled at first ⊢
    obtain ⟨_ | left, after⟩ := filled
    · exact first
    · exact ih first _

theorem reached_receiveIfValid (reached : Reached dma middle) (chain : Option (List Descriptor))
    (frame : Frame) (statistics : VirtioNetStatistics) :
    Reached dma (receiveIfValid chain frame (statistics, middle)).2.2 := by
  unfold receiveIfValid
  cases chain with
  | none => exact reached
  | some chain =>
    dsimp only
    unfold receiveChain
    dsimp only
    split
    · exact reached
    split
    · exact reached
    split <;> exact reached_fillChain reached _ _

theorem reached_receiveServed (reached : Reached dma middle) (device : VirtioNet ν)
    (frame : Frame) (rest : List Frame) :
    Reached dma (receiveServed device frame rest middle).2.2 := by
  unfold receiveServed
  dsimp only
  split
  · exact reached.read
  split
  · exact reached.read
  have begun : Reached dma (DmaAccess.dmaRead (device.receive.rings.availableRing + 2) .halfWord
      middle).2 := reached.read
  have headed := reached_readAvailableHead begun device.receive device.statistics
  generalize readAvailableHead device.receive (device.statistics,
    (DmaAccess.dmaRead (device.receive.rings.availableRing + 2) .halfWord middle).2) = read
    at headed ⊢
  obtain ⟨_ | head, statistics, entered⟩ := read
  · exact headed
  · exact reached_receiveIfValid (reached_loadWholeChain headed _ _ _) _ _ _

theorem reached_receiveNext (reached : Reached dma middle) (device : VirtioNet ν) (frame : Frame)
    (rest : List Frame) : Reached dma (receiveNext device frame rest middle).2.2 := by
  have served := reached_receiveServed reached device frame rest
  rw [receiveNext_served]
  generalize receiveServed device frame rest middle = partly at served ⊢
  obtain ⟨_ | ⟨head, written⟩, device', after⟩ := partly
  · exact served
  have completed := reached_completeChain served device.receive head (written.getD 0)
    device'.statistics
  dsimp only
  generalize completeChain device.receive head (written.getD 0) (device'.statistics, after) = ended
    at completed ⊢
  obtain ⟨_ | queue, statistics, final⟩ := ended <;> exact completed

end

/-- What a round of linked rounds leaves behind leads to what all of them do. -/
theorem Linked.reached {first last : VirtioNet ν × δ} {rounds : List (Round ν δ)}
    (linked : Linked first rounds last)
    (steps : ∀ round ∈ rounds, Reached round.before.2 round.after.2) :
    Reached first.2 last.2 ∧
      ∀ round ∈ rounds, Reached first.2 round.before.2 ∧ Reached round.after.2 last.2 := by
  induction rounds generalizing first with
  | nil =>
    cases linked
    exact ⟨.refl, fun _ member => absurd member List.not_mem_nil⟩
  | cons round rest ih =>
    obtain ⟨rfl, later⟩ := linked
    have here := steps round (List.mem_cons_self ..)
    obtain ⟨whole, others⟩ := ih later fun other member =>
      steps other (List.mem_cons_of_mem _ member)
    refine ⟨here.trans whole, fun other member => ?_⟩
    obtain rfl | member := List.mem_cons.mp member
    · exact ⟨.refl, whole⟩
    · exact ⟨here.trans (others other member).1, (others other member).2⟩

theorem reached_receiveRounds (count : Nat) (device : VirtioNet ν) (dma : δ) :
    Reached dma (receiveLoop count device dma).2.2 ∧
      ∀ round ∈ receiveRounds count device dma,
        Reached dma round.before.2 ∧ Reached round.after.2 (receiveLoop count device dma).2.2 := by
  refine (linked_receiveLoop count device dma).reached fun round member => ?_
  obtain ⟨frame, rest, _, after, _⟩ := mem_receiveRounds member
  rw [after]
  exact reached_receiveNext .refl _ frame rest

/-! ### Transferring frames -/

section

variable {recorded after : Recorded δ}

/-- The bytes that were read, the last of them at the end of the record. -/
theorem gather_transferred {address : PhysAddr} {count : Nat} {bytes : List (BitVec 8)}
    (gathered : gather address count recorded = (some bytes, after)) :
    bytes.length = count ∧ (count = 0 ∧ after = recorded ∨ Transferred true after.accesses) := by
  induction count generalizing address recorded bytes with
  | zero =>
    cases gathered
    exact ⟨rfl, .inl ⟨rfl, rfl⟩⟩
  | succ count ih =>
    unfold gather at gathered
    dsimp only at gathered
    split at gathered
    · cases gathered
    rename_i answered
    rcases found : gather (address + 1) count (DmaAccess.dmaRead address .byte recorded).2 with
      ⟨_ | others, final⟩
    all_goals
      rw [found] at gathered
      cases gathered
    obtain ⟨length, ended⟩ := ih found
    refine ⟨congrArg (· + 1) length, .inr ?_⟩
    obtain ⟨_, rfl⟩ | done := ended
    · refine ⟨recorded.accesses, .read address .byte true, ?_, rfl⟩
      have ok : (DmaAccess.dmaRead address .byte recorded).1.ok = true := by simpa using answered
      change recorded.accesses ++ [Access.read address .byte _] = _
      rw [← ok]
      rfl
    · exact done

theorem gatherChain_transferred {chain : List Descriptor} {bytes : List (BitVec 8)}
    (gathered : gatherChain chain recorded = (some bytes, after)) :
    bytes.length = capacity chain ∧
      (capacity chain = 0 ∧ after = recorded ∨ Transferred true after.accesses) := by
  induction chain generalizing recorded bytes with
  | nil =>
    cases gathered
    exact ⟨rfl, .inl ⟨rfl, rfl⟩⟩
  | cons descriptor rest ih =>
    have sum : capacity (descriptor :: rest) = descriptor.length.toNat + capacity rest := rfl
    unfold gatherChain at gathered
    rcases first : gather descriptor.address descriptor.length.toNat recorded with
      ⟨_ | bytes, middle⟩
    all_goals
      rw [first] at gathered
      dsimp only at gathered
    · cases gathered
    rcases second : gatherChain rest middle with ⟨_ | others, final⟩
    all_goals
      rw [second] at gathered
      cases gathered
    obtain ⟨firstLength, firstEnded⟩ := gather_transferred first
    obtain ⟨restLength, restEnded⟩ := ih second
    rw [sum, List.length_append, firstLength, restLength]
    refine ⟨rfl, ?_⟩
    obtain ⟨none, rfl⟩ | done := restEnded
    · obtain ⟨empty, rfl⟩ | done := firstEnded
      · exact .inl ⟨by omega, rfl⟩
      · exact .inr done
    · exact .inr done

theorem fill_transferred {address : PhysAddr} {count : Nat} {bytes left : List (BitVec 8)}
    (filled : fill address count bytes recorded = (some left, after)) (attached : Bool) :
    (count = 0 ∨ bytes = []) ∧ left = bytes ∧ after = recorded ∨
      Transferred attached after.accesses := by
  induction count generalizing address recorded bytes with
  | zero =>
    cases filled
    exact .inl ⟨.inl rfl, rfl, rfl⟩
  | succ count ih =>
    cases bytes with
    | nil =>
      cases filled
      exact .inl ⟨.inr rfl, rfl, rfl⟩
    | cons byte rest =>
      unfold fill at filled
      dsimp only at filled
      split at filled
      · cases filled
      rename_i accepted
      obtain ⟨_, _, rfl⟩ | done := ih filled
      · refine .inr ⟨recorded.accesses, .write address .byte (byte.setWidth 64) true, ?_, rfl⟩
        have ok : ((DmaAccess.dmaWrite address .byte (byte.setWidth 64) recorded).1 == .none) =
            true := beq_iff_eq.mpr (not_not.mp accepted)
        change recorded.accesses ++ [Access.write address .byte (byte.setWidth 64) _] = _
        rw [← ok]
        rfl
      · exact .inr done

theorem fillChain_transferred {chain : List Descriptor} {bytes : List (BitVec 8)}
    (filled : fillChain chain bytes recorded = (true, after)) (attached : Bool) :
    (capacity chain = 0 ∨ bytes = []) ∧ after = recorded ∨
      Transferred attached after.accesses := by
  induction chain generalizing recorded bytes with
  | nil =>
    cases filled
    exact .inl ⟨.inl rfl, rfl⟩
  | cons descriptor rest ih =>
    have sum : capacity (descriptor :: rest) = descriptor.length.toNat + capacity rest := rfl
    unfold fillChain at filled
    rcases first : fill descriptor.address descriptor.length.toNat bytes recorded with
      ⟨_ | left, middle⟩
    all_goals
      rw [first] at filled
      dsimp only at filled
    · cases filled
    obtain ⟨empty, same⟩ | done := ih filled
    · obtain ⟨short, rfl, rfl⟩ | done := fill_transferred first attached
      · refine .inl ⟨?_, same⟩
        rw [sum]
        grind
      · exact .inr (same ▸ done)
    · exact .inr done

/-- A completion is refused, and the record says so, or guest memory shows it. -/
theorem completeChain_recorded (queue : Queue) (head : BitVec 16) (written : BitVec 32)
    (statistics : VirtioNetStatistics) (recorded : Recorded δ) :
    let ended := completeChain queue head written (statistics, recorded)
    (ended.1 = none ∧ ∃ stores refused, ended.2.2.accesses =
        recorded.accesses ++ (stores ++ [refused]) ∧
      (∀ access ∈ stores, access.completes = true) ∧ refused.fails = true) ∨
    (ended.1 = some { queue with usedIndex := queue.usedIndex + 1 } ∧
      ∀ memory : DmaMemory δ, memory.sound recorded.dma →
        memory.contents ended.2.2.dma = queue.rings.completed queue.size queue.usedIndex head
          written (memory.contents recorded.dma)) := by
  have record : ∀ address width value (before : Recorded δ),
      (DmaAccess.dmaWrite address width value before).2.accesses = before.accesses ++
        [.write address width value ((DmaAccess.dmaWrite address width value before).1 == .none)] :=
    fun _ _ _ _ => rfl
  have stored : ∀ address width value (before : Recorded δ) (memory : DmaMemory δ),
      memory.sound before.dma → (DmaAccess.dmaWrite address width value before).1 = .none →
      memory.sound (DmaAccess.dmaWrite address width value before).2.dma ∧
        memory.contents (DmaAccess.dmaWrite address width value before).2.dma =
          (memory.contents before.dma).put address width.bytes value :=
    fun _ _ _ _ memory sound accepted => ⟨memory.sound_write sound, memory.written sound accepted⟩
  have completes : ∀ {address width value} {fault : BusFault}, width ≠ .byte → fault = .none →
      (Access.write address width value (fault == .none)).completes = true := by
    rintro _ _ _ _ wide rfl
    simpa [Access.completes] using wide
  have fails : ∀ {address width value} {fault : BusFault}, width ≠ .byte → fault ≠ .none →
      (Access.write address width value (fault == .none)).fails = true := by
    intro _ _ _ _ wide refused
    simpa [Access.fails, refused] using wide
  have wide : AccessWidth.word ≠ .byte := by decide
  have half : AccessWidth.halfWord ≠ .byte := by decide
  intro ended
  have whole : ended = completeChain queue head written (statistics, recorded) := rfl
  unfold completeChain at whole
  dsimp only at whole
  have firstRecord := record (queue.rings.usedElement queue.size queue.usedIndex) .word
    (head.setWidth 64) recorded
  have firstStored := stored (queue.rings.usedElement queue.size queue.usedIndex) .word
    (head.setWidth 64) recorded
  generalize DmaAccess.dmaWrite (queue.rings.usedElement queue.size queue.usedIndex) .word
    (head.setWidth 64) recorded = first at whole firstRecord firstStored
  have secondRecord := record (queue.rings.usedElement queue.size queue.usedIndex + 4) .word
    (written.setWidth 64) first.2
  have secondStored := stored (queue.rings.usedElement queue.size queue.usedIndex + 4) .word
    (written.setWidth 64) first.2
  generalize DmaAccess.dmaWrite (queue.rings.usedElement queue.size queue.usedIndex + 4) .word
    (written.setWidth 64) first.2 = second at whole secondRecord secondStored
  have thirdRecord := record (queue.rings.usedRing + 2) .halfWord
    ((queue.usedIndex + 1).setWidth 64) second.2
  have thirdStored := stored (queue.rings.usedRing + 2) .halfWord
    ((queue.usedIndex + 1).setWidth 64) second.2
  generalize DmaAccess.dmaWrite (queue.rings.usedRing + 2) .halfWord
    ((queue.usedIndex + 1).setWidth 64) second.2 = third at whole thirdRecord thirdStored
  rw [firstRecord, List.append_assoc] at secondRecord
  rw [secondRecord, List.append_assoc] at thirdRecord
  rw [whole]
  split
  · rename_i refused
    exact .inl ⟨rfl, [], _, firstRecord, fun _ member => absurd member List.not_mem_nil,
      fails wide refused⟩
  rename_i firstAccepted
  have firstAccepted := not_not.mp firstAccepted
  split
  · rename_i refused
    refine .inl ⟨rfl, _, _, secondRecord, fun access member => ?_, fails wide refused⟩
    exact List.mem_singleton.mp member ▸ completes wide firstAccepted
  rename_i secondAccepted
  have secondAccepted := not_not.mp secondAccepted
  split
  · rename_i refused
    refine .inl ⟨rfl, _, _, thirdRecord, fun access member => ?_, fails half refused⟩
    obtain before | last := List.mem_append.mp member
    · exact List.mem_singleton.mp before ▸ completes wide firstAccepted
    · exact List.mem_singleton.mp last ▸ completes wide secondAccepted
  · rename_i thirdAccepted
    refine .inr ⟨rfl, fun memory sound => ?_⟩
    obtain ⟨sound, first⟩ := firstStored memory sound firstAccepted
    obtain ⟨sound, second⟩ := secondStored memory sound secondAccepted
    obtain ⟨_, third⟩ := thirdStored memory sound (not_not.mp thirdAccepted)
    dsimp only
    rw [third, second, first]
    rfl

/-- A frame that is received is written as a whole. -/
theorem receiveIfValid_transferred {chain : Option (List Descriptor)} {frame : Frame}
    {statistics : VirtioNetStatistics} {written : BitVec 32}
    (received : (receiveIfValid chain frame (statistics, recorded)).1 = some written)
    (attached : Bool) :
    written = BitVec.ofNat 32 (netHeaderSize + frame.length) ∧
      Transferred attached (receiveIfValid chain frame (statistics, recorded)).2.2.accesses := by
  have header : 0 < netHeaderSize := by decide
  unfold receiveIfValid at received ⊢
  cases chain with
  | none => cases received
  | some chain =>
    dsimp only at received ⊢
    unfold receiveChain at received ⊢
    dsimp only at received ⊢
    split at received
    · cases received
    rename_i room fits
    split at received
    · cases received
    rename_i short
    rw [if_neg short]
    rcases filled : fillChain chain (packet frame) recorded with ⟨_ | _, final⟩
    all_goals rw [filled] at received
    · cases received
    cases received
    refine ⟨rfl, ?_⟩
    rw [if_pos rfl]
    obtain ⟨empty, _⟩ | done := fillChain_transferred filled attached
    · exfalso
      obtain none | none := empty
      · have total := capacity_of_chainCapacity fits
        omega
      · have length := congrArg List.length none
        rw [packet, List.length_append, List.length_replicate, List.length_nil] at length
        omega
    · exact done

theorem receiveServed_transferred {device : VirtioNet ν} {frame : Frame} {rest : List Frame}
    {head : BitVec 16} {written : BitVec 32}
    (served : (receiveServed device frame rest recorded).1 = some (head, some written))
    (attached : Bool) :
    written = BitVec.ofNat 32 (netHeaderSize + frame.length) ∧
      Transferred attached (receiveServed device frame rest recorded).2.2.accesses := by
  unfold receiveServed at served ⊢
  dsimp only at served ⊢
  split at served
  · cases served
  rename_i answered
  rw [if_neg answered]
  split at served
  · cases served
  rename_i available
  rw [if_neg available]
  generalize readAvailableHead device.receive (device.statistics,
    (DmaAccess.dmaRead (device.receive.rings.availableRing + 2) .halfWord recorded).2) = read
    at served ⊢
  obtain ⟨_ | found, statistics, entered⟩ := read
  · cases served
  · exact receiveIfValid_transferred (Prod.mk.inj (Option.some.inj served)).2 attached

/-- In the used ring of the guest there is the chain that a frame was written to, and the index
has moved over it. -/
def Round.Published (memory : DmaMemory δ) (round : Round ν (Recorded δ)) : Prop :=
  ∃ frame head, round.popped = [frame] ∧
    round.before.1.receive.rings.elementAt (memory.contents round.after.2.dma)
        (round.before.1.receive.usedIndex.toNat % round.before.1.receive.size.toNat) =
      (head, BitVec.ofNat 32 (netHeaderSize + frame.length)) ∧
    round.before.1.receive.rings.usedIndexAt (memory.contents round.after.2.dma) =
      round.before.1.receive.usedIndex + 1 ∧
    round.after.1.receive.usedIndex = round.before.1.receive.usedIndex + 1

theorem sound_of_reached {memory : DmaMemory δ} (reached : Reached recorded after)
    (sound : memory.sound recorded.dma) : memory.sound after.dma := by
  have whole : (Recorded.memory memory).sound after := Accessed.sound reached sound
  exact whole

/-- A received frame is published, unless its completion is refused. -/
theorem receiveNext_published {memory : DmaMemory δ} (sound : memory.sound recorded.dma)
    {device : VirtioNet ν} {frame : Frame} {rest : List Frame} (some : 0 < device.receive.size.toNat)
    (waiting : device.pendingReceiveFrames = frame :: rest) (attached : Bool) :
    let next := receiveNext device frame rest recorded
    let round : Round ν (Recorded δ) := { before := (device, recorded), after := next.2 }
    round.received = true → round.Published memory ∨
      unfinished attached false next.2.2.accesses = true := by
  intro next round received
  obtain ⟨_, _, counted⟩ := receiveNext_settled waiting recorded
  obtain ⟨popped, head, written, served⟩ := counted received
  obtain ⟨rfl, done⟩ := receiveServed_transferred served attached
  have reached : Reached recorded (receiveServed device frame rest recorded).2.2 :=
    reached_receiveServed .refl device frame rest
  have spec := receiveServed_spec device frame rest recorded
  have ended : next = _ := receiveNext_served device frame rest recorded
  rcases found : receiveServed device frame rest recorded with ⟨_, partly, after⟩
  rw [found] at served done reached spec ended
  obtain rfl := served
  obtain ⟨none, _⟩ | ⟨_, _, _, _, receive, _⟩ := spec
  · cases none
  dsimp only at done reached receive ended
  rw [Option.getD_some] at ended
  have completion := completeChain_recorded device.receive head
    (BitVec.ofNat 32 (netHeaderSize + frame.length)) partly.statistics after
  generalize completeChain device.receive head
    (BitVec.ofNat 32 (netHeaderSize + frame.length)) (partly.statistics, after) = completed
    at completion ended
  obtain ⟨queue, statistics, final⟩ := completed
  dsimp only at completion
  obtain ⟨rfl, stores, refused, grown, completes, fails⟩ | ⟨rfl, written⟩ := completion
  · right
    rw [ended]
    dsimp only
    rw [grown]
    exact unfinished_of_transferred done completes fails false
  · left
    have contents := written memory (sound_of_reached reached sound)
    refine ⟨frame, head.setWidth 32, popped, ?_, ?_, ?_⟩
    all_goals
      simp only [round, ended]
    · rw [contents]
      exact Rings.elementAt_completed _ some _ _ _ _
    · rw [contents]
      exact Rings.usedIndexAt_completed _ _ _ _ _ _
    · rfl

/-- What the rounds of reception publish. -/
theorem published_receiveRounds {memory : DmaMemory δ} (sound : memory.sound recorded.dma)
    {count : Nat} {device : VirtioNet ν} (some : 0 < device.receive.size.toNat) (attached : Bool)
    {round : Round ν (Recorded δ)} (member : round ∈ receiveRounds count device recorded)
    (received : round.received = true) :
    round.Published memory ∨
      unfinished attached false (receiveLoop count device recorded).2.2.accesses = true := by
  obtain ⟨before, rest⟩ := (reached_receiveRounds count device recorded).2 round member
  obtain ⟨frame, others, waiting, after, size⟩ := mem_receiveRounds member
  have here := receiveNext_published (sound_of_reached before sound) (size ▸ some) waiting attached
  obtain ⟨start, last⟩ := round
  dsimp only at after here received rest
  rw [← after] at here
  exact (here received).imp_right (unfinished_of_reached rest)

end

/-! ### Sending frames -/

/-- The frames that the backend was given. -/
def given (device : VirtioNet (Copying ν)) : List Frame := device.backend.elim [] (·.given)

/-- The frames that were given to the backend in a round. -/
def Round.given (round : Round (Copying ν) δ) : List Frame :=
  round.after.1.given.drop round.before.1.given.length

section

variable [NetworkBackend ν] {recorded after : Recorded δ}

theorem reached_transmitIfValid {dma middle : δ} (reached : Reached dma middle)
    (device : VirtioNet ν) (chain : Option (List Descriptor)) :
    Reached dma (transmitIfValid device chain middle).2.2 := by
  unfold transmitIfValid
  cases chain with
  | none => exact reached
  | some chain =>
    dsimp only
    unfold transmitChain
    split
    · exact reached
    split
    · exact reached
    have gathered := reached_gatherChain reached chain
    split
    · rename_i read
      rw [read] at gathered
      exact gathered
    · rename_i read
      rw [read] at gathered
      dsimp only
      split <;> exact gathered

theorem reached_transmitServed {dma middle : δ} (reached : Reached dma middle)
    (device : VirtioNet ν) : Reached dma (transmitServed device middle).2.2 := by
  unfold transmitServed
  dsimp only
  split
  · exact reached.read
  split
  · exact reached.read
  have begun : Reached dma (DmaAccess.dmaRead (device.transmit.rings.availableRing + 2) .halfWord
      middle).2 := reached.read
  have headed := reached_readAvailableHead begun device.transmit device.statistics
  generalize readAvailableHead device.transmit (device.statistics,
    (DmaAccess.dmaRead (device.transmit.rings.availableRing + 2) .halfWord middle).2) = read
    at headed ⊢
  obtain ⟨_ | head, statistics, entered⟩ := read
  · exact headed
  · exact reached_transmitIfValid (reached_loadWholeChain headed _ _ _) _ _

theorem reached_transmitNext {dma middle : δ} (reached : Reached dma middle)
    (device : VirtioNet ν) : Reached dma (transmitNext device middle).2.2 := by
  have served := reached_transmitServed reached device
  rw [transmitNext_served]
  generalize transmitServed device middle = partly at served ⊢
  obtain ⟨_ | ⟨head, sent⟩, device', after⟩ := partly
  · exact served
  have completed := reached_completeChain served device.transmit head 0 device'.statistics
  dsimp only
  generalize completeChain device.transmit head 0 (device'.statistics, after) = ended
    at completed ⊢
  obtain ⟨_ | queue, statistics, final⟩ := ended <;> exact completed

theorem transmitIfValid_given (device : VirtioNet (Copying ν)) (chain : Option (List Descriptor))
    (recorded : Recorded δ) :
    let sent := transmitIfValid device chain recorded
    sent.2.1.backend.isSome = device.backend.isSome ∧
      (sent.2.1.given = device.given ∨ (∃ frame, sent.2.1.given = device.given ++ [frame]) ∧
        Transferred device.backend.isSome sent.2.2.accesses) := by
  intro sent
  have whole : sent = transmitIfValid device chain recorded := rfl
  unfold transmitIfValid at whole
  cases chain with
  | none =>
    rw [whole]
    exact ⟨rfl, .inl rfl⟩
  | some chain =>
    dsimp only at whole
    unfold transmitChain at whole
    rw [whole]
    split
    · exact ⟨rfl, .inl rfl⟩
    rename_i total size
    split
    · exact ⟨rfl, .inl rfl⟩
    rename_i long
    split
    · exact ⟨rfl, .inl rfl⟩
    rename_i packet after gathered
    dsimp only
    split
    · exact ⟨rfl, .inl rfl⟩
    rename_i backend attached
    refine ⟨by rw [attached]; rfl, .inr ⟨⟨packet.drop netHeaderSize, ?_⟩, ?_⟩⟩
    · unfold VirtioNet.given
      rw [attached]
      rfl
    · rw [attached]
      obtain ⟨_, ⟨empty, _⟩ | done⟩ := gatherChain_transferred gathered
      · rw [packetSize_eq chain (Nat.zero_le _), empty] at size
        split at size
        · obtain rfl := Option.some.inj size
          exact absurd (Nat.zero_le _) long
        · cases size
      · exact done

theorem transmitServed_given (device : VirtioNet (Copying ν)) (recorded : Recorded δ) :
    let served := transmitServed device recorded
    served.2.1.backend.isSome = device.backend.isSome ∧
      (served.2.1.given = device.given ∨ served.1.isSome = true ∧
        (∃ frame, served.2.1.given = device.given ++ [frame]) ∧
        Transferred device.backend.isSome served.2.2.accesses) := by
  intro served
  have whole : served = transmitServed device recorded := rfl
  unfold transmitServed at whole
  dsimp only at whole
  rw [whole]
  split
  · exact ⟨rfl, .inl rfl⟩
  split
  · exact ⟨rfl, .inl rfl⟩
  generalize readAvailableHead device.transmit (device.statistics,
    (DmaAccess.dmaRead (device.transmit.rings.availableRing + 2) .halfWord recorded).2) = read
  obtain ⟨_ | head, statistics, entered⟩ := read
  · exact ⟨rfl, .inl rfl⟩
  dsimp only
  generalize loadWholeChain device.transmit head (countChain statistics, entered) = loaded
  obtain ⟨same, sent⟩ := transmitIfValid_given { device with statistics := loaded.2.1 } loaded.1
    loaded.2.2
  exact ⟨same, sent.imp_right fun ⟨frame, done⟩ => ⟨rfl, frame, done⟩⟩

/-- At most one frame is sent in a round, and then the chain is taken, unless its completion is
refused. -/
structure Round.Sends (round : Round (Copying ν) (Recorded δ)) : Prop where
  attached : round.after.1.backend.isSome = round.before.1.backend.isSome
  given : round.after.1.given = round.before.1.given ++ round.given
  once : round.given.length ≤ 1
  taken : round.given ≠ [] → round.taken = 1 ∨
    unfinished round.before.1.backend.isSome false round.after.2.accesses = true

omit [DmaAccess δ] [NetworkBackend ν] in
theorem Round.given_eq {round : Round (Copying ν) δ} {frames : List Frame}
    (given : round.after.1.given = round.before.1.given ++ frames) : round.given = frames := by
  rw [Round.given, given, List.drop_left]

theorem sends_transmitNext (device : VirtioNet (Copying ν)) (recorded : Recorded δ) :
    Round.Sends { before := (device, recorded), after := (transmitNext device recorded).2 } := by
  obtain ⟨attached, sent⟩ := transmitServed_given device recorded
  have same := (sameReceive_transmitServed device recorded).2
  have ended := transmitNext_served device recorded
  generalize transmitNext device recorded = next at ended ⊢
  generalize transmitServed device recorded = served at attached sent same ended
  obtain ⟨_ | ⟨head, flag⟩, partly, after⟩ := served
  all_goals dsimp only at attached sent same ended
  · obtain unsent | ⟨found, _⟩ := sent
    · have none : Round.given { before := (device, recorded), after := (partly, after) } = [] :=
        Round.given_eq (unsent.trans (List.append_nil _).symm)
      rw [ended]
      refine ⟨attached, ?_, ?_, fun some => absurd none some⟩
      · rw [none, List.append_nil]
        exact unsent
      · rw [none]
        exact Nat.zero_le _
    · cases found
  have completion := completeChain_recorded device.transmit head 0 partly.statistics after
  generalize completeChain device.transmit head 0 (partly.statistics, after) = completed
    at completion ended
  obtain ⟨queue, statistics, final⟩ := completed
  dsimp only at completion
  -- neither the backend nor what it was given changes any more
  have kept : next.2.1.backend = partly.backend := by
    rw [ended]
    cases queue <;> rfl
  have givenKept : next.2.1.given = partly.given := by
    unfold VirtioNet.given
    rw [kept]
  have isSome : next.2.1.backend.isSome = device.backend.isSome := by rw [kept, attached]
  obtain unsent | ⟨_, ⟨frame, sent⟩, done⟩ := sent
  · have none : Round.given { before := (device, recorded), after := next.2 } = [] :=
      Round.given_eq ((givenKept.trans unsent).trans (List.append_nil _).symm)
    refine ⟨isSome, ?_, ?_, fun some => absurd none some⟩
    · rw [none, List.append_nil]
      exact givenKept.trans unsent
    · rw [none]
      exact Nat.zero_le _
  · have one : Round.given { before := (device, recorded), after := next.2 } = [frame] :=
      Round.given_eq (givenKept.trans sent)
    refine ⟨isSome, ?_, ?_, fun _ => ?_⟩
    · rw [one]
      exact givenKept.trans sent
    · rw [one]
      exact Nat.le_refl _
    · obtain ⟨rfl, stores, refused, grown, completes, fails⟩ | ⟨rfl, _⟩ := completion
      · right
        rw [ended]
        dsimp only
        rw [grown]
        exact unfinished_of_transferred done completes fails false
      · left
        rw [Round.taken, ended]
        change (device.transmit.lastAvailableIndex + 1 -
          device.transmit.lastAvailableIndex).toNat = 1
        rw [BitVec.add_comm, BitVec.add_sub_cancel]
        rfl

theorem sends_transmitRounds {count : Nat} {device : VirtioNet (Copying ν)} {recorded : Recorded δ}
    {round : Round (Copying ν) (Recorded δ)}
    (member : round ∈ transmitRounds count device recorded) : round.Sends := by
  have after := mem_transmitRounds member
  obtain ⟨before, last⟩ := round
  dsimp only at after
  rw [after]
  exact sends_transmitNext before.1 before.2

omit [DmaAccess δ] [NetworkBackend ν] in
/-- The frames of linked rounds are all that the backend is given. -/
theorem Linked.given {first last : VirtioNet (Copying ν) × Recorded δ}
    {rounds : List (Round (Copying ν) (Recorded δ))} (linked : Linked first rounds last)
    (sends : ∀ round ∈ rounds, round.Sends) :
    last.1.backend.isSome = first.1.backend.isSome ∧
      last.1.given = first.1.given ++ rounds.flatMap (·.given) ∧
      ∀ round ∈ rounds, round.before.1.backend.isSome = first.1.backend.isSome := by
  induction rounds generalizing first with
  | nil =>
    cases linked
    exact ⟨rfl, (List.append_nil _).symm, fun _ member => absurd member List.not_mem_nil⟩
  | cons round rest ih =>
    obtain ⟨rfl, later⟩ := linked
    obtain ⟨same, given, _, _⟩ := sends round (List.mem_cons_self ..)
    obtain ⟨attached, others, befores⟩ := ih later fun other member =>
      sends other (List.mem_cons_of_mem _ member)
    refine ⟨attached.trans same, ?_, fun other member => ?_⟩
    · rw [others, given, List.flatMap_cons, List.append_assoc]
    · obtain rfl | member := List.mem_cons.mp member
      · rfl
      · exact (befores other member).trans same

end

/-! ### Ticks -/

section

variable [NetworkBackend ν]

omit [DmaAccess δ] in
theorem given_takeFrames (backend : Copying ν) (pending : List Frame)
    (statistics : VirtioNetStatistics) :
    (takeFrames backend pending statistics).2.2.2.given = backend.given := by
  have kept : ∀ {backend rest : Copying ν} {frame : Option Frame},
      NetworkBackend.receiveFrame backend = (frame, rest) → rest.given = backend.given :=
    fun received => congrArg (·.2.given) received.symm
  fun_induction takeFrames backend pending statistics with
  | case1 => rfl
  | case2 backend pending statistics room rest received => exact kept received
  | case3 backend pending statistics room frame rest received _ unfit ih =>
    exact ih.trans (kept received)
  | case4 backend pending statistics room frame rest received _ fit pending' others ih =>
    exact ih.trans (kept received)

omit [DmaAccess δ] in
/-- Polling gives nothing to the backend. -/
theorem given_collectBackendFrames (device : VirtioNet (Copying ν)) (cycles : BitVec 64)
    (forced : Bool) :
    (collectBackendFrames device cycles forced).2.backend.isSome = device.backend.isSome ∧
      (collectBackendFrames device cycles forced).2.given = device.given := by
  unfold collectBackendFrames VirtioNet.given
  split
  · exact ⟨rfl, rfl⟩
  rename_i backend attached
  dsimp only
  rw [attached]
  split
  · exact ⟨rfl, rfl⟩
  · exact ⟨rfl, given_takeFrames _ _ _⟩

/-- The rounds of transmission in a tick, from the device that has polled its backend. -/
theorem linked_sending (device : VirtioNet ν) (cycles : BitVec 64) (dma : δ) :
    let polled := (collectBackendFrames { device with backendPollRequested := false } cycles
      device.backendPollRequested).2
    ∃ first last, Linked first (sending device cycles dma) last ∧ first.2 = dma ∧
      first.1.backend = polled.backend ∧ first.1.transmit.lastAvailableIndex =
        device.transmit.lastAvailableIndex ∧
      last.1.backend = (pollAndTransmit device cycles dma).2.1.backend ∧
      last.2 = (pollAndTransmit device cycles dma).2.2 := by
  have admits := admits_collectBackendFrames device cycles
  unfold sending pollAndTransmit
  dsimp only
  generalize collectBackendFrames { device with backendPollRequested := false } cycles
    device.backendPollRequested = collected at admits ⊢
  obtain ⟨kept, polled⟩ := collected
  have index := congrArg (·.lastAvailableIndex) admits.transmit
  dsimp only at index ⊢
  by_cases notified : polled.transmit.notificationPending = true
  · unfold processTransmitQueue
    simp only [notified, true_and, if_true]
    by_cases configured : queueConfigured { polled with
        transmit := { polled.transmit with notificationPending := false } }
        { polled.transmit with notificationPending := false } = true
    · simp only [configured, if_true, Bool.not_true, Bool.false_eq_true, if_false]
      exact ⟨_, _, linked_transmitLoop _ _ dma, rfl, rfl, index, rfl, rfl⟩
    · simp only [configured, Bool.not_false, if_true, Bool.false_eq_true, if_false]
      exact ⟨({ polled with
        transmit := { polled.transmit with notificationPending := false } }, dma), _, rfl, rfl,
        rfl, index, rfl, rfl⟩
  · simp only [notified, false_and, if_false, Bool.false_eq_true]
    exact ⟨(polled, dma), _, rfl, rfl, rfl, index, rfl, rfl⟩

theorem mem_sending {device : VirtioNet ν} {cycles : BitVec 64} {dma : δ} {round : Round ν δ}
    (member : round ∈ sending device cycles dma) :
    round.after = (transmitNext round.before.1 round.before.2).2 := by
  unfold sending at member
  dsimp only at member
  split at member
  · exact mem_transmitRounds member
  · exact absurd member List.not_mem_nil

theorem settled_receiving {device : VirtioNet ν} {cycles : BitVec 64} {dma : δ}
    {round : Round ν δ} (member : round ∈ receiving device cycles dma) : round.Settled := by
  unfold receiving at member
  dsimp only at member
  split at member
  · exact settled_receiveRounds member
  · exact absurd member List.not_mem_nil

theorem reached_pollAndTransmit (device : VirtioNet ν) (cycles : BitVec 64) (dma : δ) :
    Reached dma (pollAndTransmit device cycles dma).2.2 ∧
      ∀ round ∈ sending device cycles dma,
        Reached round.after.2 (pollAndTransmit device cycles dma).2.2 := by
  obtain ⟨first, last, linked, rfl, _, _, _, same⟩ := linked_sending device cycles dma
  obtain ⟨whole, rounds⟩ := linked.reached fun round member => by
    rw [mem_sending member]
    exact reached_transmitNext .refl _
  rw [← same]
  exact ⟨whole, fun round member => (rounds round member).2⟩

omit [NetworkBackend ν] in
/-- What a device that waits for frames does with them. -/
theorem processReceiveQueue_rounds (kept : List Frame) (waiting : VirtioNet ν) (dma : δ) :
    let ended := if waiting.pendingReceiveFrames.isEmpty then
        ((kept, ([] : List Delivery)), waiting, dma)
      else ((kept, (processReceiveQueue waiting dma).1), (processReceiveQueue waiting dma).2)
    let rounds := if waiting.queueConfigured waiting.receive = true then
      receiveRounds waiting.receive.size.toNat waiting dma else []
    ended.2.1.backend = waiting.backend ∧
      (ended.2.2 = dma ∧ rounds = [] ∨
        0 < waiting.receive.size.toNat ∧
          rounds = receiveRounds waiting.receive.size.toNat waiting dma ∧
          ended.2.2 = (receiveLoop waiting.receive.size.toNat waiting dma).2.2) := by
  intro ended rounds
  have whole : ended = if waiting.pendingReceiveFrames.isEmpty then
        ((kept, ([] : List Delivery)), waiting, dma)
      else ((kept, (processReceiveQueue waiting dma).1), (processReceiveQueue waiting dma).2) := rfl
  have all : rounds = if waiting.queueConfigured waiting.receive = true then
      receiveRounds waiting.receive.size.toNat waiting dma else [] := rfl
  have backend := backend_receiveLoop waiting.receive.size.toNat waiting dma
  have loop := linked_receiveLoop waiting.receive.size.toNat waiting dma
  unfold processReceiveQueue at whole
  by_cases configured : waiting.queueConfigured waiting.receive = true
  · have positive : 0 < waiting.receive.size.toNat := by
      refine Nat.pos_of_ne_zero fun zero => ?_
      have none : waiting.receive.size = 0 := BitVec.eq_of_toNat_eq zero
      simp [queueConfigured, none] at configured
    simp only [configured, if_true, Bool.not_true, Bool.false_eq_true, if_false] at whole all
    by_cases empty : waiting.pendingReceiveFrames.isEmpty = true
    · rw [if_pos empty] at whole
      rw [whole]
      refine ⟨rfl, .inr ⟨positive, all, ?_⟩⟩
      rw [receiveLoop_of_none (List.isEmpty_iff.mp empty)]
    · rw [if_neg empty] at whole
      rw [whole]
      exact ⟨backend, .inr ⟨positive, all, rfl⟩⟩
  · simp only [configured, Bool.not_false, if_true, Bool.false_eq_true, if_false, ite_self]
      at whole all
    rw [whole]
    exact ⟨rfl, .inl ⟨rfl, all⟩⟩

/-- How a tick ends after its transmission. -/
theorem tick_received (device : VirtioNet ν) (cycles : BitVec 64) (dma : δ) :
    (device.tick cycles dma).2.1.backend = (pollAndTransmit device cycles dma).2.1.backend ∧
      ((device.tick cycles dma).2.2 = (pollAndTransmit device cycles dma).2.2 ∧
          receiving device cycles dma = [] ∨
        ∃ waiting : VirtioNet ν, 0 < waiting.receive.size.toNat ∧
          receiving device cycles dma = receiveRounds waiting.receive.size.toNat waiting
            (pollAndTransmit device cycles dma).2.2 ∧
          (device.tick cycles dma).2.2 = (receiveLoop waiting.receive.size.toNat waiting
            (pollAndTransmit device cycles dma).2.2).2.2) := by
  obtain ⟨backend, ended⟩ := processReceiveQueue_rounds (pollAndTransmit device cycles dma).1
    { (pollAndTransmit device cycles dma).2.1 with
      receive := { (pollAndTransmit device cycles dma).2.1.receive with
        notificationPending := false } } (pollAndTransmit device cycles dma).2.2
  exact ⟨backend, ended.imp_right fun received => ⟨_, received⟩⟩

/-- What a tick over recorded memory gives to the backend, and to the guest. -/
structure Recounted (memory : DmaMemory δ) (device : VirtioNet (Copying ν)) (cycles : BitVec 64)
    (dma : δ) : Prop where
  given : (device.tick cycles (Recorded.start dma)).2.1.given = device.given ++
    (sending device cycles (Recorded.start dma)).flatMap (·.given)
  once : ∀ round ∈ sending device cycles (Recorded.start dma), round.given.length ≤ 1
  taken : ∀ round ∈ sending device cycles (Recorded.start dma), round.given ≠ [] →
    round.taken = 1 ∨ unfinished device.backend.isSome false
      (device.tick cycles (Recorded.start dma)).2.2.accesses = true
  published : ∀ round ∈ receiving device cycles (Recorded.start dma), round.received = true →
    round.Published memory ∨ unfinished device.backend.isSome false
      (device.tick cycles (Recorded.start dma)).2.2.accesses = true

theorem recounted_tick {memory : DmaMemory δ} (device : VirtioNet (Copying ν)) (cycles : BitVec 64)
    {dma : δ} (sound : memory.sound dma) : Recounted memory device cycles dma := by
  obtain ⟨first, last, linked, _, polled, _, sent, _⟩ :=
    linked_sending device cycles (Recorded.start dma)
  obtain ⟨attachedPolled, givenPolled⟩ := given_collectBackendFrames
    { device with backendPollRequested := false } cycles device.backendPollRequested
  have sends : ∀ round ∈ sending device cycles (Recorded.start dma), round.Sends := by
    intro round member
    have after := mem_sending member
    obtain ⟨before, last⟩ := round
    dsimp only at after
    rw [after]
    exact sends_transmitNext before.1 before.2
  obtain ⟨_, given, befores⟩ := linked.given sends
  obtain ⟨prefixed, transmitted⟩ := reached_pollAndTransmit device cycles (Recorded.start dma)
  obtain ⟨backend, ended⟩ := tick_received device cycles (Recorded.start dma)
  have received : Reached (pollAndTransmit device cycles (Recorded.start dma)).2.2
      (device.tick cycles (Recorded.start dma)).2.2 := by
    obtain ⟨same, _⟩ | ⟨waiting, _, _, same⟩ := ended
    · rw [same]
      exact .refl
    · rw [same]
      exact (reached_receiveRounds _ _ _).1
  refine ⟨?_, fun round member => (sends round member).once, ?_, ?_⟩
  · have whole : (device.tick cycles (Recorded.start dma)).2.1.given = last.1.given := by
      unfold VirtioNet.given
      rw [backend, sent]
    have start : first.1.given = device.given := by
      unfold VirtioNet.given at givenPolled ⊢
      rw [polled]
      exact givenPolled
    rw [whole, given, start]
  · intro round member some
    have attached : round.before.1.backend.isSome = device.backend.isSome := by
      rw [befores round member, polled]
      exact attachedPolled
    have taken := (sends round member).taken some
    rw [attached] at taken
    exact taken.imp_right fun found =>
      unfinished_of_reached ((transmitted round member).trans received) found
  · intro round member counted
    obtain ⟨_, none⟩ | ⟨waiting, some, rounds, same⟩ := ended
    · rw [none] at member
      exact absurd member List.not_mem_nil
    · rw [rounds] at member
      rw [same]
      exact published_receiveRounds (sound_of_reached prefixed sound) some _ member counted

end

end VirtioNet

end RvEmulator.Devices
