import RvEmulator.Devices.NetFaults
import RvEmulator.Devices.NetPacket
import RvEmulator.Devices.NetReceive

/-! Chains that the network device sends from, one after the other. -/

namespace RvEmulator.Devices.VirtioNet

open Library Platform

variable {ν δ : Type} [DmaAccess δ] [NetworkBackend ν]

/-- The heads of the chains that a loop of transmission completes. -/
def transmitHeads : (count : Nat) → VirtioNet ν → δ → List (BitVec 16)
  | 0, _, _ => []
  | count + 1, device, dma =>
    match (transmitServed device dma).1 with
    | none => []
    | some (head, _) =>
      let next := transmitNext device dma
      if next.1 then head :: transmitHeads count next.2.1 next.2.2 else []

section

variable {memory : DmaMemory δ} {size : BitVec 16} {rings : Rings} {count : Nat}
  {device : VirtioNet ν} {dma : δ}

/-- What becomes of an available chain: its frame is sent once, if it has one, and the used
ring shows the chain with length zero. -/
structure Sent (memory : DmaMemory δ) (size : BitVec 16) (rings : Rings) (index : Nat)
    (before : VirtioNet ν × δ) (head : BitVec 16) (after : VirtioNet ν × δ) : Prop where
  place : head = rings.headAt (memory.contents before.2) (index % size.toNat)
  sent : ∀ chain backend, rings.validChain size (memory.contents before.2) head = some chain →
    Sendable chain → before.1.backend = some backend →
    after.1.backend =
        some (NetworkBackend.sendFrame (frameOf chain (memory.contents before.2)) backend) ∧
      after.1.statistics.droppedTransmitFrames = before.1.statistics.droppedTransmitFrames
  dropped : (∀ chain, rings.validChain size (memory.contents before.2) head = some chain →
      ¬Sendable chain) →
    after.1.backend = before.1.backend ∧
      after.1.statistics.droppedTransmitFrames = before.1.statistics.droppedTransmitFrames + 1
  element : rings.elementAt (memory.contents after.2) (index % size.toNat) = (head.setWidth 32, 0)
  elements : ∀ slot < size.toNat, slot ≠ index % size.toNat →
    rings.elementAt (memory.contents after.2) slot = rings.elementAt (memory.contents before.2) slot
  usedIndex : rings.usedIndexAt (memory.contents after.2) = BitVec.ofNat 16 (index + 1)
  outside : ∀ address, ¬rings.InUsed size address →
    memory.contents after.2 address = memory.contents before.2 address

/-- Available chains are handled one after the other. -/
inductive Sends (memory : DmaMemory δ) (size : BitVec 16) (rings : Rings) :
    Nat → VirtioNet ν × δ → List (BitVec 16) → VirtioNet ν × δ → Prop where
  | nil {index : Nat} {before after : VirtioNet ν × δ} : after.1.backend = before.1.backend →
      after.1.statistics.droppedTransmitFrames = before.1.statistics.droppedTransmitFrames →
      memory.contents after.2 = memory.contents before.2 →
      Sends memory size rings index before [] after
  | cons {index : Nat} {before middle after : VirtioNet ν × δ} {head : BitVec 16}
      {heads : List (BitVec 16)} : Sent memory size rings index before head middle →
      Sends memory size rings (index + 1) middle heads after →
      Sends memory size rings index before (head :: heads) after

/-- The transmit side of the device after `count` chains were handled. -/
structure Sending (memory : DmaMemory δ) (size : BitVec 16) (rings : Rings) (count : Nat)
    (device : VirtioNet ν) (dma : δ) : Prop where
  size : device.transmit.size = size
  placed : device.transmit.rings = rings
  configured : device.queueConfigured device.transmit = true
  lastAvailableIndex : device.transmit.lastAvailableIndex = BitVec.ofNat 16 count
  usedIndex : device.transmit.usedIndex = BitVec.ofNat 16 count
  attached : device.backend.isSome = true
  sound : memory.sound dma

/-- The buffers of the chain of a head can be read, if its frame is to be sent. -/
def Readable (memory : DmaMemory δ) (size : BitVec 16) (rings : Rings) (contents : Memory)
    (head : BitVec 16) : Prop :=
  ∀ chain, rings.validChain size contents head = some chain → Sendable chain →
    ∀ address ∈ addresses chain, memory.answers address .byte

/-- The frame of a chain is sent, or it is not. -/
theorem transmitIfValid_eq (sound : memory.sound dma) (device : VirtioNet ν)
    (attached : device.backend.isSome = true) {chain : Option (List Descriptor)}
    (answers : ∀ found, chain = some found → Sendable found →
      ∀ address ∈ addresses found, memory.answers address .byte) :
    ∃ sent ended after, transmitIfValid device chain dma = (sent, ended, after) ∧
      memory.sound after ∧ memory.contents after = memory.contents dma ∧
      ended.transmit = device.transmit ∧ ended.guestPageSize = device.guestPageSize ∧
      ended.backend.isSome = true ∧
      ended.statistics.droppedTransmitFrames = device.statistics.droppedTransmitFrames ∧
      (∀ found backend, chain = some found → Sendable found → device.backend = some backend →
        sent = true ∧ ended.backend = some (NetworkBackend.sendFrame
          (frameOf found (memory.contents dma)) backend)) ∧
      ((∀ found, chain = some found → ¬Sendable found) →
        sent = false ∧ ended.backend = device.backend) := by
  unfold transmitIfValid
  cases chain with
  | none =>
    refine ⟨false, device, dma, rfl, sound, rfl, rfl, rfl, attached, rfl, ?_, fun _ => ⟨rfl, rfl⟩⟩
    exact fun found backend none => by cases none
  | some chain =>
    dsimp only
    by_cases sendable : Sendable chain
    · obtain ⟨backend, present⟩ := Option.isSome_iff_exists.mp attached
      obtain ⟨statistics, after, sent, soundAfter, sameAfter, dropped⟩ :=
        transmitChain_of_sendable sound device present sendable (answers chain rfl sendable)
      rw [sent]
      refine ⟨true, _, after, rfl, soundAfter, sameAfter, rfl, rfl, rfl, dropped, ?_, ?_⟩
      · rintro found other same _ given
        cases same
        cases present.symm.trans given
        exact ⟨rfl, rfl⟩
      · exact fun unsendable => absurd sendable (unsendable chain rfl)
    · rw [transmitChain_of_not_sendable device sendable]
      refine ⟨false, device, dma, rfl, sound, rfl, rfl, rfl, attached, rfl, ?_, fun _ => ⟨rfl, rfl⟩⟩
      rintro found backend same given
      cases same
      exact absurd given sendable

/-- A round of transmission up to its completion. -/
theorem transmitServed_eq (wired : Wired memory size rings)
    (sending : Sending memory size rings count device dma)
    (available : rings.availableIndexAt (memory.contents dma) ≠ BitVec.ofNat 16 count)
    {head : BitVec 16}
    (place : head = rings.headAt (memory.contents dma) (count % size.toNat))
    (readable : Readable memory size rings (memory.contents dma) head) :
    ∃ sent served after, transmitServed device dma = (some (head, sent), served, after) ∧
      memory.sound after ∧ memory.contents after = memory.contents dma ∧
      served.transmit = device.transmit ∧ served.guestPageSize = device.guestPageSize ∧
      served.backend.isSome = true ∧
      (∀ chain backend, rings.validChain size (memory.contents dma) head = some chain →
        Sendable chain → device.backend = some backend →
        served.backend = some (NetworkBackend.sendFrame
            (frameOf chain (memory.contents dma)) backend) ∧
          served.statistics.droppedTransmitFrames = device.statistics.droppedTransmitFrames) ∧
      ((∀ chain, rings.validChain size (memory.contents dma) head = some chain →
          ¬Sendable chain) →
        served.backend = device.backend ∧ served.statistics.droppedTransmitFrames =
          device.statistics.droppedTransmitFrames + 1) := by
  obtain ⟨rfl, rfl, configured, last, used, attached, sound⟩ := sending
  have slot : device.transmit.lastAvailableIndex.toNat % device.transmit.size.toNat =
      count % device.transmit.size.toNat := by
    rw [last, Ring.counter_slot wired.divides]
  obtain ⟨ok, value, soundIndex, sameIndex⟩ :=
    DmaMemory.read_answered sound wired.answered.availableIndex
  have index : (DmaAccess.dmaRead (device.transmit.rings.availableRing + 2) .halfWord
      dma).1.value.setWidth 16 = device.transmit.rings.availableIndexAt (memory.contents dma) := by
    rw [value]
    rfl
  have another : ¬device.transmit.lastAvailableIndex =
      device.transmit.rings.availableIndexAt (memory.contents dma) := by
    rw [last]
    exact available.symm
  unfold transmitServed
  dsimp only
  rw [ok, index, if_neg another]
  obtain ⟨readHead, headEq, soundHead, sameHead⟩ :=
    readAvailableHead_eq wired.answered soundIndex device.statistics
  rw [sameIndex, slot, ← place] at headEq
  rw [headEq]
  obtain ⟨loaded, loadedEq, soundLoaded, sameLoaded⟩ :=
    loadWholeChain_eq wired.table soundHead head (countChain device.statistics)
  have same : memory.contents loaded = memory.contents dma :=
    sameLoaded.trans (sameHead.trans sameIndex)
  have headSame : memory.contents readHead = memory.contents dma := sameHead.trans sameIndex
  rw [headSame] at loadedEq
  dsimp only
  rw [loadedEq]
  dsimp only
  obtain ⟨sent, ended, after, transmitted, soundAfter, sameAfter, sameTransmit, samePage,
      attachedAfter, uncounted, taken, refused⟩ :=
    transmitIfValid_eq soundLoaded { device with statistics := countChain device.statistics }
      attached readable
  rw [transmitted]
  rw [same] at taken sameAfter
  refine ⟨sent, _, after, rfl, soundAfter, sameAfter, sameTransmit, samePage, attachedAfter, ?_, ?_⟩
  · intro chain backend valid sendable given
    obtain ⟨rfl, sentFrame⟩ := taken chain backend valid sendable given
    exact ⟨sentFrame, uncounted⟩
  · intro unsendable
    obtain ⟨rfl, kept⟩ := refused unsendable
    exact ⟨kept, congrArg (· + 1) uncounted⟩

/-- A round of transmission handles the next chain. -/
theorem transmitNext_eq (wired : Wired memory size rings)
    (sending : Sending memory size rings count device dma)
    (available : rings.availableIndexAt (memory.contents dma) ≠ BitVec.ofNat 16 count)
    {head : BitVec 16}
    (place : head = rings.headAt (memory.contents dma) (count % size.toNat))
    (readable : Readable memory size rings (memory.contents dma) head) :
    (transmitServed device dma).1.map (·.1) = some head ∧
      ∃ device' dma', transmitNext device dma = (true, device', dma') ∧
        Sent memory size rings count (device, dma) head (device', dma') ∧
        Sending memory size rings (count + 1) device' dma' := by
  obtain ⟨sent, served, loaded, servedEq, soundLoaded, same, sameTransmit, samePage, attached,
    taken, refused⟩ := transmitServed_eq wired sending available place readable
  obtain ⟨rfl, rfl, configured, last, used, _, sound⟩ := sending
  obtain ⟨gap, follows⟩ := wired.follows
  have usedSlot : device.transmit.usedIndex.toNat % device.transmit.size.toNat =
      count % device.transmit.size.toNat := by
    rw [used, Ring.counter_slot wired.divides]
  obtain ⟨final, completed, soundFinal, contents⟩ :=
    completeChain_eq wired.answered soundLoaded head 0 served.statistics
  rw [same] at contents
  rw [transmitNext_served, servedEq]
  dsimp only
  rw [completed]
  refine ⟨rfl, _, final, rfl, ⟨place, taken, refused, ?_, ?_, ?_, ?_⟩, ?_⟩
  · rw [contents, ← usedSlot]
    exact Rings.elementAt_completed _ follows.positive _ _ _ _
  · intro slot inside other
    rw [← usedSlot] at other
    rw [contents, follows.elementAt_other _ _ _ _ inside other]
  · rw [contents, Rings.usedIndexAt_completed, used, BitVec.ofNat_add]
    rfl
  · intro address outside
    rw [contents]
    exact follows.completed_outside _ _ _ _ outside
  · refine ⟨rfl, rfl, ?_, ?_, ?_, attached, soundFinal⟩
    · unfold queueConfigured at configured ⊢
      rw [← samePage] at configured
      exact configured
    · exact (congrArg (· + 1) last).trans (by rw [BitVec.ofNat_add]; rfl)
    · exact (congrArg (· + 1) used).trans (by rw [BitVec.ofNat_add]; rfl)

/-- Where no chain is available, a round changes nothing. -/
theorem transmitNext_idle (wired : Wired memory size rings)
    (sending : Sending memory size rings count device dma)
    (exhausted : rings.availableIndexAt (memory.contents dma) = BitVec.ofNat 16 count) :
    (transmitServed device dma).1 = none ∧
      ∃ dma', transmitNext device dma = (false, device, dma') ∧
        memory.contents dma' = memory.contents dma ∧
        Sending memory size rings count device dma' := by
  obtain ⟨rfl, rfl, configured, last, used, attached, sound⟩ := sending
  obtain ⟨ok, value, soundIndex, sameIndex⟩ :=
    DmaMemory.read_answered sound wired.answered.availableIndex
  have index : (DmaAccess.dmaRead (device.transmit.rings.availableRing + 2) .halfWord
      dma).1.value.setWidth 16 = BitVec.ofNat 16 count := by
    rw [value]
    exact exhausted
  have served : transmitServed device dma = (none, device,
      (DmaAccess.dmaRead (device.transmit.rings.availableRing + 2) .halfWord dma).2) := by
    unfold transmitServed
    dsimp only
    rw [ok, index, if_pos last]
    rfl
  rw [transmitNext_served, served]
  exact ⟨rfl, _, rfl, sameIndex, rfl, rfl, configured, last, used, attached, soundIndex⟩

/-! ### The loop -/

omit [NetworkBackend ν] in
theorem Readable.congr {before after : Memory} {head : BitVec 16}
    (readable : Readable memory size rings before head)
    (same : ∀ address, rings.InTable size address → after address = before address) :
    Readable memory size rings after head := by
  intro chain valid
  unfold Rings.validChain at valid
  rw [Rings.chainOf_congr same] at valid
  exact readable chain valid

/-- The loop handles all the available chains, in the order of the ring. -/
theorem transmitLoop_spec (wired : Wired memory size rings) {rounds chains : Nat}
    (enough : chains ≤ rounds) (few : chains < 2 ^ 16)
    (sending : Sending memory size rings count device dma)
    (available : rings.availableIndexAt (memory.contents dma) = BitVec.ofNat 16 (count + chains))
    (readable : ∀ j < chains, Readable memory size rings (memory.contents dma)
      (rings.headAt (memory.contents dma) ((count + j) % size.toNat))) :
    transmitHeads rounds device dma = (List.range chains).map (fun j =>
        rings.headAt (memory.contents dma) ((count + j) % size.toNat)) ∧
      Sends memory size rings count (device, dma) (transmitHeads rounds device dma)
        (transmitLoop rounds device dma) ∧
      Sending memory size rings (count + chains) (transmitLoop rounds device dma).1
        (transmitLoop rounds device dma).2 := by
  obtain ⟨gap, follows⟩ := wired.follows
  induction rounds generalizing count chains device dma with
  | zero =>
    obtain rfl := Nat.le_zero.mp enough
    exact ⟨rfl, .nil rfl rfl rfl, sending⟩
  | succ rounds ih =>
    unfold transmitHeads transmitLoop
    cases chains with
    | zero =>
      obtain ⟨served, after, next, same, ready⟩ := transmitNext_idle wired sending available
      rw [served, next]
      exact ⟨rfl, .nil rfl rfl same, ready⟩
    | succ chains =>
      have another : rings.availableIndexAt (memory.contents dma) ≠ BitVec.ofNat 16 count := by
        intro equal
        have values := congrArg BitVec.toNat (available.symm.trans equal)
        rw [BitVec.toNat_ofNat, BitVec.toNat_ofNat] at values
        omega
      have first := readable 0 (Nat.succ_pos _)
      rw [Nat.add_zero] at first
      obtain ⟨served, device', dma', next, sent, ready⟩ :=
        transmitNext_eq wired sending another rfl first
      have same : ∀ address, rings.InTable size address ∨ rings.InAvailable size address →
          memory.contents dma' address = memory.contents dma address :=
        fun address member => sent.outside address (follows.not_inUsed member)
      have sameHead : ∀ slot, rings.headAt (memory.contents dma') (slot % size.toNat) =
          rings.headAt (memory.contents dma) (slot % size.toNat) := fun slot =>
        Rings.headAt_congr (fun address member => same address (.inr member))
          (Nat.mod_lt _ follows.positive)
      have shift : ∀ j, count + 1 + j = count + (j + 1) := fun j => by omega
      obtain ⟨heads, sends, sending'⟩ := ih (Nat.le_of_succ_le_succ enough) (by omega) ready
        (by
          rw [Rings.availableIndexAt_congr fun address member => same address (.inr member),
            available, shift])
        (by
          intro j near
          rw [sameHead, shift]
          exact (readable (j + 1) (Nat.succ_lt_succ near)).congr
            fun address member => same address (.inl member))
      obtain ⟨⟨head, flag⟩, found, rfl⟩ := Option.map_eq_some_iff.mp served
      rw [found, next]
      dsimp only
      rw [if_pos rfl, if_pos rfl]
      refine ⟨?_, .cons sent sends, ?_⟩
      · rw [heads, List.range_succ_eq_map, List.map_cons, List.map_map]
        refine congrArg₂ List.cons sent.place (List.map_congr_left fun j _ => ?_)
        rw [sameHead, shift]
        rfl
      · rw [shift] at sending'
        exact sending'

/-! ### The used ring -/

variable {heads : List (BitVec 16)} {before after : VirtioNet ν × δ}

theorem slot_ne {size index j : Nat} (near : 0 < j) (few : j < size) :
    index % size ≠ (index + j) % size := by
  intro equal
  have divides := Nat.sub_mod_eq_zero_of_mod_eq equal.symm
  rw [Nat.add_sub_cancel_left, Nat.mod_eq_of_lt few] at divides
  omega

/-- Whether the backend is to be polled does not matter. -/
theorem Sends.left (sends : Sends memory size rings count before heads after)
    {ended : VirtioNet ν × δ} (backend : ended.1.backend = after.1.backend)
    (dropped : ended.1.statistics.droppedTransmitFrames =
      after.1.statistics.droppedTransmitFrames)
    (same : ended.2 = after.2) : Sends memory size rings count before heads ended := by
  induction sends with
  | nil before kept contents =>
    exact .nil (backend.trans before) (dropped.trans kept)
      ((congrArg memory.contents same).trans contents)
  | cons sent _ ih => exact .cons sent (ih backend dropped same)

/-- The elements of other slots are not touched. -/
theorem Sends.elements (sends : Sends memory size rings count before heads after) {slot : Nat}
    (inside : slot < size.toNat) (other : ∀ j < heads.length, slot ≠ (count + j) % size.toNat) :
    rings.elementAt (memory.contents after.2) slot =
      rings.elementAt (memory.contents before.2) slot := by
  induction sends with
  | nil _ _ same => rw [same]
  | cons sent _ ih =>
    refine (ih fun j near => ?_).trans (sent.elements slot inside (other 0 (Nat.succ_pos _)))
    rw [Nat.add_assoc, Nat.add_comm 1 j]
    exact other (j + 1) (Nat.succ_lt_succ near)

/-- In the end the used ring shows each of the chains with length zero. -/
theorem Sends.completed (sends : Sends memory size rings count before heads after)
    (few : heads.length ≤ size.toNat) {j : Nat} {head : BitVec 16} (found : heads[j]? = some head) :
    rings.elementAt (memory.contents after.2) ((count + j) % size.toNat) =
      (head.setWidth 32, 0) := by
  induction sends generalizing j with
  | nil => cases found
  | @cons index _ _ _ _ heads sent later ih =>
    rw [List.length_cons] at few
    cases j with
    | zero =>
      obtain rfl := Option.some.inj found
      rw [later.elements (Nat.mod_lt _ (by omega)) fun j near => ?_]
      · exact sent.element
      · rw [Nat.add_zero, Nat.add_assoc]
        exact slot_ne (by omega) (by omega)
    | succ j =>
      have rest := ih (Nat.le_of_succ_le few) found
      rwa [Nat.add_assoc, Nat.add_comm 1 j] at rest

/-- And its index counts them. -/
theorem Sends.usedIndex (sends : Sends memory size rings count before heads after)
    (some : heads ≠ []) :
    rings.usedIndexAt (memory.contents after.2) = BitVec.ofNat 16 (count + heads.length) := by
  induction sends with
  | nil => exact absurd rfl some
  | @cons index _ middle _ _ heads sent later ih =>
    cases later with
    | nil _ _ same => exact (congrArg rings.usedIndexAt same).trans sent.usedIndex
    | cons =>
      refine (ih (List.cons_ne_nil _ _)).trans (congrArg (BitVec.ofNat 16) ?_)
      simp only [List.length_cons]
      omega

end

end RvEmulator.Devices.VirtioNet
