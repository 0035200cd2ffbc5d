import RvEmulator.Devices.NetRecording

/-! What becomes of the frames of the network device in a run, whatever memory accesses are
refused. -/

namespace RvEmulator.Devices.VirtioNet

open Platform

variable {ν δ : Type}

/-- A call of `send_frame`. The chain that was its reason is known by the resets before it and by
its position among the chains taken since; `index` is what `last_available_index` was. -/
structure SendCall where
  resets : Nat
  position : Nat
  index : BitVec 16
  frame : Frame
deriving DecidableEq, Repr

def SendCall.chain (sent : SendCall) : Nat × Nat := (sent.resets, sent.position)

/-- The calls in rounds of transmission, of which the first is about the chain at a position. -/
def sentAt (resets position : Nat) : List (Round (Copying ν) δ) → List SendCall
  | [] => []
  | round :: rest =>
    round.given.map (fun frame =>
        { resets, position, index := round.before.1.transmit.lastAvailableIndex, frame }) ++
      sentAt resets (position + round.taken) rest

/-- A device, and what has become of its frames. `taken` counts the transmit chains that were taken
since the last reset, and `given` has all frames that a backend was given. `accepted` and `settled`
are since the last reset. -/
structure Station (ν δ : Type) where
  device : VirtioNet (Copying ν)
  resets : Nat := 0
  taken : Nat := 0
  sent : List SendCall := []
  given : List Frame := []
  accepted : List Frame := []
  settled : List (Round (Copying ν) (Recorded δ)) := []
  earlier : List (Round (Copying ν) (Recorded δ)) := []
  refused : Nat := 0

/-- What can happen to a device. In each tick memory accesses may be refused as they like,
and the guest may have changed all of memory. -/
inductive Station.Event (ν δ : Type) where
  | write (offset : BitVec 64) (width : AccessWidth) (value : BitVec 64)
  | inject (frame : Frame)
  | setBackend (backend : Option ν)
  | host (change : ν → ν)
  | tick (cycles : BitVec 64) (dma : δ)

section

variable [DmaAccess δ] [NetworkBackend ν]

def Station.step (station : Station ν δ) : Station.Event ν δ → Station ν δ
  | .write offset width value =>
    let device := (station.device.write offset width value).2
    if Resets offset width value then
      { device, resets := station.resets + 1, sent := station.sent, given := station.given,
        earlier := station.earlier ++ station.settled, refused := station.refused }
    else { station with device }
  | .inject frame =>
    let injected := station.device.injectReceivedFrame frame
    { station with
      device := injected.2
      accepted := station.accepted ++ if injected.1 then [frame] else []
      refused := station.refused + if injected.1 then 0 else 1 }
  | .setBackend backend =>
    { station with device := station.device.setBackend (backend.map fun backend => { backend }) }
  | .host change =>
    { station with
      device := { station.device with
        backend := station.device.backend.map fun copying =>
          { copying with backend := change copying.backend } } }
  | .tick cycles dma =>
    let ticked := station.device.tick cycles (Recorded.start dma)
    let rounds := sending station.device cycles (Recorded.start dma)
    { station with
      device := ticked.2.1
      taken := station.taken + (rounds.map (·.taken)).sum
      sent := station.sent ++ sentAt station.resets station.taken rounds
      given := station.given ++ ticked.2.1.given.drop station.device.given.length
      accepted := station.accepted ++ ticked.1.1
      settled := station.settled ++ receiving station.device cycles (Recorded.start dma)
      refused := station.refused + refusing station.device cycles }

/-- No write to a used ring is refused right after a frame was transferred. -/
def Station.Event.Completes (memory : DmaMemory δ) (device : VirtioNet (Copying ν)) :
    Station.Event ν δ → Prop
  | .tick cycles dma => memory.sound dma ∧
    unfinished device.backend.isSome false
      (device.tick cycles (Recorded.start dma)).2.2.accesses = false
  | _ => True

inductive Station.Run (memory : DmaMemory δ) (start : Station ν δ) : Station ν δ → Prop where
  | start : Run memory start start
  | step {station : Station ν δ} (event : Station.Event ν δ) : Run memory start station →
      event.Completes memory station.device → Run memory start (station.step event)

/-- `send_frame` was called for no chain twice. A frame that was accepted is pending, or it was
counted as dropped, or the guest sees it in the used ring. -/
structure Station.Accounted (memory : DmaMemory δ) (start : VirtioNetStatistics)
    (station : Station ν δ) : Prop where
  lastAvailableIndex :
    station.device.transmit.lastAvailableIndex = BitVec.ofNat 16 station.taken
  given : station.given = station.sent.map (·.frame)
  once : (station.sent.map SendCall.chain).Nodup
  indexed : ∀ sent ∈ station.sent, sent.index = BitVec.ofNat 16 sent.position
  passed : ∀ sent ∈ station.sent, sent.resets < station.resets ∨
    sent.resets = station.resets ∧ sent.position < station.taken
  accepted : station.accepted =
    station.settled.flatMap (·.popped) ++ station.device.pendingReceiveFrames
  settled : ∀ round ∈ station.earlier ++ station.settled,
    round.popped.length = round.received.toNat + round.dropped.toNat
  published : ∀ round ∈ station.earlier ++ station.settled,
    round.received = true → round.Published memory
  usedIndex : station.device.receive.usedIndex =
    BitVec.ofNat 16 (station.settled.countP (·.completed))
  receivedFrames : station.device.statistics.receivedFrames = start.receivedFrames +
    BitVec.ofNat 64 ((station.earlier ++ station.settled).countP (·.received))
  dropped : station.device.statistics.droppedReceiveFrames = start.droppedReceiveFrames +
    BitVec.ofNat 64 (station.refused +
      (station.earlier ++ station.settled).countP (·.dropped))

/-! ### Accounts -/

omit [DmaAccess δ] [NetworkBackend ν] in
theorem frames_sentAt (resets position : Nat) (rounds : List (Round (Copying ν) δ)) :
    (sentAt resets position rounds).map (·.frame) = rounds.flatMap (·.given) := by
  induction rounds generalizing position with
  | nil => rfl
  | cons round rest ih =>
    rw [sentAt, List.map_append, ih, List.map_map, List.flatMap_cons]
    exact congrArg (· ++ _) (List.map_id _)

omit [DmaAccess δ] [NetworkBackend ν] in
/-- Where every chain is taken whose frame was sent, the positions go up. -/
theorem sentAt_spec (resets : Nat) {position : Nat} {rounds : List (Round (Copying ν) δ)}
    {first last : VirtioNet (Copying ν) × δ} (linked : Linked first rounds last)
    (index : first.1.transmit.lastAvailableIndex = BitVec.ofNat 16 position)
    (once : ∀ round ∈ rounds, round.given.length ≤ 1)
    (taken : ∀ round ∈ rounds, round.given ≠ [] → round.taken = 1) :
    (∀ sent ∈ sentAt resets position rounds, sent.resets = resets ∧
        position ≤ sent.position ∧ sent.position < position + (rounds.map (·.taken)).sum ∧
        sent.index = BitVec.ofNat 16 sent.position) ∧
      ((sentAt resets position rounds).map SendCall.chain).Nodup := by
  induction rounds generalizing position first with
  | nil => exact ⟨fun _ member => absurd member List.not_mem_nil, List.nodup_nil⟩
  | cons round rest ih =>
    obtain ⟨rfl, later⟩ := linked
    have moved : round.after.1.transmit.lastAvailableIndex =
        BitVec.ofNat 16 (position + round.taken) := by
      have one : Linked round.before [round] round.after := ⟨rfl, rfl⟩
      rw [one.taken, index, BitVec.ofNat_add]
      rfl
    obtain ⟨bounded, nodup⟩ := ih later moved
      (fun other member => once other (List.mem_cons_of_mem _ member))
      (fun other member => taken other (List.mem_cons_of_mem _ member))
    have single := once round (List.mem_cons_self ..)
    have moves := taken round (List.mem_cons_self ..)
    unfold sentAt
    rw [List.map_cons, List.sum_cons]
    match given : round.given, single, moves with
    | [], _, _ =>
      rw [List.map_nil, List.nil_append]
      refine ⟨fun sent member => ?_, nodup⟩
      obtain ⟨same, above, below, indexed⟩ := bounded sent member
      exact ⟨same, by omega, by omega, indexed⟩
    | [frame], _, moves =>
      have one := moves (List.cons_ne_nil _ _)
      rw [List.map_singleton, List.singleton_append, List.map_cons, List.nodup_cons]
      refine ⟨fun sent member => ?_, fun again => ?_, nodup⟩
      · obtain rfl | member := List.mem_cons.mp member
        · exact ⟨rfl, Nat.le_refl _, by dsimp only; omega, index⟩
        · obtain ⟨same, above, below, indexed⟩ := bounded sent member
          exact ⟨same, by omega, by omega, indexed⟩
      · obtain ⟨sent, member, same⟩ := List.mem_map.mp again
        obtain ⟨_, above, _⟩ := bounded sent member
        have place : sent.position = position := congrArg Prod.snd same
        omega
    | _ :: _ :: _, single, _ => exact absurd single (by simp)

variable {memory : DmaMemory δ} {start : VirtioNetStatistics} {station : Station ν δ}

omit [NetworkBackend ν] in
theorem Station.Accounted.keeps (accounted : station.Accounted memory start)
    {device : VirtioNet (Copying ν)} (keeps : Keeps station.device device) :
    Accounted memory start { station with device } := by
  obtain ⟨sameUsed, sameLast, pending, counts⟩ := keeps
  obtain ⟨sameReceived, sameDropped⟩ := Prod.mk.inj counts
  exact { accounted with
    lastAvailableIndex := sameLast.trans accounted.lastAvailableIndex
    accepted := accounted.accepted.trans (congrArg _ pending.symm)
    usedIndex := sameUsed.trans accounted.usedIndex
    receivedFrames := sameReceived.trans accounted.receivedFrames
    dropped := sameDropped.trans accounted.dropped }

omit [NetworkBackend ν] in
theorem Station.Accounted.admits (accounted : station.Accounted memory start)
    {device : VirtioNet (Copying ν)} {kept : List Frame} {refused : Nat}
    (admits : Admits station.device device kept refused) :
    Accounted memory start { station with
      device
      accepted := station.accepted ++ kept
      refused := station.refused + refused } := by
  obtain ⟨sameReceive, sameTransmit, pending, sameReceived, sameDropped⟩ := admits
  refine { accounted with
    lastAvailableIndex :=
      (congrArg (·.lastAvailableIndex) sameTransmit).trans accounted.lastAvailableIndex
    usedIndex := (congrArg (·.usedIndex) sameReceive).trans accounted.usedIndex
    receivedFrames := sameReceived.trans accounted.receivedFrames
    accepted := ?_, dropped := ?_ }
  · dsimp only
    rw [accounted.accepted, pending, List.append_assoc]
  · rw [sameDropped, accounted.dropped, BitVec.add_assoc, ← BitVec.ofNat_add]
    exact congrArg (fun count => _ + BitVec.ofNat 64 count) (Nat.add_right_comm _ _ _)

omit [NetworkBackend ν] in
theorem Station.Accounted.resets (accounted : station.Accounted memory start)
    (guestPageSize : BitVec 32) :
    Accounted memory start {
      device := { station.device.reset with guestPageSize }
      resets := station.resets + 1
      sent := station.sent
      given := station.given
      earlier := station.earlier ++ station.settled
      refused := station.refused } := by
  constructor
  all_goals dsimp only
  case lastAvailableIndex => rfl
  case given => exact accounted.given
  case once => exact accounted.once
  case indexed => exact accounted.indexed
  case passed =>
    intro sent member
    obtain before | ⟨now, _⟩ := accounted.passed sent member
    · exact .inl (Nat.lt_succ_of_lt before)
    · exact .inl (now ▸ Nat.lt_succ_self _)
  case accepted => rfl
  case usedIndex => rfl
  all_goals rw [List.append_nil]
  case settled => exact accounted.settled
  case published => exact accounted.published
  case receivedFrames => exact accounted.receivedFrames
  case dropped => exact accounted.dropped

theorem Station.Accounted.tick (accounted : station.Accounted memory start) (cycles : BitVec 64)
    (dma : δ) (completes : (Station.Event.tick cycles dma).Completes memory station.device) :
    (station.step (.tick cycles dma)).Accounted memory start := by
  obtain ⟨sound, finished⟩ := completes
  obtain ⟨given, once, taken, published⟩ := recounted_tick station.device cycles sound
  rw [finished] at taken published
  simp only [Bool.false_eq_true, or_false] at taken published
  obtain ⟨moved, pending, addedReceived, addedDropped, addedUsed⟩ :=
    adds_tick station.device cycles (Recorded.start dma)
  obtain ⟨first, last, linked, _, _, index, _⟩ :=
    linked_sending station.device cycles (Recorded.start dma)
  obtain ⟨bounded, nodup⟩ := sentAt_spec station.resets linked
    (index.trans accounted.lastAvailableIndex) once taken
  have rounds : ∀ round ∈ station.earlier ++ (station.settled ++
      receiving station.device cycles (Recorded.start dma)),
      round ∈ station.earlier ++ station.settled ∨
        round ∈ receiving station.device cycles (Recorded.start dma) := by
    intro round member
    rw [← List.append_assoc] at member
    exact List.mem_append.mp member
  constructor
  all_goals unfold Station.step; dsimp only
  case lastAvailableIndex => rw [moved, accounted.lastAvailableIndex, BitVec.ofNat_add]
  case given =>
    rw [given, List.drop_left, accounted.given, List.map_append, frames_sentAt]
  case once =>
    rw [List.map_append]
    refine List.nodup_append'.mpr ⟨accounted.once, nodup, fun chain before now => ?_⟩
    obtain ⟨old, oldMember, rfl⟩ := List.mem_map.mp before
    obtain ⟨new, newMember, same⟩ := List.mem_map.mp now
    obtain ⟨sameResets, samePosition⟩ := Prod.mk.inj same
    obtain ⟨resets, above, _⟩ := bounded new newMember
    have passed := accounted.passed old oldMember
    omega
  case indexed =>
    intro sent member
    obtain before | now := List.mem_append.mp member
    · exact accounted.indexed sent before
    · exact (bounded sent now).2.2.2
  case passed =>
    intro sent member
    obtain before | now := List.mem_append.mp member
    · exact (accounted.passed sent before).imp_right fun ⟨same, below⟩ =>
        ⟨same, Nat.lt_add_right _ below⟩
    · exact .inr ⟨(bounded sent now).1, (bounded sent now).2.2.1⟩
  case accepted =>
    rw [accounted.accepted, List.append_assoc, pending, List.flatMap_append, List.append_assoc]
  case settled =>
    intro round member
    obtain before | now := rounds round member
    · exact accounted.settled round before
    · exact (settled_receiving now).once
  case published =>
    intro round member
    obtain before | now := rounds round member
    · exact accounted.published round before
    · exact published round now
  case usedIndex =>
    rw [addedUsed, accounted.usedIndex, List.countP_append, BitVec.ofNat_add]
  case receivedFrames =>
    rw [addedReceived, accounted.receivedFrames, BitVec.add_assoc, ← BitVec.ofNat_add,
      ← List.countP_append, List.append_assoc]
  case dropped =>
    rw [addedDropped, accounted.dropped, BitVec.add_assoc, ← BitVec.ofNat_add,
      ← List.append_assoc, List.countP_append]
    refine congrArg (fun count => _ + BitVec.ofNat 64 count) ?_
    rw [List.countP_append, List.countP_append]
    omega

theorem Station.Accounted.step (accounted : station.Accounted memory start)
    (event : Station.Event ν δ) (completes : event.Completes memory station.device) :
    (station.step event).Accounted memory start := by
  cases event with
  | write offset width value =>
    unfold Station.step
    dsimp only
    split
    · rename_i resets
      rw [write_of_resets resets]
      exact accounted.resets _
    · rename_i works
      exact accounted.keeps (keeps_write works)
  | inject frame => exact accounted.admits (admits_inject station.device frame)
  | setBackend backend => exact accounted.keeps ⟨rfl, rfl, rfl, rfl⟩
  | host change => exact accounted.keeps ⟨rfl, rfl, rfl, rfl⟩
  | tick cycles dma => exact accounted.tick cycles dma completes

/-- Events other than ticks. -/
theorem Station.Run.foldl {start station : Station ν δ} (run : Run memory start station)
    (events : List (Station.Event ν δ))
    (completes : ∀ event ∈ events, ∀ device, event.Completes memory device) :
    Run memory start (events.foldl Station.step station) := by
  induction events generalizing station with
  | nil => exact run
  | cons event rest ih =>
    refine ih (.step event run (completes event (List.mem_cons_self ..) _)) ?_
    exact fun other member => completes other (List.mem_cons_of_mem _ member)

/-- In every run in which no completion is refused once a frame was sent or received, a frame is
sent at most once for each chain, and none that was accepted is lost. -/
theorem run_accounted (memory : DmaMemory δ) (device : VirtioNet (Copying ν))
    {station : Station ν δ} (run : Station.Run memory { device := device.reset } station) :
    station.Accounted memory device.statistics := by
  induction run with
  | start =>
    refine ⟨rfl, rfl, List.nodup_nil, fun _ member => absurd member List.not_mem_nil,
      fun _ member => absurd member List.not_mem_nil, rfl,
      fun _ member => absurd member List.not_mem_nil,
      fun _ member => absurd member List.not_mem_nil, rfl, ?_, ?_⟩
    · exact (BitVec.add_zero _).symm
    · exact (BitVec.add_zero _).symm
  | step event _ completes ih => exact ih.step event completes

end

namespace Sample

def unused : VirtioNet (Copying TestBackend) :=
  { mac := Vector.replicate 6 0 }

def station : Station TestBackend (SystemBus Ram) :=
  { device := unused.reset }

def writes (entries : List (BitVec 64 × BitVec 64)) :
    List (Station.Event TestBackend (SystemBus Ram)) :=
  entries.map fun (offset, value) => .write offset .word value

/-- Both queues are set up, a backend is attached, and two frames come in. -/
def accepts : List (Station.Event TestBackend (SystemBus Ram)) :=
  writes [(0x028, 0x80), (0x038, 4), (0x03C, 8), (0x040, 0x1000000),
    (0x030, 1), (0x038, 4), (0x03C, 8), (0x040, 0x1000001)] ++
    [.setBackend (some {}), .inject [1, 2, 3], .inject [4], .write 0x050 .word 1]

/-- Two receive chains, of which the second lies outside of memory, and a transmit chain of 11
bytes. -/
def bothOffered : SystemBus Ram :=
  .ofProgram 0x80000000 0x1000
    ([0x80000100, 0, 13, 2, 0x90000000, 0, 16, 2, 0, 0, 0, 0, 0, 0, 0, 0, 0x00020000, 0x00010000] ++
      List.replicate 14 0 ++ [0x80000140, 0, 11, 0] ++ List.replicate 12 0 ++ [0x00010000])

def prepared : Station TestBackend (SystemBus Ram) := accepts.foldl Station.step station

/-- The driver notifies the device of the transmit chain twice. -/
def delivered : Station TestBackend (SystemBus Ram) :=
  ((prepared.step (.tick 1 bothOffered)).step (.write 0x050 .word 1)).step (.tick 1 bothOffered)

/-- The used rings of both queues lie behind the end of memory. -/
def misplaced : List (Station.Event TestBackend (SystemBus Ram)) :=
  writes [(0x028, 0x1000), (0x030, 0), (0x038, 4), (0x040, 0x80000),
    (0x030, 1), (0x038, 4), (0x040, 0x80000)]

/-- A chain of one buffer, of 11 bytes. -/
def offered (flags : BitVec 32) : SystemBus Ram :=
  .ofProgram 0x80000000 0x1000
    [0x80000080, 0, 11, flags, 0, 0, 0, 0, 0, 0, 0, 0, 0, 0, 0, 0, 0x00010000]

/-- The driver notifies the device, and notifies it again. -/
def sendsTwice : List (Station.Event TestBackend (SystemBus Ram)) :=
  misplaced ++ [.setBackend (some {}), .write 0x050 .word 1, .tick 1 (offered 0),
    .write 0x050 .word 1, .tick 1 (offered 0)]

/-- A frame of one byte comes in. -/
def receives : List (Station.Event TestBackend (SystemBus Ram)) :=
  misplaced ++ [.inject [7], .tick 1 (offered 2)]

end Sample

/-- A frame is sent once although the driver notifies the device twice. A frame of three bytes is
received, and one that no memory is offered for is dropped. -/
theorem run_accounted_sample :
    Sample.delivered.given = [[0]] ∧ Sample.delivered.sent = [⟨0, 0, 0, [0]⟩] ∧
      Sample.delivered.given = Sample.delivered.sent.map (·.frame) ∧
      Sample.delivered.settled.map (fun round => (round.popped, round.received, round.dropped)) =
        [([[1, 2, 3]], true, false), ([[4]], false, true)] ∧
      ∀ round ∈ Sample.delivered.settled, round.received = true →
        round.Published Sample.memory := by
  have quiet : ∀ event ∈ Sample.accepts, ∀ device, event.Completes Sample.memory device := by
    simp [Sample.accepts, Sample.writes, Station.Event.Completes]
  have sound : Sample.memory.sound Sample.bothOffered := ⟨rfl, SystemBus.sized_ofProgram _ _ _⟩
  have prepared : Station.Run Sample.memory Sample.station Sample.prepared :=
    Station.Run.foldl .start Sample.accepts quiet
  have run : Station.Run Sample.memory { device := Sample.unused.reset } Sample.delivered :=
    .step _ (.step _ (.step _ prepared ⟨sound, by decide +kernel⟩) trivial)
      ⟨sound, by decide +kernel⟩
  have accounted := run_accounted Sample.memory Sample.unused run
  exact ⟨by decide +kernel, by decide +kernel, accounted.given, by decide +kernel,
    fun round member => accounted.published round (List.mem_append_right _ member)⟩

/-- A frame is sent twice, and a frame is counted as received although the used ring was not
written. -/
theorem sent_twice :
    ¬((Sample.sendsTwice.foldl Station.step Sample.station).sent.map SendCall.chain).Nodup ∧
      (Sample.sendsTwice.foldl Station.step Sample.station).given = [[0], [0]] ∧
      (Sample.receives.foldl Station.step Sample.station).settled.map
        (fun round => (round.popped, round.received, round.dropped, round.completed)) =
          [([[7]], true, false, false)] ∧
      (Sample.receives.foldl Station.step Sample.station).device.statistics.receivedFrames = 1 := by
  decide +kernel

end RvEmulator.Devices.VirtioNet
