import RvEmulator.Core64.Precise

/-! The atomic memory operations, from their encodings to what they do to memory. -/

namespace RvEmulator.Platform.SystemBus

open Library

/-- An atomic operation that succeeds returns the old value and replaces it. -/
theorem atomic_succeeded {bus : SystemBus Ram} (layout : Layout bus.ranges)
    {width : AccessWidth} {address : PhysAddr} {operation : AmoOperation} {operand : BitVec w}
    (succeeded : (atomic width address operation operand bus).1.1 = .none) :
    (atomic width address operation operand bus).1.2 =
        (bus.contents.get address width.bytes).setWidth w ∧
      (atomic width address operation operand bus).2.contents =
        bus.contents.put address width.bytes
          ((replacement operation ((bus.contents.get address width.bytes).setWidth w)
            operand).setWidth 64) := by
  have kept := contents_read layout address width .atomic
  have moved : Layout (read address width .atomic bus).2.ranges := by
    rw [ranges_read layout]
    exact layout
  unfold atomic at succeeded ⊢
  dsimp only at succeeded ⊢
  split at succeeded
  · cases succeeded
  rename_i aligned
  split at succeeded
  · rename_i refused
    dsimp only at succeeded
    rw [ReadResult.ok, succeeded] at refused
    cases refused
  · rename_i loaded
    have readable : (read address width .atomic bus).1.fault = .none := by
      simpa [ReadResult.ok] using loaded
    have value := read_contents layout address width .atomic readable
    rw [if_neg aligned, if_neg loaded]
    refine ⟨by rw [value], ?_⟩
    rw [(contents_write moved address width _ .atomic succeeded).1, kept, value]

end RvEmulator.Platform.SystemBus

namespace RvEmulator.Core64

open Library

namespace Amo

/-- The operation of an encoding's `funct5`. -/
def operation? (funct5 : BitVec 5) : Option AmoOperation :=
  match funct5 with
  | 0b00001#5 => some .swap
  | 0b00000#5 => some .add
  | 0b00100#5 => some .xor
  | 0b01100#5 => some .and
  | 0b01000#5 => some .or
  | 0b10000#5 => some .min
  | 0b10100#5 => some .max
  | 0b11000#5 => some .minUnsigned
  | 0b11100#5 => some .maxUnsigned
  | _ => none

/-- The encoding of an AMO instruction on words or doublewords. -/
structure Encodes (instruction : BitVec 32) (operation : AmoOperation) (doubleword : Bool) :
    Prop where
  opcode : instruction.extractLsb' 0 7 = 0b0101111
  funct3 : instruction.extractLsb' 12 3 = if doubleword then 3 else 2
  funct5 : operation? (instruction.extractLsb' 27 5) = some operation

def rd (instruction : BitVec 32) : RegisterIndex := instruction.extractLsb' 7 5
def rs1 (instruction : BitVec 32) : RegisterIndex := instruction.extractLsb' 15 5
def rs2 (instruction : BitVec 32) : RegisterIndex := instruction.extractLsb' 20 5

/-- What an operation stores, of the old value in memory and the operand. -/
def apply (operation : AmoOperation) (old operand : BitVec w) : BitVec w :=
  match operation with
  | .swap => operand
  | .add => old + operand
  | .xor => old ^^^ operand
  | .and => old &&& operand
  | .or => old ||| operand
  | .min => if old.toInt ≤ operand.toInt then old else operand
  | .max => if operand.toInt ≤ old.toInt then old else operand
  | .minUnsigned => if old.toNat ≤ operand.toNat then old else operand
  | .maxUnsigned => if operand.toNat ≤ old.toNat then old else operand

theorem replacement_eq (operation : AmoOperation) (old operand : BitVec w) :
    Platform.SystemBus.replacement operation old operand = apply operation old operand := by
  unfold Platform.SystemBus.replacement apply
  cases operation with
  | swap | add | xor | and | or => rfl
  | min | max | minUnsigned | maxUnsigned =>
    simp only [BitVec.slt, BitVec.lt_def, decide_eq_true_eq]
    split <;> split <;> first | rfl | omega

/-! ### Decoding -/

/-- The kind that an encoding decodes to. -/
theorem atomicKind_eq {funct5 : BitVec 5} {operation : AmoOperation} (doubleword : Bool)
    (found : operation? funct5 = some operation) :
    switchArm (Decode.atomicKind (funct5.setWidth 32) doubleword) = .atomic ∧
      amoOperation (Decode.atomicKind (funct5.setWidth 32) doubleword) = operation ∧
      Decode.atomicKind (funct5.setWidth 32) doubleword ∉
        [InstructionKind.lrW, .lrD, .scW, .scD, .illegal] := by
  have table : ∀ funct5 : BitVec 5, ∀ doubleword : Bool, ∀ operation ∈ operation? funct5,
      switchArm (Decode.atomicKind (funct5.setWidth 32) doubleword) = .atomic ∧
        amoOperation (Decode.atomicKind (funct5.setWidth 32) doubleword) = operation ∧
        Decode.atomicKind (funct5.setWidth 32) doubleword ∉
          [InstructionKind.lrW, .lrD, .scW, .scD, .illegal] := by decide
  exact table funct5 doubleword operation found

/-- What the decoder makes of an encoding. -/
structure Decoded (decoded : DecodedInstruction) (instruction : BitVec 32)
    (operation : AmoOperation) : Prop where
  rd : decoded.rd = rd instruction
  rs1 : decoded.rs1 = rs1 instruction
  rs2 : decoded.rs2 = rs2 instruction
  length : decoded.length = 4
  arm : switchArm decoded.kind = .atomic
  operation : amoOperation decoded.kind = operation
  other : decoded.kind ∉ [InstructionKind.lrW, .lrD, .scW, .scD, .illegal]

theorem Encodes.funct3_eq {instruction : BitVec 32} {operation : AmoOperation} {doubleword : Bool}
    (encodes : Encodes instruction operation doubleword) :
    Decode.bits instruction 14 12 = if doubleword then 3 else 2 := by
  rw [Decode.bits_eq instruction (by decide), encodes.funct3]
  cases doubleword <;> rfl

theorem Encodes.decoded {instruction : BitVec 32} {operation : AmoOperation} {doubleword : Bool}
    (encodes : Encodes instruction operation doubleword) :
    Decoded (decodeFetched instruction) instruction operation := by
  have opcode : Decode.bits instruction 6 0 = 0x2F := by
    rw [Decode.bits_eq instruction (by decide), encodes.opcode]
    rfl
  have long : ¬(instruction &&& 0x3) ≠ 0x3 := by
    have low : instruction &&& 0x3 = (instruction.extractLsb' 0 7).setWidth 32 &&& 0x3 := by
      apply BitVec.eq_of_getLsbD_eq
      intro i inside
      have three : ∀ i < 32, (0x3 : BitVec 32).getLsbD i = decide (i < 2) := by decide
      rw [BitVec.getLsbD_and, BitVec.getLsbD_and, three i inside, BitVec.getLsbD_setWidth,
        BitVec.getLsbD_extractLsb']
      by_cases small : i < 2
      · simp [small, inside, show i < 7 by omega]
      · simp [small]
    rw [low, encodes.opcode]
    decide
  have funct5 : Decode.bits instruction 31 27 =
      (instruction.extractLsb' 27 5).setWidth 32 := Decode.bits_eq instruction (by decide)
  obtain ⟨arm, same, other⟩ := atomicKind_eq doubleword encodes.funct5
  have atomic : decodeFetched instruction =
      { Decode.make instruction
          (Decode.atomicKind ((instruction.extractLsb' 27 5).setWidth 32) doubleword) with
        acquire := Decode.bits instruction 26 26 != 0
        release := Decode.bits instruction 25 25 != 0 } := by
    have whole : decodeFetched instruction =
        Decode.decodeAtomic instruction (Decode.bits instruction 14 12) := by
      unfold decodeFetched decodeDirect
      rw [if_neg long, if_neg (by decide)]
      unfold decodeInstruction
      dsimp only
      rw [opcode]
      rfl
    have third : decide (Decode.bits instruction 14 12 = 3) = doubleword := by
      rw [encodes.funct3_eq]
      cases doubleword <;> decide
    have reserved : ¬((Decode.atomicKind ((instruction.extractLsb' 27 5).setWidth 32) doubleword =
        .lrW ∨ Decode.atomicKind ((instruction.extractLsb' 27 5).setWidth 32) doubleword = .lrD) ∧
        Decode.bits instruction 24 20 ≠ 0) := by
      simp only [List.mem_cons, not_or] at other
      rintro ⟨lrW | lrD, _⟩
      · exact other.1 lrW
      · exact other.2.1 lrD
    rw [whole]
    unfold Decode.decodeAtomic
    dsimp only
    rw [third, funct5, if_neg, if_neg reserved]
    rw [encodes.funct3_eq]
    cases doubleword <;> decide
  rw [atomic]
  exact ⟨Decode.register_eq instruction 7, Decode.register_eq instruction 15,
    Decode.register_eq instruction 20, rfl, arm, same, other⟩

theorem Encodes.doubleword_eq {instruction : BitVec 32} {operation : AmoOperation}
    {doubleword : Bool} (encodes : Encodes instruction operation doubleword) :
    (((instruction >>> 12) &&& 0x7) == 3) = doubleword := by
  have field : (instruction >>> 12) &&& 0x7 = Decode.bits instruction 14 12 := rfl
  rw [field, encodes.funct3_eq]
  cases doubleword <;> decide

/-! ### Execution -/

def width (doubleword : Bool) : AccessWidth := if doubleword then .doubleWord else .word

/-- The register value of a value in memory. -/
def loaded (doubleword : Bool) (value : BitVec 64) : Xlen :=
  if doubleword then value else (value.setWidth 32).signExtend 64

/-- The value that replaces it. -/
def stored (operation : AmoOperation) (doubleword : Bool) (old operand : Xlen) : BitVec 64 :=
  if doubleword then apply operation old operand
  else (apply operation (old.setWidth 32) (operand.setWidth 32)).setWidth 64

/-- The answer of the bus to the access. -/
def busFault (operation : AmoOperation) (doubleword : Bool) (address : PhysAddr) (operand : Xlen)
    (bus : Platform.SystemBus Platform.Ram) : BusFault :=
  if doubleword then (CpuBus.atomicDoubleword 0 address operation operand bus).1.fault
  else (CpuBus.atomicWord 0 address operation (operand.setWidth 32) bus).1.fault

theorem atomicAccess_eq {kind : InstructionKind}
    (other : kind ∉ [InstructionKind.lrW, .lrD, .scW, .scD, .illegal]) (doubleword : Bool)
    (hart : BitVec 32) (address : PhysAddr) (rs2 : Xlen)
    {bus : Platform.SystemBus Platform.Ram} (layout : Platform.Layout bus.ranges) :
    (atomicAccess kind doubleword hart address rs2 bus).1.1 =
        busFault (amoOperation kind) doubleword address rs2 bus ∧
      (busFault (amoOperation kind) doubleword address rs2 bus = .none →
        (atomicAccess kind doubleword hart address rs2 bus).1.2 =
            loaded doubleword (bus.contents.get address (width doubleword).bytes) ∧
          (atomicAccess kind doubleword hart address rs2 bus).2.contents =
            bus.contents.put address (width doubleword).bytes
              (stored (amoOperation kind) doubleword
                (bus.contents.get address (width doubleword).bytes) rs2)) := by
  have access : atomicAccess kind doubleword hart address rs2 bus =
      if doubleword then
        (((CpuBus.atomicDoubleword hart address (amoOperation kind) rs2 bus).1.fault,
          (CpuBus.atomicDoubleword hart address (amoOperation kind) rs2 bus).1.originalValue),
          (CpuBus.atomicDoubleword hart address (amoOperation kind) rs2 bus).2)
      else
        (((CpuBus.atomicWord hart address (amoOperation kind) (rs2.setWidth 32) bus).1.fault,
          signExtendWord ((CpuBus.atomicWord hart address (amoOperation kind) (rs2.setWidth 32)
            bus).1.originalValue.setWidth 64)),
          (CpuBus.atomicWord hart address (amoOperation kind) (rs2.setWidth 32) bus).2) := by
    unfold atomicAccess
    split
    case h_5 => cases doubleword <;> rfl
    all_goals simp at other
  rw [access]
  cases doubleword with
  | true =>
    refine ⟨rfl, fun succeeded => ?_⟩
    obtain ⟨value, contents⟩ := Platform.SystemBus.atomic_succeeded layout succeeded
    rw [replacement_eq] at contents
    refine ⟨?_, ?_⟩
    · exact value.trans (by simp [loaded, width])
    · exact contents.trans (by simp [stored, width])
  | false =>
    refine ⟨rfl, fun succeeded => ?_⟩
    obtain ⟨value, contents⟩ := Platform.SystemBus.atomic_succeeded layout succeeded
    rw [replacement_eq] at contents
    refine ⟨?_, contents⟩
    have original : (CpuBus.atomicWord hart address (amoOperation kind) (rs2.setWidth 32)
        bus).1.originalValue = (bus.contents.get address 4).setWidth 32 := value
    simp only [Bool.false_eq_true, if_false, loaded, width, original, AccessWidth.bytes]
    rw [signExtendWord_eq]
    simp

/-- The end of the access, once the address is translated. -/
def finish (kind : InstructionKind) (doubleword : Bool) (hart instruction : BitVec 32)
    (address : Xlen) (physical : PhysAddr) (rs2 : Xlen)
    (fabric : Fabric (Platform.SystemBus Platform.Ram)) :
    Except Trap Xlen × Fabric (Platform.SystemBus Platform.Ram) :=
  let answer := atomicAccess kind doubleword hart physical rs2 fabric.bus
  (if answer.1.1 ≠ .none then .error ⟨.storeAccessFault, instruction, address, answer.1.1⟩
    else .ok answer.1.2, { fabric with bus := answer.2 })

theorem executeAtomic_eq (mode : ExecutionMode) (state : CpuSnapshot) {instruction : BitVec 32}
    {decoded : DecodedInstruction} {operation : AmoOperation} {doubleword : Bool}
    (encodes : Encodes instruction operation doubleword)
    (amo : Decoded decoded instruction operation)
    (fabric : Fabric (Platform.SystemBus Platform.Ram)) :
    executeAtomic mode state instruction decoded fabric =
      (dataAddress mode state instruction (state.registers (rs1 instruction)) (width doubleword)
        false >>= fun physical => finish decoded.kind doubleword (state.hartId.setWidth 32)
          instruction (state.registers (rs1 instruction)) physical
          (state.registers (rs2 instruction))) fabric := by
  have store : (decoded.kind == .lrW || decoded.kind == .lrD) = false := by
    have other := amo.other
    simp only [List.mem_cons, not_or] at other
    simp [other.1, other.2.1]
  unfold executeAtomic
  dsimp only
  rw [encodes.doubleword_eq, store, amo.rs1, amo.rs2]
  refine congrFun (congrArg (fun next => dataAddress mode state instruction
    (state.registers (rs1 instruction)) (width doubleword) false >>= next) ?_) fabric
  funext physical middle
  simp only [finish, bind, onBus, Exec.lift]
  split <;> rfl

end Amo

end RvEmulator.Core64
