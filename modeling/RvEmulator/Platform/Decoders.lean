import RvEmulator.Core32.Abbreviation
import RvEmulator.Core64.Abbreviation

/-! The decoders of the two cores agree on the instructions that both have, but for FENCE.I
with a reserved field that is not zero: only the 32-bit core takes it. -/

namespace RvEmulator

/-- The same instruction in the 64-bit core. -/
def Core32.InstructionKind.corresponding : Core32.InstructionKind → Core64.InstructionKind
  | .illegal => .illegal
  | .lui => .lui
  | .auipc => .auipc
  | .jal => .jal
  | .jalr => .jalr
  | .beq => .beq
  | .bne => .bne
  | .blt => .blt
  | .bge => .bge
  | .bltu => .bltu
  | .bgeu => .bgeu
  | .lb => .lb
  | .lh => .lh
  | .lw => .lw
  | .lbu => .lbu
  | .lhu => .lhu
  | .sb => .sb
  | .sh => .sh
  | .sw => .sw
  | .addi => .addi
  | .slti => .slti
  | .sltiu => .sltiu
  | .xori => .xori
  | .ori => .ori
  | .andi => .andi
  | .slli => .slli
  | .srli => .srli
  | .srai => .srai
  | .add => .add
  | .sub => .sub
  | .sll => .sll
  | .slt => .slt
  | .sltu => .sltu
  | .xor => .xor
  | .srl => .srl
  | .sra => .sra
  | .or => .or
  | .and => .and
  | .mul => .mul
  | .mulh => .mulh
  | .mulhsu => .mulhsu
  | .mulhu => .mulhu
  | .div => .div
  | .divu => .divu
  | .rem => .rem
  | .remu => .remu
  | .lrW => .lrW
  | .scW => .scW
  | .amoSwapW => .amoSwapW
  | .amoAddW => .amoAddW
  | .amoXorW => .amoXorW
  | .amoAndW => .amoAndW
  | .amoOrW => .amoOrW
  | .amoMinW => .amoMinW
  | .amoMaxW => .amoMaxW
  | .amoMinuW => .amoMinuW
  | .amoMaxuW => .amoMaxuW
  | .fence => .fence
  | .fenceI => .fenceI
  | .csrrw => .csrrw
  | .csrrs => .csrrs
  | .csrrc => .csrrc
  | .csrrwi => .csrrwi
  | .csrrsi => .csrrsi
  | .csrrci => .csrrci
  | .ecall => .ecall
  | .ebreak => .ebreak
  | .mret => .mret
  | .sret => .sret
  | .wfi => .wfi
  | .sfenceVma => .sfenceVma

/-- Operands of the 32-bit core in the 64-bit core: shift amounts and the immediates of the CSR
instructions are extended by zeros, the others by their sign. -/
def Operands.widen (operands : Operands 32) (layout : Layout) : Operands 64 :=
  { operands with
    immediate :=
      match layout with
      | .shift .. | .shiftWord .. | .csrImmediate .. => operands.immediate.setWidth 64
      | _ => operands.immediate.signExtend 64 }

namespace Decoders

/-- A shift by an immediate of 32 or more. -/
def LongShift (decoded : Core64.DecodedInstruction) : Prop :=
  (decoded.kind = .slli ∨ decoded.kind = .srli ∨ decoded.kind = .srai) ∧
    decoded.immediate.getLsbD 5 = true

/-- What the 32-bit core takes, the 64-bit core takes as the same instruction with the same
operands; and the other way round for the instructions that both have. -/
structure Agree (instruction : BitVec 32) : Prop where
  widened : (Core32.decodeInstruction instruction).valid →
    let narrow := Core32.decodeInstruction instruction
    let wide := Core64.decodeInstruction instruction
    wide.kind = narrow.kind.corresponding ∧
      wide.operands.used (Core64.layout wide.kind) =
        (narrow.operands.used (Core32.layout narrow.kind)).widen (Core32.layout narrow.kind)
  narrowed : ∀ kind : Core32.InstructionKind, kind ≠ .illegal →
    (Core64.decodeInstruction instruction).kind = kind.corresponding →
    ¬ LongShift (Core64.decodeInstruction instruction) →
    (Core32.decodeInstruction instruction).kind = kind

/-- FENCE.I with a reserved field that is not zero. -/
def ReservedFenceI (instruction : BitVec 32) : Prop :=
  (Fields.of instruction).opcode = 0x0F ∧ (Fields.of instruction).funct3 = 1 ∧
    instruction ≠ 0x0000100F

variable {instruction : BitVec 32} {kind : Core32.InstructionKind}

/-- The formats of an instruction in the two cores. -/
theorem admits_corresponding (zero : ¬ ReservedFenceI instruction)
    (admits : (Core32.layout kind).Admits (Fields.of instruction)) :
    (Core64.layout kind.corresponding).Admits (Fields.of instruction) := by
  cases kind
  case fenceI =>
    have same : instruction = 0x0000100F := by
      by_contra other
      exact zero ⟨admits.1, admits.2, other⟩
    rw [same]
    show Fields.of 0x0000100F = { opcode := 0x0F, funct3 := 1, rs2 := 0, funct7 := 0 }
    decide
  case slli | srli | srai =>
    obtain ⟨first, third, seventh⟩ := admits
    refine ⟨first, third, ?_⟩
    rw [seventh]
    decide
  all_goals exact admits

theorem signExtend_twice {n : Nat} (value : BitVec n) (narrow : n ≤ 32) :
    value.signExtend 64 = (value.signExtend 32).signExtend 64 := by
  apply BitVec.eq_of_getLsbD_eq
  intro i inside
  simp only [BitVec.getLsbD_signExtend, BitVec.msb_signExtend]
  grind

/-- A format finds the same operands at both widths. -/
theorem of_widen (layout : Layout) (fields : Fields) :
    (Operands.of layout fields : Operands 64) =
      (Operands.of layout fields : Operands 32).widen layout := by
  cases layout
  case immediate | store | branch | upper | jump =>
    simp only [Operands.of, Operands.widen]
    rw [signExtend_twice _ (by decide)]
  case shift | shiftWord | csrImmediate =>
    simp only [Operands.of, Operands.widen]
    rw [BitVec.setWidth_setWidth (by decide)]
  all_goals rfl

theorem shiftAmount_short {fields : Fields} (short : fields.funct7.getLsbD 0 = false) :
    fields.shiftAmount.setWidth 64 = fields.rs2.setWidth 64 := by
  apply BitVec.eq_of_getLsbD_eq
  intro i inside
  simp only [Fields.shiftAmount, BitVec.getLsbD_setWidth, BitVec.getLsbD_append,
    BitVec.getLsbD_extractLsb']
  grind

theorem of_corresponding (admits : (Core32.layout kind).Admits (Fields.of instruction)) :
    (Operands.of (Core64.layout kind.corresponding) (Fields.of instruction) : Operands 64) =
      (Operands.of (Core32.layout kind) (Fields.of instruction) : Operands 32).widen
        (Core32.layout kind) := by
  cases kind
  case slli | srli | srai =>
    rw [← of_widen]
    obtain ⟨-, -, seventh⟩ := admits
    have short : (Fields.of instruction).funct7.getLsbD 0 = false := by
      rw [seventh]
      decide
    exact congrArg (fun immediate =>
      { (Operands.of .none (Fields.of instruction) : Operands 64) with
        rd := (Fields.of instruction).rd, rs1 := (Fields.of instruction).rs1, immediate })
      (shiftAmount_short short)
  all_goals exact of_widen _ _

theorem corresponding_ne_illegal (legal : kind ≠ .illegal) : kind.corresponding ≠ .illegal := by
  cases kind
  case illegal => exact absurd rfl legal
  all_goals exact fun same => by cases same

/-- A shift amount below 32 leaves the last bit of `funct7` clear. -/
theorem funct7_short {fields : Fields} {funct6 : BitVec 6}
    (sixth : fields.funct7.extractLsb' 1 6 = funct6)
    (short : (fields.shiftAmount.setWidth 64).getLsbD 5 = false) :
    fields.funct7 = funct6 ++ 0#1 := by
  rw [← sixth]
  apply BitVec.eq_of_getLsbD_eq
  intro i inside
  simp only [Fields.shiftAmount, BitVec.getLsbD_setWidth, BitVec.getLsbD_append,
    BitVec.getLsbD_extractLsb'] at short
  simp only [BitVec.getLsbD_append, BitVec.getLsbD_extractLsb', BitVec.getLsbD_zero]
  grind

/-- Back from the format in the 64-bit core. -/
theorem admits_of_corresponding
    (admits : (Core64.layout kind.corresponding).Admits (Fields.of instruction))
    (short : (kind = .slli ∨ kind = .srli ∨ kind = .srai) →
      ((Fields.of instruction).shiftAmount.setWidth 64).getLsbD 5 = false) :
    (Core32.layout kind).Admits (Fields.of instruction) := by
  cases kind
  case fenceI =>
    have same : Fields.of instruction = { opcode := 0x0F, funct3 := 1, rs2 := 0, funct7 := 0 } :=
      admits
    rw [same]
    exact ⟨rfl, rfl⟩
  case slli | srli | srai =>
    obtain ⟨first, third, sixth⟩ := admits
    exact ⟨first, third, funct7_short sixth (short (by decide))⟩
  all_goals exact admits

theorem agree_of_zero (zero : ¬ ReservedFenceI instruction) : Agree instruction where
  widened := by
    intro valid
    dsimp only
    have legal : (Core32.decodeInstruction instruction).kind ≠ .illegal := bne_iff_ne.mp valid
    obtain ⟨admits, found⟩ := Core32.Decode.reads_decode instruction legal
    have same := Core64.Decode.kind_of_admits (admits_corresponding zero admits)
    have wideLegal : (Core64.decodeInstruction instruction).kind ≠ .illegal := by
      rw [same]
      exact corresponding_ne_illegal legal
    refine ⟨same, ?_⟩
    rw [(Core64.Decode.reads_decode instruction wideLegal).2, found, same]
    exact of_corresponding admits
  narrowed := by
    intro kind legal same short
    have wideLegal : (Core64.decodeInstruction instruction).kind ≠ .illegal := by
      rw [same]
      exact corresponding_ne_illegal legal
    obtain ⟨admits, found⟩ := Core64.Decode.reads_decode instruction wideLegal
    rw [same] at admits found
    apply Core32.Decode.kind_of_admits
    apply admits_of_corresponding admits
    intro shifts
    have immediate : (Core64.decodeInstruction instruction).immediate =
        (Fields.of instruction).shiftAmount.setWidth 64 := by
      rcases shifts with rfl | rfl | rfl <;> exact congrArg Operands.immediate found
    rw [← immediate, ← Bool.not_eq_true]
    intro long
    apply short
    rw [LongShift, same]
    refine ⟨?_, long⟩
    rcases shifts with rfl | rfl | rfl <;> decide

/-- The decoders of the two cores agree on a word if and only if it is not FENCE.I with a
reserved field that is not zero. -/
theorem agree_iff (instruction : BitVec 32) : Agree instruction ↔ ¬ ReservedFenceI instruction := by
  constructor
  · rintro agree ⟨first, third, other⟩
    have format : (Core32.layout .fenceI).Admits (Fields.of instruction) := ⟨first, third⟩
    have narrow := Core32.Decode.kind_of_admits format
    have wide := (agree.widened (by rw [Core32.DecodedInstruction.valid, narrow]; decide)).1
    rw [narrow] at wide
    have legal : (Core64.decodeInstruction instruction).kind ≠ .illegal := by
      rw [wide]
      decide
    have admits := (Core64.Decode.reads_decode instruction legal).1
    rw [wide] at admits
    exact other (Fields.eq_word admits)
  · exact agree_of_zero

/-- FENCE.I with rd = 1. -/
theorem fenceI_disagree : ¬ Agree 0x0000108F := by
  intro agree
  exact absurd (agree.widened (by decide)).1 (by decide)

/-! ### Halfwords -/

open Halfword

/-- The halfword has the same expansion in RV32C and RV64C, or none in either. -/
def SameExpansion (word : BitVec 16) : Prop :=
  Core32.abbreviated word =
    (Core64.expand word).map fun (kind, operands) => Core64.encode kind operands

/-- The decoders of 16-bit instructions both take the halfword, or neither does. -/
def TakenAlike (word : BitVec 16) : Prop :=
  (Core32.decodeCompressedInstruction word).valid =
    (Core64.decodeCompressedInstruction word).valid

section

variable {word : BitVec 16}

theorem valid_narrow (short : quadrant word ≠ 3) :
    (Core32.decodeCompressedInstruction word).valid = (Core32.abbreviated word).isSome := by
  rw [← Core32.Decode.decodeFetched_half word short]
  cases found : Core32.expand word with
  | none =>
    have reserved : Core32.abbreviated word = none := Option.map_eq_none_iff.mpr found
    rw [Core32.decode_reserved short reserved, reserved]
    rfl
  | some expansion =>
    have expanded : Core32.abbreviated word = some _ := congrArg (Option.map _) found
    rw [Core32.decode_expanded short found, expanded]
    rfl

theorem valid_wide (short : quadrant word ≠ 3) :
    (Core64.decodeCompressedInstruction word).valid = (Core64.abbreviated word).isSome := by
  by_cases hint : Core64.LuiHint word
  · rw [Core64.abbreviated, if_pos hint]
    exact bne_eq_false_iff_eq.mpr (Core64.decode_refused (.inr hint) short)
  rw [Core64.abbreviated, if_neg hint]
  cases found : Core64.expand word with
  | none => exact bne_eq_false_iff_eq.mpr (Core64.decode_refused (.inl found) short)
  | some expansion =>
    obtain ⟨kind, operands⟩ := expansion
    have alike := (Core64.alike_expansion found).2
    rw [← Core64.decode_expanded hint short found] at alike
    refine Eq.trans ?_ (Core64.decode_encode_valid found)
    exact congrArg (· != Core64.InstructionKind.illegal) alike.kind

/-- The two decoders take the same of the halfwords that expand alike, but for C.LUI with x0 for
its destination. -/
theorem takenAlike_iff (short : quadrant word ≠ 3) (same : SameExpansion word) :
    TakenAlike word ↔ ¬Core64.LuiHint word := by
  unfold TakenAlike
  rw [valid_narrow short, valid_wide short, same, Option.isSome_map]
  unfold Core64.abbreviated
  by_cases hint : Core64.LuiHint word
  · obtain ⟨operands, found⟩ := Core64.expand_luiHint hint
    rw [if_pos hint, found]
    exact ⟨fun taken => Bool.noConfusion taken, fun other => absurd hint other⟩
  · rw [if_neg hint, Option.isSome_map]
    exact ⟨fun _ => hint, fun _ => rfl⟩

end

open Core64 in
/-- RV64C abbreviates the base instruction set but for C.LUI with x0 for its destination: the step
that has fetched a halfword is that of its expansion, a hint retires and only goes on, and every
reserved halfword is an illegal instruction. Of the halfwords that expand alike in RV32C, the two
cores take the same. -/
theorem compressed_expands [SoftFloat] [CpuBus β] :
    (∀ {core : Core β} {irqLines : IrqLines} {word : BitVec 16} {decoded : DecodedInstruction}
        {after : Fabric β},
      core.Reachable → core.Runs irqLines → quadrant word ≠ 3 →
      fetch core.executionMode (Core.awake core.state irqLines) core.fabric =
        (.ok (word.setWidth 32, decoded), after) →
      (∀ {kind operands}, expand word = some (kind, operands) → ¬LuiHint word →
        (decodeInstruction (encode kind operands)).valid = true ∧
          core.step irqLines =
            core.complete (Core.awake core.state irqLines) (word.setWidth 32)
              { decodeInstruction (encode kind operands) with length := 2 } after) ∧
      (Hint word → ¬LuiHint word →
        (core.step irqLines).1.status = .retired ∧
          (core.step irqLines).2 =
            { core with state := (Core.awake core.state irqLines).passed, fabric := after }) ∧
      (expand word = none ∨ LuiHint word → core.Refuses irqLines word after)) ∧
    ∀ {word : BitVec 16}, quadrant word ≠ 3 → SameExpansion word →
      (TakenAlike word ↔ ¬LuiHint word) := by
  refine ⟨?_, takenAlike_iff⟩
  intro core irqLines word decoded after reachable runs short fetched
  have stepped := runs.step_half reachable short fetched
  refine ⟨?_, ?_, fun refused => Core.refuses_of_illegal (decode_refused refused short) stepped⟩
  · intro kind operands found other
    exact ⟨decode_encode_valid found, stepped.trans (Core.complete_half other short found ..)⟩
  · intro hint other
    have awake :=
      wellFormed_awake (Core.WellFormed.of_reachable reachable).state irqLines
    obtain ⟨kind, operands, found, silent⟩ := silent_hint hint other
    rw [stepped, decode_expanded other short found]
    exact Core.complete_silent silent awake core _ word after

section

attribute [local instance] Core64.SoftFloat.unused

/-- C.LI x0, 1. -/
def sampleHint : Core64.Core (Platform.SystemBus Platform.Ram) :=
  .new (.ofProgram 0x80000000 0x1000 [0x00014005])

/-- The halfword zero. -/
def sampleZero : Core64.Core (Platform.SystemBus Platform.Ram) :=
  .new (.ofProgram 0x80000000 0x1000 [0])

/-- C.LUI x0, 1. -/
def sampleLui : Core64.Core (Platform.SystemBus Platform.Ram) :=
  .new (.ofProgram 0x80000000 0x1000 [0x00016005])

theorem compressed_expands_sample :
    (∃ after, Core64.Core.sampleShort.step {} =
      Core64.Core.sampleShort.complete (Core64.Core.awake Core64.Core.sampleShort.state {}) 0x147D
        { Core64.decodeInstruction 0xFFF40413 with length := 2 } after) ∧
      (sampleHint.step {}).1.status = .retired ∧ (∃ after, sampleZero.Refuses {} 0 after) ∧
      TakenAlike 0x147D := by
  have short : Core64.Core.sampleShort.Runs {} := ⟨by decide, by decide⟩
  have hint : sampleHint.Runs {} := ⟨by decide, by decide⟩
  have zero : sampleZero.Runs {} := ⟨by decide, by decide⟩
  refine ⟨?_, ?_, ?_, ?_⟩
  · have fetched : Core64.fetch Core64.Core.sampleShort.executionMode
        (Core64.Core.awake Core64.Core.sampleShort.state {}) Core64.Core.sampleShort.fabric =
          (.ok ((0x147D : BitVec 16).setWidth 32, _), _) := rfl
    exact ⟨_, ((compressed_expands.1 (.new _) short (by decide) fetched).1
      (show Core64.expand 0x147D = some (.addi, { rd := 8, rs1 := 8, immediate := -1 }) by decide)
      (by decide)).2⟩
  · have fetched : Core64.fetch sampleHint.executionMode
        (Core64.Core.awake sampleHint.state {}) sampleHint.fabric =
          (.ok ((0x4005 : BitVec 16).setWidth 32, _), _) := rfl
    exact ((compressed_expands.1 (.new _) hint (by decide) fetched).2.1
      (.li (by decide) (by decide)) (by decide)).1
  · have fetched : Core64.fetch sampleZero.executionMode
        (Core64.Core.awake sampleZero.state {}) sampleZero.fabric =
          (.ok ((0 : BitVec 16).setWidth 32, _), _) := rfl
    exact ⟨_, (compressed_expands.1 (.new _) zero (by decide) fetched).2.2 (.inl (by decide))⟩
  · exact ((compressed_expands (β := Platform.SystemBus Platform.Ram)).2 (by decide)
      (by unfold SameExpansion; decide)).mpr (by decide)

/-- C.LUI x0, 1 is a hint that only the 32-bit core takes. -/
theorem luiHint_refused :
    Core64.Hint 0x6005 ∧ (∃ after, sampleLui.Refuses {} 0x6005 after) ∧
      SameExpansion 0x6005 ∧ ¬TakenAlike 0x6005 := by
  refine ⟨.lui (by decide), ⟨_, rfl⟩, ?_, ?_⟩
  · unfold SameExpansion
    decide
  · unfold TakenAlike
    decide

end

end Decoders

end RvEmulator
