import RvEmulator.Common.RoundTrip
import RvEmulator.Core64.DecodeReads

/-! Decoding and encoding are inverse to each other. -/

namespace RvEmulator.Core64

open Decode Fields

/-- A word is an encoding of an instruction, up to the bits that are ignored. -/
def Encodes (instruction : BitVec 32) (kind : InstructionKind) (operands : Operands 64) : Prop :=
  instruction &&& significant kind = encode kind operands &&& significant kind

theorem layout_eq_fence {kind : InstructionKind} {funct3 : BitVec 3}
    (fence : layout kind = .fence funct3) :
    kind = .fence := by
  cases kind <;> first | rfl | cases fence

theorem layout_eq_none {kind : InstructionKind} (none : layout kind = .none) :
    kind = .illegal := by
  cases kind <;> first | rfl | cases none

/-- Away from FENCE every bit counts. -/
theorem encodes_iff {instruction : BitVec 32} {kind : InstructionKind} {operands : Operands 64}
    (other : kind ≠ .fence) : Encodes instruction kind operands ↔
      Fields.of instruction = operands.fields (layout kind) := by
  have ones (word : BitVec 32) : word &&& 0xFFFFFFFF = word := BitVec.and_allOnes
  unfold Encodes significant encode
  rw [if_neg other, ones, ones]
  constructor
  · rintro rfl
    exact Fields.of_word _
  · exact eq_word

theorem encodes_fence_iff {instruction : BitVec 32} {operands : Operands 64} :
    Encodes instruction .fence operands ↔ (Layout.fence 0).Admits (Fields.of instruction) := by
  have encoded : encode .fence operands &&& significant .fence = 0x0000000F := by
    have plain : encode .fence operands = Fields.word { opcode := 0x0F } := rfl
    rw [plain]
    decide
  have mask : significant .fence = 0x0000707F := rfl
  rw [Encodes, encoded, mask]
  constructor
  · intro masked
    have parts := of_and_fence instruction
    rw [masked] at parts
    exact ⟨(congrArg Fields.opcode parts).symm, (congrArg Fields.funct3 parts).symm⟩
  · rintro ⟨first, third⟩
    apply Fields.of_injective
    rw [of_and_fence, first, third]
    decide

/-- A word that encodes an instruction has its format, and the format finds its operands. -/
theorem Encodes.read {instruction : BitVec 32} {kind : InstructionKind} {operands : Operands 64}
    (encodes : Encodes instruction kind operands) (inRange : operands.InRange (layout kind))
    (rounds : operands.Rounds (layout kind)) :
    (layout kind).Admits (Fields.of instruction) ∧
      Operands.of (layout kind) (Fields.of instruction) = operands.used (layout kind) := by
  by_cases fence : kind = .fence
  · subst fence
    exact ⟨encodes_fence_iff.mp encodes, rfl⟩
  · rw [(encodes_iff fence).mp encodes]
    exact ⟨Operands.admits_fields inRange rounds, Operands.of_fields inRange⟩

theorem decode_of_encodes {instruction : BitVec 32} {kind : InstructionKind}
    {operands : Operands 64} (encodes : Encodes instruction kind operands)
    (inRange : operands.InRange (layout kind)) (rounds : operands.Rounds (layout kind)) :
    (decodeInstruction instruction).kind = kind ∧
      (decodeInstruction instruction).operands.used (layout kind) =
        operands.used (layout kind) := by
  obtain ⟨admits, found⟩ := encodes.read inRange rounds
  have same := kind_of_admits admits
  refine ⟨same, ?_⟩
  have legal : (decodeInstruction instruction).kind ≠ .illegal := by
    rw [same]
    rintro rfl
    exact inRange
  have read := (reads_decode instruction legal).2
  rw [same] at read
  exact read.trans found

theorem encodes_of_decode {instruction : BitVec 32}
    (valid : (decodeInstruction instruction).valid) :
    let decoded := decodeInstruction instruction
    decoded.operands.InRange (layout decoded.kind) ∧
      decoded.operands.Rounds (layout decoded.kind) ∧
      Encodes instruction decoded.kind decoded.operands := by
  dsimp only
  have legal : (decodeInstruction instruction).kind ≠ .illegal := bne_iff_ne.mp valid
  obtain ⟨admits, found⟩ := reads_decode instruction legal
  refine ⟨?_, ?_, ?_⟩
  · rw [← Operands.inRange_used, found]
    exact Operands.inRange_of (by decide) (fun none => legal (layout_eq_none none))
  · rw [← Operands.rounds_used, found]
    exact Operands.rounds_of admits
  · by_cases fence : (decodeInstruction instruction).kind = .fence
    · rw [fence] at admits ⊢
      exact encodes_fence_iff.mpr admits
    · rw [encodes_iff fence, ← Operands.fields_used, found]
      exact (Operands.fields_of (by decide) admits
        (fun _ same => fence (layout_eq_fence same))).symm

/-- Decoding inverts encoding: the encoding of an instruction is decoded as that instruction,
what is decoded is encoded as it was, and a word that is not decoded is no encoding. Rounding
modes that are reserved are no operands. -/
theorem decode_encode :
    (∀ (kind : InstructionKind) (operands : Operands 64) (instruction : BitVec 32),
      operands.InRange (layout kind) → operands.Rounds (layout kind) →
      Encodes instruction kind operands →
      (decodeInstruction instruction).kind = kind ∧
        (decodeInstruction instruction).operands.used (layout kind) =
          operands.used (layout kind)) ∧
    (∀ instruction : BitVec 32, (decodeInstruction instruction).valid →
      let decoded := decodeInstruction instruction
      decoded.operands.InRange (layout decoded.kind) ∧
        decoded.operands.Rounds (layout decoded.kind) ∧
        Encodes instruction decoded.kind decoded.operands) ∧
    (∀ instruction : BitVec 32, (decodeInstruction instruction).valid = false →
      ¬ ∃ (kind : InstructionKind) (operands : Operands 64),
        operands.InRange (layout kind) ∧ operands.Rounds (layout kind) ∧
          Encodes instruction kind operands) := by
  refine ⟨?_, ?_, ?_⟩
  · intro kind operands instruction inRange rounds encodes
    exact decode_of_encodes encodes inRange rounds
  · intro instruction valid
    exact encodes_of_decode valid
  · rintro instruction invalid ⟨kind, operands, inRange, rounds, encodes⟩
    have same := (decode_of_encodes encodes inRange rounds).1
    have illegal : (decodeInstruction instruction).kind = .illegal := by
      simpa [DecodedInstruction.valid] using invalid
    rw [← same, illegal] at inRange
    exact inRange

/-- ADDI x1, x2, -3. -/
theorem decode_encode_addi :
    (decodeInstruction (encode .addi { rd := 1, rs1 := 2, immediate := -3 })).kind = .addi :=
  (decode_encode.1 .addi { rd := 1, rs1 := 2, immediate := -3 } _ rfl trivial rfl).1

/-- FADD.S with the reserved rounding mode 5 is rejected already by the decoder. -/
theorem reserved_rounding_rejected :
    ¬ ∀ (kind : InstructionKind) (operands : Operands 64), operands.InRange (layout kind) →
      (decodeInstruction (encode kind operands)).kind = kind := by
  intro decodes
  have added := decodes .faddS { roundingMode := 5 } rfl
  exact absurd added (by decide)

end RvEmulator.Core64
