import RvEmulator.Core64.DecodeFields

/-! A word that has the constant parts of an instruction is decoded as that instruction. -/

namespace RvEmulator.Core64

open Fields

namespace Decode

variable {instruction : BitVec 32} {opcode : BitVec 7} {funct3 : BitVec 3} {rs2 funct5 : BitVec 5}
  {funct7 : BitVec 7}

theorem kind_op (admits : (Layout.register 0x33 funct3 funct7).Admits (Fields.of instruction)) :
    (decodeInstruction instruction).kind =
      opKind (funct3.setWidth 32) (funct7.setWidth 32) := by
  obtain ⟨first, third, seventh⟩ := admits
  unfold decodeInstruction
  rw [bits_opcode, bits_funct3, bits_funct7, first, third, seventh]
  rfl

theorem kind_op32 (admits : (Layout.register 0x3B funct3 funct7).Admits (Fields.of instruction)) :
    (decodeInstruction instruction).kind =
      op32Kind (funct3.setWidth 32) (funct7.setWidth 32) := by
  obtain ⟨first, third, seventh⟩ := admits
  unfold decodeInstruction
  rw [bits_opcode, bits_funct3, bits_funct7, first, third, seventh]
  rfl

theorem kind_load (admits : (Layout.immediate 0x03 funct3).Admits (Fields.of instruction)) :
    (decodeInstruction instruction).kind = loadKind (funct3.setWidth 32) := by
  obtain ⟨first, third⟩ := admits
  unfold decodeInstruction
  rw [bits_opcode, bits_funct3, first, third]
  rfl

theorem kind_store (admits : (Layout.store 0x23 funct3).Admits (Fields.of instruction)) :
    (decodeInstruction instruction).kind = storeKind (funct3.setWidth 32) := by
  obtain ⟨first, third⟩ := admits
  unfold decodeInstruction
  rw [bits_opcode, bits_funct3, first, third]
  rfl

theorem kind_branch (admits : (Layout.branch 0x63 funct3).Admits (Fields.of instruction)) :
    (decodeInstruction instruction).kind = branchKind (funct3.setWidth 32) := by
  obtain ⟨first, third⟩ := admits
  unfold decodeInstruction
  rw [bits_opcode, bits_funct3, first, third]
  rfl

theorem decode_opImm (same : (Fields.of instruction).opcode = 0x13) :
    decodeInstruction instruction =
      decodeOpImm instruction ((Fields.of instruction).funct3.setWidth 32) := by
  unfold decodeInstruction
  rw [bits_opcode, bits_funct3, same]
  rfl

theorem decode_atomic (same : (Fields.of instruction).opcode = 0x2F) :
    decodeInstruction instruction =
      decodeAtomic instruction ((Fields.of instruction).funct3.setWidth 32) := by
  unfold decodeInstruction
  rw [bits_opcode, bits_funct3, same]
  rfl

theorem decode_floating (same : (Fields.of instruction).opcode = 0x53) :
    decodeInstruction instruction =
      decodeFloating instruction ((Fields.of instruction).funct3.setWidth 32)
        ((Fields.of instruction).funct7.setWidth 32) := by
  unfold decodeInstruction
  rw [bits_opcode, bits_funct3, bits_funct7, same]
  rfl

theorem decode_system (same : (Fields.of instruction).opcode = 0x73) :
    decodeInstruction instruction =
      decodeSystem instruction ((Fields.of instruction).funct3.setWidth 32) := by
  unfold decodeInstruction
  rw [bits_opcode, bits_funct3, same]
  rfl

/-- A format with nothing but constants has one word. -/
theorem word_of_constant
    (admits : (Layout.constant opcode funct3 rs2 funct7).Admits (Fields.of instruction)) :
    instruction = Fields.word { opcode, funct3, rs2, funct7 } := by
  rw [← Fields.word_of instruction]
  exact congrArg Fields.word admits

/-- The last part of `decodeFloatingMisc`, which most values of `funct7` reach. -/
def decodeMoveConversion (word : BitVec 32) : DecodedInstruction :=
  match moveKind? (word &&& 0xFFF0707F) with
  | some kind => make word kind
  | none =>
    match conversionKind? (word &&& 0xFFF0007F) with
    | some kind => makeFloating word kind
    | none => make word .illegal

theorem kind_move {kind : InstructionKind}
    (admits : (Layout.unary 0x53 funct3 rs2 funct7).Admits (Fields.of instruction))
    (last : ∀ word third, decodeFloating word third (funct7.setWidth 32) =
      decodeMoveConversion word)
    (selected : moveKind? (Fields.word { opcode := 0x53, funct3, rs2, funct7 }) = some kind) :
    (decodeInstruction instruction).kind = kind := by
  obtain ⟨first, third, second, seventh⟩ := admits
  have masked : instruction &&& 0xFFF0707F =
      Fields.word { opcode := 0x53, funct3, rs2, funct7 } := by
    apply eq_word
    simp only [of_and_move, first, third, second, seventh]
  rw [decode_floating first, seventh, last, decodeMoveConversion, masked, selected]
  rfl

theorem kind_conversion {kind : InstructionKind}
    (admits : (Layout.roundedUnary rs2 funct7).Admits (Fields.of instruction))
    (last : ∀ word third, decodeFloating word third (funct7.setWidth 32) =
      decodeMoveConversion word)
    (noMove : ∀ funct3, moveKind? (Fields.word { opcode := 0x53, funct3, rs2, funct7 }) = none)
    (selected : conversionKind? (Fields.word { opcode := 0x53, rs2, funct7 }) = some kind) :
    (decodeInstruction instruction).kind = kind := by
  obtain ⟨first, valid, second, seventh⟩ := admits
  have masked : instruction &&& 0xFFF0707F =
      Fields.word { opcode := 0x53, funct3 := (Fields.of instruction).funct3, rs2, funct7 } := by
    apply eq_word
    simp only [of_and_move, first, second, seventh]
  have narrow : instruction &&& 0xFFF0007F = Fields.word { opcode := 0x53, rs2, funct7 } := by
    apply eq_word
    simp only [of_and_conversion, first, second, seventh]
  rw [decode_floating first, seventh, last, decodeMoveConversion, masked, noMove, narrow, selected]
  exact kind_makeFloating instruction valid

theorem kind_rounded {kind : InstructionKind}
    (admits : (Layout.rounded funct7).Admits (Fields.of instruction))
    (arithmetic : ∀ word third, decodeFloating word third (funct7.setWidth 32) =
      makeFloating word kind) :
    (decodeInstruction instruction).kind = kind := by
  obtain ⟨first, valid, seventh⟩ := admits
  rw [decode_floating first, seventh, arithmetic]
  exact kind_makeFloating instruction valid

theorem kind_squareRoot {kind : InstructionKind}
    (admits : (Layout.roundedUnary 0 funct7).Admits (Fields.of instruction))
    (root : ∀ word third, decodeFloating word third (funct7.setWidth 32) =
      if bits word 24 20 = 0 then makeFloating word kind else make word .illegal) :
    (decodeInstruction instruction).kind = kind := by
  obtain ⟨first, valid, second, seventh⟩ := admits
  rw [decode_floating first, seventh, root, bits_rs2, second, if_pos (by decide)]
  exact kind_makeFloating instruction valid

theorem kind_floating {kind : InstructionKind}
    (admits : (Layout.register 0x53 funct3 funct7).Admits (Fields.of instruction))
    (selected : ∀ word, decodeFloating word (funct3.setWidth 32) (funct7.setWidth 32) =
      make word kind) :
    (decodeInstruction instruction).kind = kind := by
  obtain ⟨first, third, seventh⟩ := admits
  rw [decode_floating first, third, seventh, selected]
  rfl

theorem decode_fused (same : (Fields.of instruction).opcode = opcode)
    (fused : opcode = 0x43 ∨ opcode = 0x47 ∨ opcode = 0x4B ∨ opcode = 0x4F) :
    decodeInstruction instruction = decodeFused instruction (opcode.setWidth 32) := by
  unfold decodeInstruction
  rw [bits_opcode, same]
  rcases fused with rfl | rfl | rfl | rfl <;> rfl

theorem kind_fused {kind : InstructionKind} {format : BitVec 2}
    (admits : (Layout.fused opcode format).Admits (Fields.of instruction))
    (fused : opcode = 0x43 ∨ opcode = 0x47 ∨ opcode = 0x4B ∨ opcode = 0x4F)
    (small : ¬ format.setWidth 32 > (1 : BitVec 32))
    (selected : fusedKind (opcode.setWidth 32) (format.setWidth 32 = (1 : BitVec 32)) = kind) :
    (decodeInstruction instruction).kind = kind := by
  obtain ⟨first, valid, precision⟩ := admits
  rw [decode_fused first fused, decodeFused, bits_format, precision]
  rw [if_neg small, selected]
  exact kind_makeFloating instruction valid

theorem kind_atomic {kind : InstructionKind}
    (admits : (Layout.atomic funct3 funct5).Admits (Fields.of instruction))
    (width : ¬ (funct3.setWidth 32 ≠ (2 : BitVec 32) ∧ funct3.setWidth 32 ≠ (3 : BitVec 32)))
    (selected : atomicKind (funct5.setWidth 32) (funct3.setWidth 32 = (3 : BitVec 32)) = kind)
    (swaps : ¬ (kind = .lrW ∨ kind = .lrD)) :
    (decodeInstruction instruction).kind = kind := by
  obtain ⟨first, third, fifth⟩ := admits
  rw [decode_atomic first, third, decodeAtomic, if_neg width]
  dsimp only
  rw [bits_funct5, fifth, selected, if_neg (fun both => swaps both.1)]
  rfl

theorem kind_loadReserved {kind : InstructionKind}
    (admits : (Layout.loadReserved funct3 funct5).Admits (Fields.of instruction))
    (width : ¬ (funct3.setWidth 32 ≠ (2 : BitVec 32) ∧ funct3.setWidth 32 ≠ (3 : BitVec 32)))
    (selected : atomicKind (funct5.setWidth 32) (funct3.setWidth 32 = (3 : BitVec 32)) = kind) :
    (decodeInstruction instruction).kind = kind := by
  obtain ⟨first, third, second, fifth⟩ := admits
  rw [decode_atomic first, third, decodeAtomic, if_neg width]
  dsimp only
  rw [bits_funct5, bits_rs2, second, fifth, selected,
    if_neg (fun both => absurd rfl both.2)]
  rfl

theorem kind_shift {kind : InstructionKind} {funct6 : BitVec 6}
    (admits : (Layout.shift 0x13 funct3 funct6).Admits (Fields.of instruction))
    (selected : ∀ word, bits word 31 26 = funct6.setWidth 32 →
      (decodeOpImm word (funct3.setWidth 32)).kind = kind) :
    (decodeInstruction instruction).kind = kind := by
  obtain ⟨first, third, sixth⟩ := admits
  rw [decode_opImm first, third]
  exact selected _ (by rw [bits_funct6, sixth])

theorem kind_opImm {kind : InstructionKind}
    (admits : (Layout.immediate 0x13 funct3).Admits (Fields.of instruction))
    (selected : ∀ word, (decodeOpImm word (funct3.setWidth 32)).kind = kind) :
    (decodeInstruction instruction).kind = kind := by
  obtain ⟨first, third⟩ := admits
  rw [decode_opImm first, third, selected]

theorem kind_opImm32 {kind : InstructionKind} (same : (Fields.of instruction).opcode = 0x1B)
    (third : (Fields.of instruction).funct3 = funct3)
    (selected : (decodeOpImm32 instruction (funct3.setWidth 32)
      ((Fields.of instruction).funct7.setWidth 32)).kind = kind) :
    (decodeInstruction instruction).kind = kind := by
  rw [← selected]
  unfold decodeInstruction
  rw [bits_opcode, bits_funct3, bits_funct7, same, third]
  rfl

theorem kind_csr {kind : InstructionKind}
    (same : (Fields.of instruction).opcode = 0x73) (third : (Fields.of instruction).funct3 = funct3)
    (general : funct3 ≠ 0)
    (selected : ∀ word, (match funct3.setWidth 32 with
      | 1#32 => makeCsr word .csrrw false
      | 2#32 => makeCsr word .csrrs false
      | 3#32 => makeCsr word .csrrc false
      | 5#32 => makeCsr word .csrrwi true
      | 6#32 => makeCsr word .csrrsi true
      | 7#32 => makeCsr word .csrrci true
      | _ => make word .illegal).kind = kind) :
    (decodeInstruction instruction).kind = kind := by
  have other : ∀ {word : BitVec 32}, (Fields.of word).funct3 = 0 → instruction ≠ word := by
    rintro word zero rfl
    exact general (third.symm.trans zero)
  have noFence : instruction &&& 0xFE007FFF ≠ 0x12000073 := by
    intro masked
    have part := congrArg Fields.funct3 (of_and_addressFence instruction)
    rw [masked] at part
    exact general (third.symm.trans part.symm)
  rw [decode_system same, third]
  unfold decodeSystem
  rw [if_neg (other (by decide)), if_neg (other (by decide)), if_neg (other (by decide)),
    if_neg (other (by decide)), if_neg (other (by decide)), if_neg noFence]
  exact selected instruction

theorem kind_addressFence
    (admits : (Layout.addressFence 0x09).Admits (Fields.of instruction)) :
    (decodeInstruction instruction).kind = .sfenceVma := by
  obtain ⟨first, destination, third, seventh⟩ := admits
  have other : ∀ {word : BitVec 32}, (Fields.of word).funct7 ≠ 0x09 → instruction ≠ word := by
    rintro word different rfl
    exact different seventh
  have masked : instruction &&& 0xFE007FFF = 0x12000073 := by
    apply Fields.of_injective
    rw [of_and_addressFence]
    simp only [first, destination, third, seventh]
    decide
  rw [decode_system first]
  unfold decodeSystem
  rw [if_neg (other (by decide)), if_neg (other (by decide)), if_neg (other (by decide)),
    if_neg (other (by decide)), if_neg (other (by decide)), if_pos masked]
  rfl

/-- The constant parts of an instruction's format select it. -/
theorem kind_of_admits {kind : InstructionKind}
    (admits : (layout kind).Admits (Fields.of instruction)) :
    (decodeInstruction instruction).kind = kind := by
  cases kind
  case illegal => exact admits.elim
  case lui | auipc | jal =>
    have first : (Fields.of instruction).opcode = _ := admits
    unfold decodeInstruction
    rw [bits_opcode, first]
    rfl
  case beq | bne | blt | bge | bltu | bgeu => exact kind_branch admits
  case lb | lh | lw | ld | lbu | lhu | lwu => exact kind_load admits
  case sb | sh | sw | sd => exact kind_store admits
  case addi | slti | sltiu | xori | ori | andi => exact kind_opImm admits (fun _ => rfl)
  case add | sub | sll | slt | sltu | xor | srl | sra | or | and | mul | mulh | mulhsu | mulhu |
      div | divu | rem | remu =>
    exact kind_op admits
  case addw | subw | sllw | srlw | sraw | mulw | divw | divuw | remw | remuw =>
    exact kind_op32 admits
  case scW | amoSwapW | amoAddW | amoXorW | amoAndW | amoOrW | amoMinW | amoMaxW | amoMinuW |
      amoMaxuW | scD | amoSwapD | amoAddD | amoXorD | amoAndD | amoOrD | amoMinD | amoMaxD |
      amoMinuD | amoMaxuD =>
    exact kind_atomic admits (by decide) rfl (by decide)
  case lrW | lrD => exact kind_loadReserved admits (by decide) rfl
  case fmvXW | fclassS | fmvWX | fmvXD | fclassD | fmvDX =>
    exact kind_move admits (fun _ _ => rfl) rfl
  case faddS | fsubS | fmulS | fdivS | faddD | fsubD | fmulD | fdivD =>
    exact kind_rounded admits (fun _ _ => rfl)
  case fsqrtS | fsqrtD => exact kind_squareRoot admits (fun _ _ => rfl)
  case fmaddS | fmsubS | fnmsubS | fnmaddS | fmaddD | fmsubD | fnmsubD | fnmaddD =>
    exact kind_fused admits (by decide) (by decide) rfl
  case fsgnjS | fsgnjnS | fsgnjxS | fsgnjD | fsgnjnD | fsgnjxD | fminS | fmaxS | fminD | fmaxD |
      feqS | fltS | fleS | feqD | fltD | fleD =>
    exact kind_floating admits (fun _ => rfl)
  case fcvtSD | fcvtDS | fcvtWS | fcvtWuS | fcvtLS | fcvtLuS | fcvtWD | fcvtWuD | fcvtLD |
      fcvtLuD | fcvtSW | fcvtSWu | fcvtSL | fcvtSLu | fcvtDW | fcvtDWu | fcvtDL | fcvtDLu =>
    exact kind_conversion admits (fun _ _ => rfl) (by decide) rfl
  case csrrw | csrrs | csrrc | csrrwi | csrrsi | csrrci =>
    exact kind_csr admits.1 admits.2 (by decide) (fun _ => rfl)
  case fenceI | ecall | ebreak | mret | sret | wfi =>
    rw [word_of_constant admits]
    rfl
  case sfenceVma => exact kind_addressFence admits
  case slli => exact kind_shift admits (fun _ sixth => congrArg _ (if_pos sixth))
  case srli => exact kind_shift admits (fun _ sixth => congrArg _ (if_pos sixth))
  case srai =>
    apply kind_shift admits
    intro word sixth
    have other : bits word 31 26 ≠ 0 := by rw [sixth]; decide
    exact congrArg _ ((if_neg other).trans (if_pos sixth))
  case addiw => exact kind_opImm32 admits.1 admits.2 rfl
  case slliw | srliw | sraiw =>
    apply kind_opImm32 admits.1 admits.2.1
    rw [admits.2.2]
    rfl
  case jalr | flw | fld | fsw | fsd | fence =>
    obtain ⟨first, third⟩ := admits
    unfold decodeInstruction
    rw [bits_opcode, bits_funct3, first, third]
    rfl

end Decode

end RvEmulator.Core64
