import RvEmulator.Core32.Encoding

/-! A word that has the constant parts of an instruction is decoded as that instruction. -/

namespace RvEmulator.Core32

open Fields

namespace Decode

variable {instruction : BitVec 32}

theorem decode_opcode : decodeInstruction instruction =
    match (Fields.of instruction).opcode.setWidth 32 with
    | 0x37#32 => makeDecoded instruction .lui ((Fields.of instruction).rd.setWidth 32) 0 0
        (decodeUImm instruction)
    | 0x17#32 => makeDecoded instruction .auipc ((Fields.of instruction).rd.setWidth 32) 0 0
        (decodeUImm instruction)
    | 0x6F#32 => makeDecoded instruction .jal ((Fields.of instruction).rd.setWidth 32) 0 0
        (decodeJImm instruction)
    | 0x67#32 => if (Fields.of instruction).funct3.setWidth 32 = 0#32 then
        makeI instruction .jalr (decodeIImm instruction) else illegal instruction
    | 0x63#32 => decodeBranch instruction ((Fields.of instruction).funct3.setWidth 32)
    | 0x03#32 => decodeLoad instruction ((Fields.of instruction).funct3.setWidth 32)
    | 0x23#32 => decodeStore instruction ((Fields.of instruction).funct3.setWidth 32)
    | 0x13#32 => decodeOpImm instruction ((Fields.of instruction).funct3.setWidth 32)
        ((Fields.of instruction).funct7.setWidth 32) ((Fields.of instruction).rs2.setWidth 32)
    | 0x33#32 => decodeOp instruction ((Fields.of instruction).funct3.setWidth 32)
        ((Fields.of instruction).funct7.setWidth 32)
    | 0x2F#32 => decodeAmo instruction ((Fields.of instruction).funct3.setWidth 32)
        ((Fields.of instruction).rs2.setWidth 32)
    | 0x0F#32 => decodeMiscMem instruction ((Fields.of instruction).funct3.setWidth 32)
    | 0x73#32 => decodeSystem instruction ((Fields.of instruction).funct3.setWidth 32)
        ((Fields.of instruction).rs1.setWidth 32) ((Fields.of instruction).rs2.setWidth 32)
    | _ => illegal instruction := by
  unfold decodeInstruction
  rw [extractFields_eq]
  rfl

theorem kind_amo {kind : InstructionKind} {funct5 : BitVec 5}
    (admits : (Layout.atomic 2 funct5).Admits (Fields.of instruction))
    (selected : ∀ word rs2, getBits word 31 27 = funct5.setWidth 32 →
      (decodeAmo word 2 rs2).kind = kind) :
    (decodeInstruction instruction).kind = kind := by
  obtain ⟨first, third, fifth⟩ := admits
  rw [decode_opcode, first, third]
  apply selected
  rw [getBits_eq _ (by decide) (by decide), ← fifth, ← Fields.funct5_of]

theorem kind_loadReserved
    (admits : (Layout.loadReserved 2 0x02).Admits (Fields.of instruction)) :
    (decodeInstruction instruction).kind = .lrW := by
  obtain ⟨first, third, second, fifth⟩ := admits
  have selected : getBits instruction 31 27 = 0x02#32 := by
    rw [getBits_eq _ (by decide) (by decide), Fields.funct5_of, fifth]
    rfl
  rw [decode_opcode, first, third, second]
  show (decodeAmo instruction 2 0).kind = .lrW
  unfold decodeAmo
  rw [selected]
  rfl

theorem kind_csr {kind : InstructionKind} {funct3 : BitVec 3}
    (same : (Fields.of instruction).opcode = 0x73) (third : (Fields.of instruction).funct3 = funct3)
    (general : funct3 ≠ 0)
    (selected : ∀ word, (match funct3.setWidth 32 with
      | 1#32 => makeCsr word .csrrw false
      | 2#32 => makeCsr word .csrrs false
      | 3#32 => makeCsr word .csrrc false
      | 5#32 => makeCsr word .csrrwi true
      | 6#32 => makeCsr word .csrrsi true
      | 7#32 => makeCsr word .csrrci true
      | _ => illegal word).kind = kind) :
    (decodeInstruction instruction).kind = kind := by
  have other : ∀ {word : BitVec 32}, (Fields.of word).funct3 = 0 → instruction ≠ word := by
    rintro word zero rfl
    exact general (third.symm.trans zero)
  have noFence : instruction &&& 0xFE007FFF ≠ 0x12000073 := by
    intro masked
    have part := congrArg Fields.funct3 (of_and_addressFence instruction)
    rw [masked] at part
    exact general (third.symm.trans part.symm)
  rw [decode_opcode, same, third]
  show (decodeSystem instruction _ _ _).kind = kind
  unfold decodeSystem
  rw [if_neg (other (by decide)), if_neg (other (by decide)), if_neg (other (by decide)),
    if_neg (other (by decide)), if_neg (other (by decide)), if_neg noFence]
  exact selected instruction

theorem kind_addressFence (admits : (Layout.addressFence 0x09).Admits (Fields.of instruction)) :
    (decodeInstruction instruction).kind = .sfenceVma := by
  obtain ⟨first, destination, third, seventh⟩ := admits
  have other : ∀ {word : BitVec 32}, (Fields.of word).funct7 ≠ 0x09 → instruction ≠ word := by
    rintro word different rfl
    exact different seventh
  have masked : instruction &&& 0xFE007FFF = 0x12000073 := by
    apply Fields.of_injective
    rw [of_and_addressFence]
    simp only [first, destination, third, seventh]
    decide
  rw [decode_opcode, first]
  show (decodeSystem instruction _ _ _).kind = .sfenceVma
  unfold decodeSystem
  rw [if_neg (other (by decide)), if_neg (other (by decide)), if_neg (other (by decide)),
    if_neg (other (by decide)), if_neg (other (by decide)), if_pos masked]
  rfl

/-- The constant parts of an instruction's format select it. -/
theorem kind_of_admits {kind : InstructionKind}
    (admits : (layout kind).Admits (Fields.of instruction)) :
    (decodeInstruction instruction).kind = kind := by
  cases kind
  case illegal => exact admits.elim
  case lui | auipc | jal =>
    have first : (Fields.of instruction).opcode = _ := admits
    rw [decode_opcode, first]
    rfl
  case jalr | beq | bne | blt | bge | bltu | bgeu | lb | lh | lw | lbu | lhu | sb | sh | sw |
      addi | slti | sltiu | xori | ori | andi | fence | fenceI =>
    obtain ⟨first, third⟩ := admits
    rw [decode_opcode, first, third]
    rfl
  case slli | srli | srai | add | sub | sll | slt | sltu | xor | srl | sra | or | and | mul |
      mulh | mulhsu | mulhu | div | divu | rem | remu =>
    obtain ⟨first, third, seventh⟩ := admits
    rw [decode_opcode, first, third, seventh]
    rfl
  case scW | amoSwapW | amoAddW | amoXorW | amoAndW | amoOrW | amoMinW | amoMaxW | amoMinuW |
      amoMaxuW =>
    apply kind_amo admits
    intro word rs2 fifth
    unfold decodeAmo
    rw [fifth]
    rfl
  case lrW => exact kind_loadReserved admits
  case csrrw | csrrs | csrrc | csrrwi | csrrsi | csrrci =>
    exact kind_csr admits.1 admits.2 (by decide) (fun _ => rfl)
  case ecall | ebreak | mret | sret | wfi =>
    rw [eq_word admits]
    rfl
  case sfenceVma => exact kind_addressFence admits

end Decode

end RvEmulator.Core32
