import RvEmulator.Core32.Dispatch

/-! The chain of units that may each decline, and the switch over the unit of the
instruction, run the same routine. -/

namespace RvEmulator.Core32

open Library

/-- What a unit may answer for its own instructions. -/
def Decides : UnitResult → Prop
  | .declined => False
  | .ready pending => pending.ready = true
  | .raise .. => True

theorem Decides.of_answers {state : CpuSnapshot} {decoded : DecodedInstruction}
    {wanted : ExecutionUnit} (unit : executionUnit decoded.kind = wanted) {result : UnitResult}
    (answers : Answers state decoded wanted result) : Decides result := by
  cases result with
  | declined => exact absurd unit answers
  | ready pending => exact answers.1
  | raise => trivial

section

variable [CpuBus β]

/-- A unit that always decides, whatever it finds on the bus. -/
def Deciding (run : Instr β UnitResult) : Prop :=
  Exec.Ensures (fun _ => True) run (fun result _ => Decides result) (fun _ _ => True)

namespace Deciding

omit [CpuBus β] in
theorem pure {result : UnitResult} (decides : Decides result) : Deciding (β := β) (pure result) :=
  Exec.Ensures.pure fun _ _ => decides

omit [CpuBus β] in
theorem bind {x : Instr β α} {f : α → Instr β UnitResult} (next : ∀ a, Deciding (f a)) :
    Deciding (x >>= f) :=
  Exec.Ensures.bind (fun _ _ => ⟨fun _ _ => trivial, fun _ _ => trivial⟩) next

omit [CpuBus β] in
theorem ite {condition : Prop} [Decidable condition] {x y : Instr β UnitResult}
    (left : Deciding x) (right : Deciding y) : Deciding (if condition then x else y) := by
  split
  · exact left
  · exact right

theorem dataAccess (mode : ExecutionMode) (state : CpuSnapshot) (address : Xlen)
    (width : AccessWidth) (loads : Bool) {access : PhysAddr → Instr β UnitResult}
    (accesses : ∀ place, Deciding (access place)) :
    Deciding (Core32.dataAccess mode state address width loads access) :=
  ite (pure trivial) (bind fun _ => ite (pure trivial) (accesses _))

theorem executeMemory (mode : ExecutionMode) (state : CpuSnapshot) {decoded : DecodedInstruction}
    (unit : executionUnit decoded.kind = .memory) (rs1 rs2 : Xlen) :
    Deciding (β := β) (Core32.executeMemory mode state decoded rs1 rs2) := by
  unfold Core32.executeMemory
  dsimp only
  split
  · rename_i other
    exact absurd unit (memoryShape_eq_none other)
  · exact dataAccess mode state _ _ _ fun _ => bind fun _ => ite (pure trivial) (pure rfl)
  · exact dataAccess mode state _ _ _ fun _ => bind fun _ => ite (pure trivial) (pure rfl)

theorem executeAtomic (mode : ExecutionMode) (state : CpuSnapshot) {decoded : DecodedInstruction}
    (unit : executionUnit decoded.kind = .atomic) (rs1 rs2 : Xlen) :
    Deciding (β := β) (Core32.executeAtomic mode state decoded rs1 rs2) := by
  unfold Core32.executeAtomic
  dsimp only
  split
  · rename_i other
    exact absurd unit (atomicKind_eq_none other)
  · exact dataAccess mode state _ _ _ fun _ => bind fun _ => ite (pure trivial) (pure rfl)

end Deciding

/-- What a unit makes of an instruction, whatever it finds on the bus: it does not leave it to
another one. -/
def Handles (mode : ExecutionMode) (state : CpuSnapshot) (decoded : DecodedInstruction)
    (fabric : Fabric β) : ExecutionUnit → Prop
  | .integer =>
    (executeDecoded decoded state.pc (state.registers decoded.rs1)
      (state.registers decoded.rs2)).status ≠ .unsupportedInstruction
  | .privileged => executePrivileged decoded state ≠ .declined
  | .controlFlow =>
    executeControlFlow decoded state.pc (state.registers decoded.rs1)
      (state.registers decoded.rs2) ≠ .declined
  | .atomic =>
    (executeAtomic mode state decoded (state.registers decoded.rs1) (state.registers decoded.rs2)
      fabric).1 ≠ .ok .declined
  | .csr =>
    executeCsr decoded state (CpuBus.readTime fabric.bus) (state.registers decoded.rs1) ≠ .declined
  | .memory =>
    (executeMemory mode state decoded (state.registers decoded.rs1) (state.registers decoded.rs2)
      fabric).1 ≠ .ok .declined

omit [CpuBus β] in
theorem Decides.handled {result : UnitResult} (decides : Decides result) : result ≠ .declined := by
  rintro rfl
  exact decides

omit [CpuBus β] in
theorem Deciding.handled {run : Instr β UnitResult} (deciding : Deciding run)
    (fabric : Fabric β) : (run fabric).1 ≠ .ok .declined :=
  fun declined => (deciding fabric trivial).1 _ declined

/-- Every valid instruction is handled by the unit that its kind names. -/
theorem handles_own (mode : ExecutionMode) (state : CpuSnapshot) {decoded : DecodedInstruction}
    (valid : decoded.valid = true) (fabric : Fabric β) :
    Handles mode state decoded fabric (executionUnit decoded.kind) := by
  cases unit : executionUnit decoded.kind with
  | integer =>
    intro unsupported
    rcases undecided_executeDecoded valid (by rw [unsupported]; decide)
        (by rw [unsupported]; decide) with ⟨ready, _⟩ | ⟨_, untried⟩
    · rw [PendingCommit.ready, unsupported] at ready
      cases ready
    · exact untried (unit ▸ List.mem_singleton_self _)
  | privileged => exact (Decides.of_answers unit (answers_executePrivileged state decoded)).handled
  | controlFlow =>
    exact (Decides.of_answers unit (answers_executeControlFlow state decoded)).handled
  | atomic => exact (Deciding.executeAtomic mode state unit _ _).handled fabric
  | csr => exact (Decides.of_answers unit (answers_executeCsr state decoded _)).handled
  | memory => exact (Deciding.executeMemory mode state unit _ _).handled fabric

/-! ### Units of other instructions -/

theorem other_unit {kind : InstructionKind} {own wanted : ExecutionUnit}
    (unit : executionUnit kind = own) (different : own ≠ wanted) : executionUnit kind ≠ wanted :=
  unit.trans_ne different

theorem executePrivileged_other (state : CpuSnapshot) {decoded : DecodedInstruction}
    (other : executionUnit decoded.kind ≠ .privileged) :
    executePrivileged decoded state = .declined := by
  unfold executePrivileged
  dsimp only
  split
  all_goals first
    | rfl
    | rename_i kind
      rw [kind] at other
      exact absurd rfl other

theorem executeControlFlow_other (pc rs1 rs2 : Xlen) {decoded : DecodedInstruction}
    (other : executionUnit decoded.kind ≠ .controlFlow) :
    executeControlFlow decoded pc rs1 rs2 = .declined := by
  unfold executeControlFlow
  dsimp only
  split
  all_goals first
    | rfl
    | rename_i kind
      rw [kind] at other
      exact absurd rfl other

theorem executeCsr_other (state : CpuSnapshot) (time : BitVec 64) (rs1 : Xlen)
    {decoded : DecodedInstruction} (other : executionUnit decoded.kind ≠ .csr) :
    executeCsr decoded state time rs1 = .declined := by
  have unlisted : (csrReplaces decoded.kind || csrSets decoded.kind || csrClears decoded.kind) =
      false := by
    revert other
    cases decoded.kind <;> decide
  rw [executeCsr, unlisted]
  rfl

theorem executeAtomic_other (mode : ExecutionMode) (state : CpuSnapshot)
    {decoded : DecodedInstruction} (other : executionUnit decoded.kind ≠ .atomic) (rs1 rs2 : Xlen) :
    (executeAtomic mode state decoded rs1 rs2 : Instr β _) = pure .declined := by
  unfold executeAtomic
  split
  · rfl
  · rename_i known
    exact absurd (atomicKind_eq_some known) other

/-! ### Attempts -/

/-- Ask a unit for the commit of its own instruction. -/
def askUnit (instruction : BitVec 32) (run : Instr β UnitResult) : Instr β PendingCommit := do
  match ← run with
  | .ready next => pure next
  | .declined => Exec.stop ⟨.illegalInstruction, instruction, instruction, .none⟩
  | .raise cause trapValue busFault => Exec.stop ⟨cause, instruction, trapValue, busFault⟩

variable (mode : ExecutionMode) {decoded : DecodedInstruction} {wanted : ExecutionUnit}
  {instruction : BitVec 32} {run : Instr β UnitResult} {pending : PendingCommit}

omit [CpuBus β] in
theorem attempt_done (ready : pending.ready = true) :
    attempt mode decoded wanted instruction run pending = pure pending := by
  rw [attempt, ready, if_neg]
  simp

omit [CpuBus β] in
/-- A unit that would decline may as well not be asked. -/
theorem attempt_declined (declines : run = pure .declined) :
    attempt mode decoded wanted instruction run pending = pure pending := by
  subst declines
  rw [attempt]
  split <;> rfl

omit [CpuBus β] in
/-- The unit of the instruction is asked in either mode. -/
theorem attempt_own (unit : executionUnit decoded.kind = wanted) (waiting : pending.ready = false)
    (deciding : Deciding run) :
    attempt mode decoded wanted instruction run pending = askUnit instruction run := by
  have asked : (!pending.ready && (mode == .reference || executionUnit decoded.kind == wanted)) =
      true := by
    rw [waiting, unit]
    simp
  rw [attempt, if_pos asked]
  funext fabric
  have decided := (deciding fabric trivial).1
  rcases answer : run fabric with ⟨trap | result, after⟩
  · rw [askUnit, Exec.bind_error answer, Exec.bind_error answer]
  · rw [askUnit, Exec.bind_ok answer, Exec.bind_ok answer]
    rw [answer] at decided
    cases result with
    | declined => exact (decided .declined rfl).elim
    | ready | raise => rfl

omit [CpuBus β] in
/-- What the unit of the instruction returns goes past the remaining ones. -/
theorem askUnit_bind (deciding : Deciding run) {rest : PendingCommit → Instr β PendingCommit}
    (done : ∀ next, next.ready = true → rest next = pure next) :
    askUnit instruction run >>= rest = askUnit instruction run := by
  funext fabric
  have decided := (deciding fabric trivial).1
  rcases answer : run fabric with ⟨trap | result, after⟩
  · have stopped : askUnit instruction run fabric = (.error trap, after) := Exec.bind_error answer
    rw [Exec.bind_error stopped, stopped]
  · rw [answer] at decided
    cases result with
    | declined => exact (decided .declined rfl).elim
    | ready next =>
      have returned : askUnit instruction run fabric = (.ok next, after) := Exec.bind_ok answer
      rw [Exec.bind_ok returned, done next (decided (.ready next) rfl), returned]
      rfl
    | raise cause trapValue busFault =>
      have stopped : askUnit instruction run fabric =
          (.error ⟨cause, instruction, trapValue, busFault⟩, after) := Exec.bind_ok answer
      rw [Exec.bind_error stopped, stopped]

omit [CpuBus β] in
theorem executeDecoded_other (pc rs1 rs2 : Xlen) (other : executionUnit decoded.kind ≠ .integer) :
    (executeDecoded decoded pc rs1 rs2).status = .unsupportedInstruction := by
  unfold executeDecoded integerValue
  cases kind : decoded.kind
  all_goals
    rw [kind] at other
    first
    | exact absurd rfl other
    | dsimp only
      split <;> rfl

omit [CpuBus β] in
theorem attemptInteger_other (state : CpuSnapshot) (instruction : BitVec 32)
    (other : executionUnit decoded.kind ≠ .integer) :
    ∃ pending, pending.ready = false ∧
      (attemptInteger mode decoded state instruction : Instr β _) = pure pending := by
  have status : (if mode == .reference || executionUnit decoded.kind == .integer then
        executeDecoded decoded state.pc (state.registers decoded.rs1) (state.registers decoded.rs2)
      else { status := .unsupportedInstruction, pc := state.pc, instruction,
             nextPc := state.pc }).status = .unsupportedInstruction := by
    split
    · exact executeDecoded_other _ _ _ other
    · rfl
  unfold attemptInteger
  dsimp only
  refine ⟨_, ?_, by rw [status]⟩
  rw [PendingCommit.ready, status]
  rfl

omit [CpuBus β] in
theorem attemptInteger_own (state : CpuSnapshot) (instruction : BitVec 32)
    (unit : executionUnit decoded.kind = .integer) :
    (attemptInteger mode decoded state instruction : Instr β _) =
      attemptInteger .reference decoded state instruction := by
  unfold attemptInteger
  rw [unit]
  cases mode <;> rfl

omit [CpuBus β] in
theorem attemptInteger_bind {state : CpuSnapshot} (valid : decoded.valid = true)
    (unit : executionUnit decoded.kind = .integer) {rest : PendingCommit → Instr β PendingCommit}
    (done : ∀ next, next.ready = true → rest next = pure next) :
    attemptInteger .reference decoded state instruction >>= rest =
      attemptInteger .reference decoded state instruction := by
  unfold attemptInteger
  dsimp only
  have asked : (ExecutionMode.reference == .reference || executionUnit decoded.kind == .integer) =
      true := rfl
  rw [if_pos asked]
  have decided := @undecided_executeDecoded state decoded valid
  rw [Undecided, unit] at decided
  have ready (calls : (executeDecoded decoded state.pc (state.registers decoded.rs1)
        (state.registers decoded.rs2)).status ≠ .environmentCall)
      (breaks : (executeDecoded decoded state.pc (state.registers decoded.rs1)
        (state.registers decoded.rs2)).status ≠ .breakpoint) :=
    ((decided calls breaks).resolve_right fun waits => waits.2 (List.mem_singleton.mpr rfl)).1
  split
  · rfl
  · rfl
  all_goals
    rename_i status
    rw [status] at ready
    exact done _ (ready (by decide) (by decide))

/-! ### The dispatch -/

/-- The routine of each unit. -/
def ownUnit (state : CpuSnapshot) (instruction : BitVec 32) (decoded : DecodedInstruction) :
    ExecutionUnit → Instr β PendingCommit
  | .integer => attemptInteger .reference decoded state instruction
  | .privileged => askUnit instruction (pure (executePrivileged decoded state))
  | .controlFlow =>
    askUnit instruction (pure (executeControlFlow decoded state.pc (state.registers decoded.rs1)
      (state.registers decoded.rs2)))
  | .atomic =>
    askUnit instruction (executeAtomic mode state decoded (state.registers decoded.rs1)
      (state.registers decoded.rs2))
  | .csr =>
    askUnit instruction (Exec.lift fun fabric =>
      (executeCsr decoded state (CpuBus.readTime fabric.bus) (state.registers decoded.rs1), fabric))
  | .memory =>
    askUnit instruction (executeMemory mode state decoded (state.registers decoded.rs1)
      (state.registers decoded.rs2))

/-- Whichever mode dispatches a valid instruction, the unit of its kind runs, and no
other has any effect. -/
theorem dispatch_eq_ownUnit (state : CpuSnapshot) (instruction : BitVec 32)
    (valid : decoded.valid = true) :
    (dispatch mode state instruction decoded : Instr β _) =
      ownUnit mode state instruction decoded (executionUnit decoded.kind) := by
  have csrDeclines (other : executionUnit decoded.kind ≠ .csr) :
      (Exec.lift fun fabric => (executeCsr decoded state (CpuBus.readTime fabric.bus)
        (state.registers decoded.rs1), fabric) : Instr β UnitResult) = pure .declined := by
    funext fabric
    rw [Exec.lift_apply, executeCsr_other state _ _ other]
    rfl
  have privilegedDeclines (other : executionUnit decoded.kind ≠ .privileged) :
      (pure (executePrivileged decoded state) : Instr β UnitResult) = pure .declined :=
    congrArg pure (executePrivileged_other state other)
  have controlFlowDeclines (other : executionUnit decoded.kind ≠ .controlFlow) :
      (pure (executeControlFlow decoded state.pc (state.registers decoded.rs1)
        (state.registers decoded.rs2)) : Instr β UnitResult) = pure .declined :=
    congrArg pure (executeControlFlow_other _ _ _ other)
  cases unit : executionUnit decoded.kind with
  | integer =>
    rw [dispatch, attemptInteger_own mode state instruction unit]
    refine attemptInteger_bind valid unit fun next ready => ?_
    simp only [attempt_done mode ready, Exec.pure_bind]
  | privileged =>
    obtain ⟨pending, waiting, skipped⟩ :=
      attemptInteger_other (β := β) mode state instruction (other_unit unit (by decide))
    have deciding : Deciding (β := β) (pure (executePrivileged decoded state)) :=
      .pure (.of_answers unit (answers_executePrivileged state decoded))
    rw [dispatch, skipped, Exec.pure_bind, attempt_own mode unit waiting deciding]
    refine askUnit_bind deciding fun next ready => ?_
    simp only [attempt_done mode ready, Exec.pure_bind]
  | controlFlow =>
    obtain ⟨pending, waiting, skipped⟩ :=
      attemptInteger_other (β := β) mode state instruction (other_unit unit (by decide))
    have deciding : Deciding (β := β) (pure (executeControlFlow decoded state.pc
        (state.registers decoded.rs1) (state.registers decoded.rs2))) :=
      .pure (.of_answers unit (answers_executeControlFlow state decoded))
    rw [dispatch, skipped, Exec.pure_bind,
      attempt_declined mode (privilegedDeclines (other_unit unit (by decide))), Exec.pure_bind,
      attempt_own mode unit waiting deciding]
    refine askUnit_bind deciding fun next ready => ?_
    simp only [attempt_done mode ready, Exec.pure_bind]
  | atomic =>
    obtain ⟨pending, waiting, skipped⟩ :=
      attemptInteger_other (β := β) mode state instruction (other_unit unit (by decide))
    have deciding : Deciding (β := β) (executeAtomic mode state decoded
        (state.registers decoded.rs1) (state.registers decoded.rs2)) :=
      .executeAtomic mode state unit _ _
    rw [dispatch, skipped, Exec.pure_bind,
      attempt_declined mode (privilegedDeclines (other_unit unit (by decide))), Exec.pure_bind,
      attempt_declined mode (controlFlowDeclines (other_unit unit (by decide))), Exec.pure_bind,
      attempt_own mode unit waiting deciding]
    refine askUnit_bind deciding fun next ready => ?_
    simp only [attempt_done mode ready, Exec.pure_bind]
  | csr =>
    obtain ⟨pending, waiting, skipped⟩ :=
      attemptInteger_other (β := β) mode state instruction (other_unit unit (by decide))
    have deciding : Deciding (Exec.lift fun fabric : Fabric β => (executeCsr decoded state
        (CpuBus.readTime fabric.bus) (state.registers decoded.rs1), fabric)) :=
      Exec.Ensures.lift fun _ _ => .of_answers unit (answers_executeCsr state decoded _)
    rw [dispatch, skipped, Exec.pure_bind,
      attempt_declined mode (privilegedDeclines (other_unit unit (by decide))), Exec.pure_bind,
      attempt_declined mode (controlFlowDeclines (other_unit unit (by decide))), Exec.pure_bind,
      attempt_declined mode (executeAtomic_other mode state (other_unit unit (by decide)) _ _), Exec.pure_bind,
      attempt_own mode unit waiting deciding]
    refine askUnit_bind deciding fun next ready => ?_
    exact attempt_done mode ready
  | memory =>
    obtain ⟨pending, waiting, skipped⟩ :=
      attemptInteger_other (β := β) mode state instruction (other_unit unit (by decide))
    have deciding : Deciding (β := β) (executeMemory mode state decoded
        (state.registers decoded.rs1) (state.registers decoded.rs2)) :=
      .executeMemory mode state unit _ _
    have resorted : Deciding (β := β) (do
        let result ← executeMemory mode state decoded (state.registers decoded.rs1)
          (state.registers decoded.rs2)
        pure (lastResort instruction result)) := by
      refine Exec.Ensures.bind deciding fun result => Exec.Ensures.pure fun _ decides => ?_
      cases result with
      | declined => trivial
      | ready | raise => exact decides
    rw [dispatch, skipped, Exec.pure_bind,
      attempt_declined mode (privilegedDeclines (other_unit unit (by decide))), Exec.pure_bind,
      attempt_declined mode (controlFlowDeclines (other_unit unit (by decide))), Exec.pure_bind,
      attempt_declined mode (executeAtomic_other mode state (other_unit unit (by decide)) _ _), Exec.pure_bind,
      attempt_declined mode (csrDeclines (other_unit unit (by decide))), Exec.pure_bind,
      attempt_own mode unit waiting resorted]
    funext fabric
    rcases answer : executeMemory mode state decoded (state.registers decoded.rs1)
      (state.registers decoded.rs2) fabric with ⟨trap | result, after⟩
    · rw [askUnit, Exec.bind_error (Exec.bind_error answer), ownUnit, askUnit,
        Exec.bind_error answer]
    · have resort : (do
          let result ← executeMemory mode state decoded (state.registers decoded.rs1)
            (state.registers decoded.rs2)
          pure (lastResort instruction result) : Instr β UnitResult) fabric =
            (.ok (lastResort instruction result), after) := Exec.bind_ok answer
      rw [askUnit, Exec.bind_ok resort, ownUnit, askUnit, Exec.bind_ok answer]
      cases result <;> rfl

end

end RvEmulator.Core32
