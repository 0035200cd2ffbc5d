import RvEmulator.Core32.Outcome

/-! Whichever way an instruction is dispatched, the commit that results comes from the
unit that handles its kind. -/

namespace RvEmulator.Core32

open Library

/-- A commit that a unit has made for an instruction. -/
inductive Dispatched (state : CpuSnapshot) (decoded : DecodedInstruction) :
    PendingCommit → Prop where
  | integer (ready : (executeDecoded decoded state.pc (state.registers decoded.rs1)
        (state.registers decoded.rs2)).ready = true) :
      Dispatched state decoded (executeDecoded decoded state.pc (state.registers decoded.rs1)
        (state.registers decoded.rs2))
  | privileged (answered : executePrivileged decoded state = .ready pending) :
      Dispatched state decoded pending
  | controlFlow (answered : executeControlFlow decoded state.pc (state.registers decoded.rs1)
        (state.registers decoded.rs2) = .ready pending) :
      Dispatched state decoded pending
  | csr (time : BitVec 64)
      (answered : executeCsr decoded state time (state.registers decoded.rs1) = .ready pending) :
      Dispatched state decoded pending
  | loaded (value : Xlen)
      (unit : executionUnit decoded.kind = .atomic ∨ executionUnit decoded.kind = .memory) :
      Dispatched state decoded
        { sequential decoded state.pc with registerWrite := writeRd decoded value }
  | stored (unit : executionUnit decoded.kind = .memory) :
      Dispatched state decoded (sequential decoded state.pc)

/-- An answer of a unit: it declines only what is not for it. -/
def Answers (state : CpuSnapshot) (decoded : DecodedInstruction) (wanted : ExecutionUnit) :
    UnitResult → Prop
  | .declined => executionUnit decoded.kind ≠ wanted
  | .ready pending => pending.ready = true ∧ Dispatched state decoded pending
  | .raise .. => True

/-- How far the dispatch has come after some units. -/
def Undecided (state : CpuSnapshot) (decoded : DecodedInstruction) (tried : List ExecutionUnit)
    (pending : PendingCommit) : Prop :=
  (pending.ready = true ∧ Dispatched state decoded pending) ∨
    (pending.ready = false ∧ executionUnit decoded.kind ∉ tried)

/-! ### The units -/

theorem answers_executePrivileged (state : CpuSnapshot) (decoded : DecodedInstruction) :
    Answers state decoded .privileged (executePrivileged decoded state) := by
  have ready : ∀ pending, executePrivileged decoded state = .ready pending →
      pending.ready = true := by
    intro pending answered
    unfold executePrivileged at answered
    dsimp only at answered
    repeat' split at answered
    all_goals cases answered
    all_goals rfl
  cases answer : executePrivileged decoded state with
  | declined =>
    intro unit
    unfold executePrivileged at answer
    dsimp only at answer
    cases kind : decoded.kind
    all_goals
      rw [kind] at unit answer
      first
      | cases unit
        done
      | repeat' split at answer
        all_goals cases answer
  | ready pending => exact ⟨ready pending answer, .privileged answer⟩
  | raise cause trapValue busFault => trivial

theorem answers_executeControlFlow (state : CpuSnapshot) (decoded : DecodedInstruction) :
    Answers state decoded .controlFlow (executeControlFlow decoded state.pc
      (state.registers decoded.rs1) (state.registers decoded.rs2)) := by
  have ready : ∀ rs1 rs2 pending, executeControlFlow decoded state.pc rs1 rs2 = .ready pending →
      pending.ready = true := by
    intro rs1 rs2 pending answered
    unfold executeControlFlow at answered
    dsimp only at answered
    repeat' split at answered
    all_goals cases answered
    all_goals rfl
  cases answer : executeControlFlow decoded state.pc (state.registers decoded.rs1)
      (state.registers decoded.rs2) with
  | declined =>
    intro unit
    unfold executeControlFlow at answer
    dsimp only at answer
    cases kind : decoded.kind
    all_goals
      rw [kind] at unit answer
      first
      | cases unit
        done
      | repeat' split at answer
        all_goals cases answer
  | ready pending => exact ⟨ready _ _ pending answer, .controlFlow answer⟩
  | raise cause trapValue busFault => trivial

theorem answers_executeCsr (state : CpuSnapshot) (decoded : DecodedInstruction)
    (time : BitVec 64) :
    Answers state decoded .csr
      (executeCsr decoded state time (state.registers decoded.rs1)) := by
  have ready : ∀ pending, executeCsr decoded state time (state.registers decoded.rs1) =
      .ready pending → pending.ready = true := by
    intro pending answered
    unfold executeCsr at answered
    dsimp only at answered
    split at answered
    · cases answered
    split at answered
    · cases answered
    split at answered
    · cases answered
    · cases answered
      rfl
  cases answer : executeCsr decoded state time (state.registers decoded.rs1) with
  | declined =>
    intro unit
    unfold executeCsr at answer
    dsimp only at answer
    split at answer
    · rename_i other
      revert unit other
      cases decoded.kind <;> decide
    split at answer
    · cases answer
    split at answer
    · cases answer
    · cases answer
  | ready pending => exact ⟨ready pending answer, .csr time answer⟩
  | raise cause trapValue busFault => trivial

/-- The integer unit leaves only instructions of other units undecided. -/
theorem undecided_executeDecoded {state : CpuSnapshot} {decoded : DecodedInstruction}
    (valid : decoded.valid = true) (undecided : (executeDecoded decoded state.pc
      (state.registers decoded.rs1) (state.registers decoded.rs2)).status ≠ .environmentCall)
    (unbroken : (executeDecoded decoded state.pc
      (state.registers decoded.rs1) (state.registers decoded.rs2)).status ≠ .breakpoint) :
    Undecided state decoded [.integer] (executeDecoded decoded state.pc
      (state.registers decoded.rs1) (state.registers decoded.rs2)) := by
  cases ready : (executeDecoded decoded state.pc (state.registers decoded.rs1)
    (state.registers decoded.rs2)).ready with
  | true => exact .inl ⟨ready, .integer ready⟩
  | false =>
    refine .inr ⟨ready, ?_⟩
    rw [List.mem_singleton]
    intro unit
    unfold executeDecoded at undecided unbroken ready
    rw [valid] at undecided unbroken ready
    unfold integerValue at undecided unbroken ready
    cases kind : decoded.kind
    all_goals
      rw [kind] at unit undecided unbroken ready
      first
      | cases unit
        done
      | cases ready
        done
      | exact undecided rfl
      | exact unbroken rfl
      | rw [DecodedInstruction.valid, kind] at valid
        cases valid

section

variable [CpuBus β]

theorem steady_dataAccess (mode : ExecutionMode) (state : CpuSnapshot) (address : Xlen)
    (width : AccessWidth) (loads : Bool) {access : PhysAddr → Instr β UnitResult}
    {post : UnitResult → Prop} (raises : ∀ cause value fault, post (.raise cause value fault))
    (accesses : ∀ physicalAddress, Steady (access physicalAddress) post) :
    Steady (dataAccess mode state address width loads access) post := by
  refine Steady.ite (fun _ => Steady.pure (raises _ _ _)) (fun _ => ?_)
  refine Steady.bind _ (steady_translate mode state address _) ?_
  intro translation _
  exact Steady.ite (fun _ => Steady.pure (raises _ _ _)) (fun _ => accesses _)

theorem memoryShape_eq_none {kind : InstructionKind} (other : memoryShape kind = none) :
    executionUnit kind ≠ .memory := by
  cases kind
  all_goals first
    | cases other
      done
    | decide

theorem memoryShape_eq_some {kind : InstructionKind} {shape : AccessWidth × Bool}
    (known : memoryShape kind = some shape) : executionUnit kind = .memory := by
  cases kind
  all_goals first
    | cases known
      done
    | rfl

theorem steady_executeMemory (mode : ExecutionMode) (state : CpuSnapshot)
    (decoded : DecodedInstruction) (rs1 rs2 : Xlen) :
    Steady (executeMemory (β := β) mode state decoded rs1 rs2)
      (Answers state decoded .memory) := by
  unfold executeMemory
  dsimp only
  split
  · rename_i other
    exact Steady.pure (memoryShape_eq_none other)
  · rename_i width known
    refine steady_dataAccess mode state _ width true (fun _ _ _ => trivial) ?_
    intro physicalAddress
    refine Steady.bind _ (Steady.onBus _) ?_
    intro read _
    refine Steady.ite (fun _ => Steady.pure trivial) (fun _ => Steady.pure ⟨rfl, ?_⟩)
    exact .loaded _ (.inr (memoryShape_eq_some known))
  · rename_i width known
    refine steady_dataAccess mode state _ width false (fun _ _ _ => trivial) ?_
    intro physicalAddress
    refine Steady.bind _ (Steady.onBus _) ?_
    intro fault _
    refine Steady.ite (fun _ => Steady.pure trivial) (fun _ => Steady.pure ⟨rfl, ?_⟩)
    exact .stored (memoryShape_eq_some known)

theorem atomicKind_eq_none {kind : InstructionKind} (other : atomicKind kind = none) :
    executionUnit kind ≠ .atomic := by
  cases kind
  all_goals first
    | cases other
      done
    | decide

theorem atomicKind_eq_some {kind : InstructionKind} {atomic : AtomicKind}
    (known : atomicKind kind = some atomic) : executionUnit kind = .atomic := by
  cases kind
  all_goals first
    | cases known
      done
    | rfl

theorem steady_executeAtomic (mode : ExecutionMode) (state : CpuSnapshot)
    (decoded : DecodedInstruction) (rs1 rs2 : Xlen) :
    Steady (executeAtomic (β := β) mode state decoded rs1 rs2)
      (Answers state decoded .atomic) := by
  unfold executeAtomic
  dsimp only
  split
  · rename_i other
    exact Steady.pure (atomicKind_eq_none other)
  · rename_i atomic known
    refine steady_dataAccess mode state _ _ _ (fun _ _ _ => trivial) ?_
    intro physicalAddress
    refine Steady.bind _ (Steady.onBus _) ?_
    intro result _
    refine Steady.ite (fun _ => Steady.pure trivial) (fun _ => Steady.pure ⟨rfl, ?_⟩)
    exact .loaded _ (.inl (atomicKind_eq_some known))

/-! ### The dispatch -/

omit [CpuBus β] in
/-- A unit that is asked decides, or drops out; one that is not asked is not the
instruction's unit. -/
theorem steady_attempt {mode : ExecutionMode} {state : CpuSnapshot} {decoded : DecodedInstruction}
    {wanted : ExecutionUnit} {instruction : BitVec 32} {run : Instr β UnitResult}
    {pending : PendingCommit} {tried : List ExecutionUnit}
    (answers : Steady run (Answers state decoded wanted))
    (undecided : Undecided state decoded tried pending) :
    Steady (attempt mode decoded wanted instruction run pending)
      (Undecided state decoded (wanted :: tried)) := by
  have kept (other : pending.ready = false → executionUnit decoded.kind ≠ wanted) :
      Undecided state decoded (wanted :: tried) pending := by
    rcases undecided with decided | ⟨waiting, untried⟩
    · exact .inl decided
    · refine .inr ⟨waiting, ?_⟩
      rw [List.mem_cons, not_or]
      exact ⟨other waiting, untried⟩
  refine Steady.ite (fun _ => ?_) (fun skipped => Steady.pure (kept ?_))
  · refine Steady.bind _ answers ?_
    intro result answer
    cases result with
    | declined => exact Steady.pure (kept fun _ => answer)
    | ready next => exact Steady.pure (.inl answer)
    | raise cause trapValue busFault => exact Steady.stop
  · intro waiting unit
    apply skipped
    rw [waiting, unit]
    simp

omit [CpuBus β] in
theorem steady_attemptInteger (mode : ExecutionMode) {state : CpuSnapshot}
    {decoded : DecodedInstruction} (instruction : BitVec 32) (valid : decoded.valid = true) :
    Steady (attemptInteger (β := β) mode decoded state instruction)
      (Undecided state decoded [.integer]) := by
  unfold attemptInteger
  dsimp only
  by_cases asked : (mode == .reference || executionUnit decoded.kind == .integer) = true
  · rw [if_pos asked]
    split
    · exact Steady.stop
    · exact Steady.stop
    all_goals
      rename_i status
      exact Steady.pure (undecided_executeDecoded valid (by rw [status]; decide)
        (by rw [status]; decide))
  · rw [if_neg asked]
    refine Steady.pure (.inr ⟨rfl, ?_⟩)
    rw [List.mem_singleton]
    intro unit
    apply asked
    rw [unit]
    simp

theorem steady_dispatch (mode : ExecutionMode) {state : CpuSnapshot}
    {decoded : DecodedInstruction} (instruction : BitVec 32) (valid : decoded.valid = true) :
    Steady (dispatch (β := β) mode state instruction decoded)
      (fun pending => pending.ready = true ∧ Dispatched state decoded pending) := by
  have last (rs1 rs2 : Xlen) : Steady (β := β) (do
      let result ← executeMemory mode state decoded rs1 rs2
      pure (lastResort instruction result)) (Answers state decoded .memory) := by
    refine Steady.bind _ (steady_executeMemory mode state decoded rs1 rs2) ?_
    intro result answer
    refine Steady.pure ?_
    cases result with
    | declined => trivial
    | ready pending => exact answer
    | raise cause trapValue busFault => trivial
  refine Steady.bind _ (steady_attemptInteger mode instruction valid) ?_
  intro pending integer
  refine Steady.bind _ (steady_attempt
    (Steady.pure (answers_executePrivileged state decoded)) integer) ?_
  intro pending privileged
  refine Steady.bind _ (steady_attempt
    (Steady.pure (answers_executeControlFlow state decoded)) privileged) ?_
  intro pending controlFlow
  refine Steady.bind _ (steady_attempt
    (steady_executeAtomic mode state decoded _ _) controlFlow) ?_
  intro pending atomic
  refine Steady.bind _ (steady_attempt
    (Steady.peek _ fun fabric _ => answers_executeCsr state decoded _) atomic) ?_
  intro pending csr
  refine Steady.mono (steady_attempt (last _ _) csr) ?_
  -- all six units were tried
  intro pending memory
  rcases memory with decided | ⟨_, untried⟩
  · exact decided
  · exfalso
    apply untried
    cases executionUnit decoded.kind <;> simp

end

end RvEmulator.Core32
