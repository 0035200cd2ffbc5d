import RvEmulator.Mmu.Transparency

/-! A bus that records what it is asked, and the discipline under which caches
of translations and instructions may be trusted. -/

namespace RvEmulator

open Library

/-- One bus access of a run, with the memory before and after it. `satp` is that
of the step it was made in. -/
structure BusEvent (w : Nat) (β : Type) where
  satp : BitVec w
  command : BusCommand
  before : β
  after : β

/-- What a run leaves behind: its bus accesses, its FENCE.I and those SFENCE.VMA
that name neither an address nor an ASID. -/
inductive LogEntry (w : Nat) (β : Type) where
  | event (event : BusEvent w β)
  | fenceI
  | sfenceVma

/-- A bus with the log of its use; the newest entry comes first. -/
structure Recorded (w : Nat) (β : Type) where
  bus : β
  satp : BitVec w := 0
  log : List (LogEntry w β) := []

section

variable [CpuBus β]

def record (command : BusCommand) : StateM (Recorded w β) command.Response := fun recorded =>
  let answer := CpuBus.perform command recorded.bus
  (answer.1,
    { recorded with
      bus := answer.2
      log := .event ⟨recorded.satp, command, recorded.bus, answer.2⟩ :: recorded.log })

instance : CpuBus (Recorded w β) where
  read address width kind := record (.read address width kind)
  write address width value kind := record (.write address width value kind)
  loadReservedWord hart address := record (.loadReservedWord hart address)
  storeConditionalWord hart address value := record (.storeConditionalWord hart address value)
  atomicWord hart address operation operand := record (.atomicWord hart address operation operand)
  loadReservedDoubleword hart address := record (.loadReservedDoubleword hart address)
  storeConditionalDoubleword hart address value :=
    record (.storeConditionalDoubleword hart address value)
  atomicDoubleword hart address operation operand :=
    record (.atomicDoubleword hart address operation operand)
  readTime recorded := CpuBus.readTime recorded.bus
  instructionCacheable recorded := CpuBus.instructionCacheable recorded.bus

/-! The discipline. -/

/-- The accesses since the last full SFENCE.VMA. -/
def sinceSfence : List (LogEntry w β) → List (BusEvent w β)
  | [] | .sfenceVma :: _ => []
  | .fenceI :: older => sinceSfence older
  | .event event :: older => event :: sinceSfence older

/-- The accesses since the last FENCE.I or full SFENCE.VMA. -/
def sinceFence : List (LogEntry w β) → List (BusEvent w β)
  | [] | .sfenceVma :: _ | .fenceI :: _ => []
  | .event event :: older => event :: sinceFence older

/-- How an access may change a page-table entry without a fence: the walker may
mark a leaf. -/
def BusCommand.Exempt : BusCommand → BitVec w → BitVec w → Prop
  | .write _ _ _ .pageTableWalk => AdUpdate
  | _ => Eq

theorem BusCommand.adUpdate_of_exempt (command : BusCommand) (old new : BitVec w)
    (exempt : command.Exempt old new) : AdUpdate old new := by
  unfold BusCommand.Exempt at exempt
  split at exempt
  · exact exempt
  · cases exempt
    exact .refl _

def BusEvent.KeepsEntry (paging : Paging w) (event : BusEvent w β) (address : PhysAddr) : Prop :=
  RadixFormat.Agree event.command.Exempt (paging.wordAt event.before address)
    (paging.wordAt event.after address)

/-- What an instruction fetch reads at an address. -/
def halfwordAt (bus : β) (address : PhysAddr) : ReadResult :=
  (CpuBus.read address .halfWord .instructionFetch bus).1

def BusEvent.KeepsHalfword (event : BusEvent w β) (address : PhysAddr) : Prop :=
  halfwordAt event.before address = halfwordAt event.after address

/-- The values of `satp` under which page tables were walked. -/
def walkedSatps (log : List (LogEntry w β)) : List (BitVec w) :=
  log.filterMap fun
    | .event ⟨satp, .read _ _ .pageTableWalk, _, _⟩ => some satp
    | _ => none

/-- At every page walk the entries it reads have not changed since the last full
SFENCE.VMA, but for the walker's marks, and all of `satps` map global pages
alike; at every fetch from `ram` the halfword has not changed since the last
FENCE.I or full SFENCE.VMA. -/
structure Disciplined (paging : Paging w) (ram : PhysAddr → Prop) (satps : List (BitVec w))
    (log : List (LogEntry w β)) : Prop where
  used : ∀ satp ∈ walkedSatps log, satp ∈ satps
  entries : ∀ newer event older address width, log = newer ++ .event event :: older →
    event.command = .read address width .pageTableWalk →
    ∀ change ∈ sinceSfence older, change.KeepsEntry paging address
  globals : ∀ newer event older address width, log = newer ++ .event event :: older →
    event.command = .read address width .pageTableWalk →
    ∀ virtualAddress, GlobalsAgree paging event.before satps virtualAddress
  halfwords : ∀ newer event older address width, log = newer ++ .event event :: older →
    event.command = .read address width .instructionFetch → ram address →
    ∀ change ∈ sinceFence older, change.KeepsHalfword address

theorem Disciplined.older {paging : Paging w} {ram : PhysAddr → Prop} {satps : List (BitVec w)}
    {newer older : List (LogEntry w β)} (disciplined : Disciplined paging ram satps (newer ++ older)) :
    Disciplined paging ram satps older where
  used satp member := by
    refine disciplined.used satp ?_
    rw [walkedSatps, List.filterMap_append]
    exact List.mem_append_right _ member
  entries more event rest address width split :=
    disciplined.entries (newer ++ more) event rest address width (by rw [split, List.append_assoc])
  globals more event rest address width split :=
    disciplined.globals (newer ++ more) event rest address width (by rw [split, List.append_assoc])
  halfwords more event rest address width split :=
    disciplined.halfwords (newer ++ more) event rest address width
      (by rw [split, List.append_assoc])

/-! Growth of the log. -/

/-- Later in the same step. -/
inductive Recorded.Grown : Recorded w β → Recorded w β → Prop where
  | refl : Grown recorded recorded
  | step (earlier : Grown recorded middle) (command : BusCommand) :
      Grown recorded (record command middle).2

namespace Recorded

variable {recorded middle later : Recorded w β}

theorem Grown.trans (first : Grown recorded middle) (next : Grown middle later) :
    Grown recorded later := by
  induction next with
  | refl => exact first
  | step _ command ih => exact .step ih command

theorem Grown.of_perform (command : BusCommand) (recorded : Recorded w β) :
    Grown recorded (CpuBus.perform command recorded).2 := by
  have same : CpuBus.perform command recorded = record command recorded := by
    cases command <;> rfl
  rw [same]
  exact .step .refl command

theorem Grown.satp (grown : Grown recorded later) : later.satp = recorded.satp := by
  induction grown with
  | refl => rfl
  | step _ command ih => exact ih

/-- The log has only got longer, and only by accesses. -/
theorem Grown.log (grown : Grown recorded later) :
    ∃ events : List (BusEvent w β), later.log = events.map .event ++ recorded.log := by
  induction grown with
  | refl => exact ⟨[], rfl⟩
  | @step middle earlier command ih =>
    obtain ⟨events, same⟩ := ih
    refine ⟨⟨middle.satp, command, middle.bus, (record command middle).2.bus⟩ :: events, ?_⟩
    rw [List.map_cons, List.cons_append, ← same]
    rfl

omit [CpuBus β] in
theorem sinceSfence_append (events : List (BusEvent w β)) (log : List (LogEntry w β)) :
    sinceSfence (events.map .event ++ log) = events ++ sinceSfence log := by
  induction events with
  | nil => rfl
  | cons event rest ih => rw [List.map_cons, List.cons_append, sinceSfence, ih, List.cons_append]

omit [CpuBus β] in
theorem sinceFence_append (events : List (BusEvent w β)) (log : List (LogEntry w β)) :
    sinceFence (events.map .event ++ log) = events ++ sinceFence log := by
  induction events with
  | nil => rfl
  | cons event rest ih => rw [List.map_cons, List.cons_append, sinceFence, ih, List.cons_append]

end Recorded

/-- Everything that can follow in a step keeps the discipline of the past. -/
theorem Disciplined.earlier {paging : Paging w} {ram : PhysAddr → Prop} {satps : List (BitVec w)}
    {recorded later : Recorded w β} (grown : recorded.Grown later)
    (disciplined : Disciplined paging ram satps later.log) :
    Disciplined paging ram satps recorded.log := by
  obtain ⟨events, same⟩ := grown.log
  rw [same] at disciplined
  exact disciplined.older

/-- The entry at an address has not changed since the last full SFENCE.VMA. -/
def Recorded.EntryClean (paging : Paging w) (recorded : Recorded w β) (address : PhysAddr) : Prop :=
  ∀ change ∈ sinceSfence recorded.log, change.KeepsEntry paging address

/-- The halfword at an address has not changed since the last fence. -/
def Recorded.HalfwordClean (recorded : Recorded w β) (address : PhysAddr) : Prop :=
  ∀ change ∈ sinceFence recorded.log, change.KeepsHalfword address

/-! Page walks over a recording bus. -/

variable (paging : Paging w)

/-- Between the two states the walker has read an address of the given memory. -/
def Recorded.Reads (quiet : QuietBus β) (origin : β) (address : PhysAddr)
    (recorded later : Recorded w β) : Prop :=
  ∃ middle : Recorded w β, recorded.Grown middle ∧ quiet.same middle.bus origin ∧
    (record (.read address paging.width .pageTableWalk) middle).2.Grown later

/-- The end of a walk is recorded like everything else. -/
theorem Paging.finishWalk_recorded (context : TranslationContext w) (virtualAddress : BitVec w)
    (access : MemoryAccessType) (level : Nat) (address : PhysAddr) (pte : BitVec w)
    (inherited : Bool) (recorded : Recorded w β) :
    let ended := paging.finishWalk context virtualAddress access level address pte inherited recorded
    let plain :=
      paging.finishWalk context virtualAddress access level address pte inherited recorded.bus
    ended.1 = plain.1 ∧ ended.2.bus = plain.2 ∧ recorded.Grown ended.2 := by
  unfold Paging.finishWalk
  split
  · exact ⟨rfl, rfl, .refl⟩
  dsimp only
  split
  · have written : recorded.Grown (CpuBus.write address paging.width
        ((updatedPte pte access).setWidth 64) .pageTableWalk recorded).2 :=
      .step .refl (.write address paging.width ((updatedPte pte access).setWidth 64) .pageTableWalk)
    have same : (CpuBus.write address paging.width ((updatedPte pte access).setWidth 64)
          .pageTableWalk recorded).1 =
        (CpuBus.write address paging.width ((updatedPte pte access).setWidth 64)
          .pageTableWalk recorded.bus).1 := rfl
    have after : (CpuBus.write address paging.width ((updatedPte pte access).setWidth 64)
          .pageTableWalk recorded).2.bus =
        (CpuBus.write address paging.width ((updatedPte pte access).setWidth 64)
          .pageTableWalk recorded.bus).2 := rfl
    simp only [bind, StateT.bind]
    generalize CpuBus.write address paging.width ((updatedPte pte access).setWidth 64)
      .pageTableWalk recorded = left at written same after
    generalize CpuBus.write address paging.width ((updatedPte pte access).setWidth 64)
      .pageTableWalk recorded.bus = right at same after
    obtain ⟨fault, later⟩ := left
    obtain ⟨fault', bus⟩ := right
    cases same
    dsimp only at after ⊢
    split
    · exact ⟨rfl, after, written⟩
    · exact ⟨rfl, after, written⟩
  · exact ⟨rfl, rfl, .refl⟩

theorem Paging.grown_walkFrom (context : TranslationContext w) (virtualAddress : BitVec w)
    (access : MemoryAccessType) :
    ∀ (levels : Nat) (table : PhysAddr) (inherited : Bool) (recorded : Recorded w β),
      recorded.Grown
        (paging.walkFrom context virtualAddress access levels table inherited recorded).2 := by
  intro levels
  induction levels with
  | zero =>
    intro table inherited recorded
    exact .refl
  | succ level ih =>
    intro table inherited recorded
    have begun : recorded.Grown (CpuBus.read (paging.entryAddress virtualAddress level table)
        paging.width .pageTableWalk recorded).2 := .step .refl (.read _ _ _)
    simp only [Paging.walkFrom, bind, StateT.bind]
    generalize CpuBus.read (paging.entryAddress virtualAddress level table) paging.width
      .pageTableWalk recorded = answer at begun
    obtain ⟨result, next⟩ := answer
    dsimp only at begun ⊢
    split
    · exact begun
    split
    · exact begun
    split
    · split
      · exact begun
      · exact begun.trans (ih _ _ next)
    · exact begun.trans (paging.finishWalk_recorded context virtualAddress access level _ _ _ next).2.2

theorem Paging.grown_translateAddress (context : TranslationContext w) (virtualAddress : BitVec w)
    (access : MemoryAccessType) (recorded : Recorded w β) :
    recorded.Grown (paging.translateAddress context virtualAddress access recorded).2 := by
  unfold Paging.translateAddress
  split
  · exact .refl
  split
  · exact .refl
  · exact paging.grown_walkFrom context virtualAddress access _ _ _ recorded

/-- The walk on a recording bus is the walk on the bus itself, and it has read
every entry of its path. -/
theorem Paging.walkFrom_recorded (quiet : QuietBus β) (context : TranslationContext w)
    (virtualAddress : BitVec w) (access : MemoryAccessType) {origin : β} :
    ∀ (levels : Nat) (table : PhysAddr) (inherited : Bool) (recorded : Recorded w β),
      quiet.same recorded.bus origin →
      let ended := paging.walkFrom context virtualAddress access levels table inherited recorded
      let plain :=
        paging.walkFrom context virtualAddress access levels table inherited recorded.bus
      ended.1 = plain.1 ∧ ended.2.bus = plain.2 ∧
        ∀ address ∈ paging.format.path (paging.wordAt origin) virtualAddress levels table,
          Recorded.Reads paging quiet origin address recorded ended.2 := by
  intro levels
  induction levels with
  | zero =>
    intro table inherited recorded _
    exact ⟨rfl, rfl, fun _ member => absurd member List.not_mem_nil⟩
  | succ level ih =>
    intro table inherited recorded equal
    have word := (quiet.read_value equal (paging.entryAddress virtualAddress level table)
      paging.width .pageTableWalk).symm
    have after : quiet.same (CpuBus.read (paging.entryAddress virtualAddress level table)
        paging.width .pageTableWalk recorded.bus).2 origin :=
      quiet.symm (quiet.quiet _ _ _ (quiet.symm equal))
    -- the first entry has been read whatever follows
    have first : ∀ later, (record (.read (paging.entryAddress virtualAddress level table)
        paging.width .pageTableWalk) recorded).2.Grown later →
        Recorded.Reads paging quiet origin (paging.entryAddress virtualAddress level table)
          recorded later :=
      fun later grown => ⟨recorded, .refl, equal, grown⟩
    have begun : recorded.Grown (record (.read (paging.entryAddress virtualAddress level table)
        paging.width .pageTableWalk) recorded).2 := .step .refl _
    have read : CpuBus.read (paging.entryAddress virtualAddress level table) paging.width
          .pageTableWalk recorded =
        ((CpuBus.read (paging.entryAddress virtualAddress level table) paging.width
          .pageTableWalk recorded.bus).1,
          (record (.read (paging.entryAddress virtualAddress level table)
            paging.width .pageTableWalk) recorded).2) := rfl
    have reached : (record (.read (paging.entryAddress virtualAddress level table)
          paging.width .pageTableWalk) recorded).2.bus =
        (CpuBus.read (paging.entryAddress virtualAddress level table) paging.width
          .pageTableWalk recorded.bus).2 := rfl
    simp only [Paging.walkFrom, bind, StateT.bind, read, RadixFormat.path, Paging.format,
      Paging.wordAt, word, List.mem_cons]
    generalize (record (.read (paging.entryAddress virtualAddress level table)
      paging.width .pageTableWalk) recorded).2 = next at first begun reached
    generalize CpuBus.read (paging.entryAddress virtualAddress level table) paging.width
      .pageTableWalk recorded.bus = answer at after reached
    obtain ⟨result, bus⟩ := answer
    dsimp only at after reached ⊢
    subst reached
    have only : ∀ later, next.Grown later → ∀ address,
        address = paging.entryAddress virtualAddress level table ∨ address ∈ [] →
        Recorded.Reads paging quiet origin address recorded later := by
      rintro later grown address (rfl | member)
      · exact first later grown
      · exact absurd member List.not_mem_nil
    cases succeeded : result.ok with
    | false => exact ⟨rfl, rfl, only _ .refl⟩
    | true =>
      simp only [Bool.not_true, Bool.false_eq_true, if_false, if_true, Paging.classify]
      split
      · exact ⟨rfl, rfl, only _ .refl⟩
      split
      · split
        · exact ⟨rfl, rfl, only _ .refl⟩
        · obtain ⟨value, memory, read⟩ := ih _ _ next after
          refine ⟨value, memory, ?_⟩
          rintro address (rfl | member)
          · exact first _ (paging.grown_walkFrom context virtualAddress access _ _ _ next)
          · obtain ⟨middle, earlier, same, rest⟩ := read address member
            exact ⟨middle, begun.trans earlier, same, rest⟩
      · obtain ⟨value, memory, grown⟩ := paging.finishWalk_recorded context virtualAddress access
          level (paging.entryAddress virtualAddress level table) (result.value.setWidth w) inherited
          next
        exact ⟨value, memory, only _ grown⟩

theorem Paging.translateAddress_recorded (quiet : QuietBus β) (context : TranslationContext w)
    (virtualAddress : BitVec w) (access : MemoryAccessType) {recorded : Recorded w β}
    (memory : quiet.same recorded.bus recorded.bus) :
    let ended := paging.translateAddress context virtualAddress access recorded
    let plain := paging.translateAddress context virtualAddress access recorded.bus
    ended.1 = plain.1 ∧ ended.2.bus = plain.2 ∧
      (paging.bare context = false → paging.canonical virtualAddress = true →
        ∀ address ∈ paging.path recorded.bus context.satp virtualAddress,
          Recorded.Reads paging quiet recorded.bus address recorded ended.2) := by
  unfold Paging.translateAddress
  dsimp only
  split
  · rename_i bare
    refine ⟨rfl, rfl, ?_⟩
    intro active
    rw [active] at bare
    cases bare
  split
  · rename_i invalid
    refine ⟨rfl, rfl, ?_⟩
    intro _ canonical
    rw [canonical] at invalid
    cases invalid
  · obtain ⟨value, bus, read⟩ := paging.walkFrom_recorded quiet context virtualAddress access
      paging.levels (paging.tableAddress context.satp) false recorded memory
    exact ⟨congrArg Prod.fst value, bus, fun _ _ => read⟩

variable {paging}

theorem globalsAgree_same (quiet : QuietBus β) {bus origin : β} (equal : quiet.same bus origin)
    {satps : List (BitVec w)} {virtualAddress : BitVec w}
    (agree : GlobalsAgree paging bus satps virtualAddress) :
    GlobalsAgree paging origin satps virtualAddress := by
  have same := paging.wordAt_same quiet equal
  unfold GlobalsAgree Paging.resolve at agree ⊢
  rw [← same]
  exact agree

/-- What a disciplined run guarantees of an entry that the walker reads. -/
theorem Recorded.Reads.clean {quiet : QuietBus β} {origin : β} {address : PhysAddr}
    {recorded later : Recorded w β} {ram : PhysAddr → Prop} {satps : List (BitVec w)}
    (reads : Recorded.Reads paging quiet origin address recorded later)
    (disciplined : Disciplined paging ram satps later.log) :
    recorded.EntryClean paging address ∧ recorded.satp ∈ satps ∧
      ∀ virtualAddress, GlobalsAgree paging origin satps virtualAddress := by
  obtain ⟨middle, earlier, same, rest⟩ := reads
  have here := disciplined.earlier rest
  refine ⟨?_, ?_, ?_⟩
  · intro change member
    obtain ⟨events, longer⟩ := earlier.log
    refine here.entries [] _ middle.log address paging.width rfl rfl change ?_
    rw [longer, sinceSfence_append]
    exact List.mem_append_right _ member
  · rw [← earlier.satp]
    exact here.used middle.satp List.mem_cons_self
  · intro virtualAddress
    exact globalsAgree_same quiet same (here.globals [] _ middle.log address paging.width rfl rfl _)

/-- A walk of a disciplined run finds every entry of its path clean. -/
theorem Recorded.clean_of_translate {quiet : QuietBus β} (lawful : LawfulPaging paging)
    {context : TranslationContext w} {virtualAddress : BitVec w} {access : MemoryAccessType}
    {recorded : Recorded w β} {ram : PhysAddr → Prop} {satps : List (BitVec w)}
    (memory : quiet.same recorded.bus recorded.bus) (active : paging.bare context = false)
    (canonical : paging.canonical virtualAddress = true)
    (disciplined : Disciplined paging ram satps
      (paging.translateAddress context virtualAddress access recorded).2.log) :
    (∀ address ∈ paging.path recorded.bus context.satp virtualAddress,
        recorded.EntryClean paging address) ∧
      recorded.satp ∈ satps ∧
      ∀ other, GlobalsAgree paging recorded.bus satps other := by
  obtain ⟨_, _, read⟩ :=
    paging.translateAddress_recorded quiet context virtualAddress access memory
  have walked := read active canonical
  obtain ⟨address, nonempty⟩ : ∃ address,
      address ∈ paging.path recorded.bus context.satp virtualAddress := by
    obtain ⟨level, same⟩ := Nat.exists_eq_succ_of_ne_zero (Nat.pos_iff_ne_zero.mp lawful.levels)
    unfold Paging.path
    rw [same]
    exact ⟨_, List.mem_cons_self⟩
  obtain ⟨_, used, agree⟩ := (walked address nonempty).clean disciplined
  exact ⟨fun other member => ((walked other member).clean disciplined).1, used, agree⟩

/-! With one root, runs that leave alone what they walk and fetch are disciplined. -/

def loggedEvents (log : List (LogEntry w β)) : List (BusEvent w β) :=
  log.filterMap fun
    | .event event => some event
    | _ => none

/-- The addresses of the entries that were walked. -/
def walkedAddresses (log : List (LogEntry w β)) : List PhysAddr :=
  log.filterMap fun
    | .event ⟨_, .read address _ .pageTableWalk, _, _⟩ => some address
    | _ => none

/-- The addresses of the halfwords that were fetched. -/
def fetchedAddresses (log : List (LogEntry w β)) : List PhysAddr :=
  log.filterMap fun
    | .event ⟨_, .read address _ .instructionFetch, _, _⟩ => some address
    | _ => none

/-- Whether a word is the old one, or a leaf that the walker has marked. -/
def BusCommand.leavesWord (command : BusCommand) (old new : BitVec w) : Bool :=
  new == old ||
    match command with
    | .write _ _ _ .pageTableWalk => (flag old PteBits.read || flag old PteBits.execute) &&
        (new == updatedPte old .load || new == updatedPte old .store)
    | _ => false

def BusEvent.leavesEntry (paging : Paging w) (event : BusEvent w β) (address : PhysAddr) : Bool :=
  match paging.wordAt event.before address, paging.wordAt event.after address with
  | .ok old, .ok new => event.command.leavesWord old new
  | .error before, .error after => before == after
  | _, _ => false

omit [CpuBus β] in
theorem BusCommand.exempt_of_leavesWord {command : BusCommand} {old new : BitVec w}
    (leaves : command.leavesWord old new = true) : command.Exempt old new := by
  unfold leavesWord at leaves
  unfold Exempt
  obtain same | marked := (Bool.or_eq_true _ _).mp leaves
  · obtain rfl := eq_of_beq same
    split
    · exact .refl _
    · rfl
  split at marked
  · obtain ⟨leaf, marks⟩ := (Bool.and_eq_true _ _).mp marked
    obtain rfl | rfl := ((Bool.or_eq_true _ _).mp marks).imp eq_of_beq eq_of_beq
    · exact ⟨marks_updatedPte old .load, .inr leaf⟩
    · exact ⟨marks_updatedPte old .store, .inr leaf⟩
  · cases marked

theorem BusEvent.keepsEntry_of_leavesEntry {event : BusEvent w β} {address : PhysAddr}
    (leaves : event.leavesEntry paging address = true) : event.KeepsEntry paging address := by
  unfold leavesEntry at leaves
  unfold KeepsEntry
  split at leaves
  · rename_i old new before after
    rw [before, after]
    exact .ok (BusCommand.exempt_of_leavesWord leaves)
  · rename_i first second before after
    rw [before, after, eq_of_beq leaves]
    exact .error
  · cases leaves

omit [CpuBus β] in
theorem mem_of_mem_sinceSfence {event : BusEvent w β} :
    ∀ {log : List (LogEntry w β)}, event ∈ sinceSfence log → .event event ∈ log
  | .fenceI :: _, member => List.mem_cons_of_mem _ (mem_of_mem_sinceSfence member)
  | .event other :: older, member => by
    rcases List.mem_cons.mp member with same | rest
    · rw [same]
      exact List.mem_cons_self
    · exact List.mem_cons_of_mem _ (mem_of_mem_sinceSfence rest)

omit [CpuBus β] in
theorem mem_of_mem_sinceFence {event : BusEvent w β} :
    ∀ {log : List (LogEntry w β)}, event ∈ sinceFence log → .event event ∈ log
  | .event other :: older, member => by
    rcases List.mem_cons.mp member with same | rest
    · rw [same]
      exact List.mem_cons_self
    · exact List.mem_cons_of_mem _ (mem_of_mem_sinceFence rest)

/-- Nothing that was walked or fetched is ever changed, but for the walker's marks. -/
structure Leaves (paging : Paging w) (satp : BitVec w) (log : List (LogEntry w β)) : Prop where
  used : ∀ other ∈ walkedSatps log, other = satp
  entries : ∀ event ∈ loggedEvents log, ∀ address ∈ walkedAddresses log,
    event.leavesEntry paging address = true
  halfwords : ∀ event ∈ loggedEvents log, ∀ address ∈ fetchedAddresses log,
    halfwordAt event.before address = halfwordAt event.after address

-- over the lists, and each address once: `decide` would else enumerate the words of `BitVec`
instance (paging : Paging w) (satp : BitVec w) (log : List (LogEntry w β)) :
    Decidable (Leaves paging satp log) :=
  decidable_of_iff ((walkedSatps log).all (· == satp) = true ∧
      (walkedAddresses log).eraseDups.all (fun address =>
        (loggedEvents log).all fun event => event.leavesEntry paging address) = true ∧
      (fetchedAddresses log).eraseDups.all (fun address =>
        (loggedEvents log).all fun event =>
          halfwordAt event.before address == halfwordAt event.after address) = true)
    (by
      simp only [List.all_eq_true, beq_iff_eq, List.mem_eraseDups]
      exact ⟨fun ⟨used, entries, halfwords⟩ =>
          ⟨used, fun event logged address walked => entries address walked event logged,
            fun event logged address fetched => halfwords address fetched event logged⟩,
        fun leaves =>
          ⟨leaves.used, fun address walked event logged => leaves.entries event logged address walked,
            fun address fetched event logged => leaves.halfwords event logged address fetched⟩⟩)

theorem Leaves.disciplined {satp : BitVec w} {log : List (LogEntry w β)}
    (leaves : Leaves paging satp log) (ram : PhysAddr → Prop) :
    Disciplined paging ram [satp] log := by
  have logged : ∀ {newer older event change}, log = newer ++ .event event :: older →
      .event change ∈ older → change ∈ loggedEvents log := by
    intro newer older event change split member
    refine List.mem_filterMap.mpr ⟨.event change, ?_, rfl⟩
    rw [split]
    exact List.mem_append_right _ (List.mem_cons_of_mem _ member)
  refine ⟨fun other member => List.mem_singleton.mpr (leaves.used other member), ?_, ?_, ?_⟩
  · rintro newer ⟨root, command, before, after⟩ older address width split walk change member
    obtain rfl : command = .read address width .pageTableWalk := walk
    refine BusEvent.keepsEntry_of_leavesEntry (leaves.entries change
      (logged split (mem_of_mem_sinceSfence member)) address ?_)
    refine List.mem_filterMap.mpr
      ⟨.event ⟨root, .read address width .pageTableWalk, before, after⟩, ?_, rfl⟩
    rw [split]
    exact List.mem_append_right _ List.mem_cons_self
  · intro _ event _ _ _ _ _ virtualAddress root only found resolved _ other alone
    obtain rfl := List.mem_singleton.mp only
    obtain rfl := List.mem_singleton.mp alone
    exact ⟨found.shared, resolved⟩
  · rintro newer ⟨root, command, before, after⟩ older address width split fetch _ change member
    obtain rfl : command = .read address width .instructionFetch := fetch
    refine leaves.halfwords change (logged split (mem_of_mem_sinceFence member)) address ?_
    refine List.mem_filterMap.mpr
      ⟨.event ⟨root, .read address width .instructionFetch, before, after⟩, ?_, rfl⟩
    rw [split]
    exact List.mem_append_right _ List.mem_cons_self

end

end RvEmulator
