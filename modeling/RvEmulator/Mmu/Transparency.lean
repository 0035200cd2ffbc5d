import RvEmulator.Mmu.Freshness

/-! Transparency of the TLB over any sequence of translations, fences and stores
in which changes of page tables are fenced before they are relied on. -/

namespace RvEmulator

open Library

inductive TlbOperation (w : Nat) where
  | translate (context : TranslationContext w) (virtualAddress : BitVec w)
      (access : MemoryAccessType)
  | sfenceVma (virtualAddress : Option (BitVec w)) (asid : Option (BitVec 16))
  | store (command : BusCommand)

/-- An operation with the memory before and after it. -/
structure TlbEvent (w : Nat) (β : Type) where
  operation : TlbOperation w
  before : β
  after : β

/-- A sequence of operations so far; the newest event comes first. -/
structure TlbRun (w : Nat) (β : Type) where
  bus : β
  tlb : Tlb w := {}
  log : List (TlbEvent w β) := []

section

variable [CpuBus β]

/-- What an operation does to memory and to the TLB. -/
def TlbOperation.perform (paging : Paging w) (operation : TlbOperation w) (bus : β) (tlb : Tlb w) :
    β × Tlb w :=
  match operation with
  | .translate context virtualAddress access =>
    (Tlb.translate paging context virtualAddress access (bus, tlb)).2
  | .sfenceVma virtualAddress asid => (bus, tlb.sfenceVma virtualAddress asid)
  | .store command => ((CpuBus.perform command bus).2, tlb)

def TlbRun.step (paging : Paging w) (run : TlbRun w β) (operation : TlbOperation w) :
    TlbRun w β :=
  let ended := operation.perform paging run.bus run.tlb
  { bus := ended.1, tlb := ended.2, log := ⟨operation, run.bus, ended.1⟩ :: run.log }

/-- The run of a list of operations, from an empty TLB. -/
def TlbRun.of (paging : Paging w) (bus : β) (operations : List (TlbOperation w)) : TlbRun w β :=
  operations.foldl (TlbRun.step paging) { bus }

/-- The values of `satp` that a log's translations walked from. -/
def usedSatps (paging : Paging w) (log : List (TlbEvent w β)) : List (BitVec w) :=
  log.filterMap fun event =>
    match event.operation with
    | .translate context _ _ => if paging.bare context then none else some context.satp
    | _ => none

/-- What an operation may do to a word without changing the entry: the walker of
a translation may mark it. -/
def TlbOperation.Exempt : TlbOperation w → BitVec w → BitVec w → Prop
  | .translate .. => AdUpdate
  | _ => Eq

theorem TlbOperation.adUpdate_of_exempt (operation : TlbOperation w) (old new : BitVec w)
    (exempt : operation.Exempt old new) : AdUpdate old new := by
  cases operation with
  | translate => exact exempt
  | sfenceVma | store =>
    cases exempt
    exact .refl _

/-- The event changed an entry that was then on the path of an address. -/
def TlbEvent.Changes (paging : Paging w) (event : TlbEvent w β) (satp virtualAddress : BitVec w) :
    Prop :=
  ¬paging.Unchanged event.operation.Exempt event.before event.after satp virtualAddress

/-- The address is mapped globally. -/
def Paging.GlobalAt (paging : Paging w) (bus : β) (satp virtualAddress : BitVec w) : Prop :=
  ∃ found, paging.resolve bus satp virtualAddress = .leaf found ∧ found.shared = true

/-- A fence that covers a change for a later translation: its address is absent
or of the same 4 KiB page, and its ASID is absent, or is the translation's while
neither the old nor the new mapping is global. -/
def Covers (paging : Paging w) (event : TlbEvent w β) (satp virtualAddress : BitVec w)
    (asid : BitVec 16) (fence : TlbOperation w) : Prop :=
  ∃ address number, fence = .sfenceVma address number ∧
    (∀ fenced, address = some fenced → fenced >>> 12 = virtualAddress >>> 12) ∧
    (∀ fenced, number = some fenced → fenced = asid ∧
      ¬paging.GlobalAt event.before satp virtualAddress ∧
      ¬paging.GlobalAt event.after satp virtualAddress)

/-- Every change of an entry on the address's path, under any `satp` used, was
followed by a fence that covers it. -/
def Flushed (paging : Paging w) (log : List (TlbEvent w β)) (satps : List (BitVec w))
    (virtualAddress : BitVec w) (asid : BitVec 16) : Prop :=
  ∀ newer event older, log = newer ++ event :: older → ∀ satp ∈ satps,
    event.Changes paging satp virtualAddress →
    ∃ fence ∈ newer, Covers paging event satp virtualAddress asid fence.operation

/-- Right after a fence of everything there is nothing left to fence. -/
theorem flushed_of_sfenceVma (paging : Paging w) (bus : β) (log : List (TlbEvent w β))
    (satps : List (BitVec w)) (virtualAddress : BitVec w) (asid : BitVec 16) :
    Flushed paging (⟨.sfenceVma none none, bus, bus⟩ :: log) satps virtualAddress asid := by
  intro newer event older logged satp _ changed
  cases newer with
  | nil =>
    obtain ⟨rfl, rfl⟩ := List.cons.inj logged
    exact absurd (fun address _ => RadixFormat.Agree.refl (fun _ => rfl) _) changed
  | cons fence rest =>
    obtain ⟨rfl, _⟩ := List.cons.inj logged
    exact ⟨_, List.mem_cons_self, none, none, rfl, fun _ given => (nomatch given),
      fun _ given => (nomatch given)⟩

/-- An event that leaves the address's path alone needs no fence. -/
theorem Flushed.cons {paging : Paging w} {event : TlbEvent w β} {log : List (TlbEvent w β)}
    {satps : List (BitVec w)} {virtualAddress : BitVec w} {asid : BitVec 16}
    (flushed : Flushed paging log satps virtualAddress asid)
    (kept : ∀ satp ∈ satps, ¬event.Changes paging satp virtualAddress) :
    Flushed paging (event :: log) satps virtualAddress asid := by
  intro newer change older logged satp member changed
  cases newer with
  | nil =>
    obtain ⟨rfl, _⟩ := List.cons.inj logged
    exact absurd changed (kept satp member)
  | cons newest newer =>
    obtain ⟨rfl, rest⟩ := List.cons.inj logged
    obtain ⟨fence, found, covers⟩ := flushed newer change older rest satp member changed
    exact ⟨fence, List.mem_cons_of_mem _ found, covers⟩

/-- An address that one root used maps globally is mapped by the same leaf under
every root used. -/
def GlobalsAgree (paging : Paging w) (bus : β) (satps : List (BitVec w))
    (virtualAddress : BitVec w) : Prop :=
  ∀ satp ∈ satps, ∀ found, paging.resolve bus satp virtualAddress = .leaf found →
    found.shared = true → ∀ other ∈ satps,
    ∃ shared, paging.resolve bus other virtualAddress = .leaf { found with shared }

/-- With one root there is nothing that globals could disagree on. -/
theorem globalsAgree_of_root {paging : Paging w} {bus : β} {satps : List (BitVec w)}
    {virtualAddress root : BitVec w} (only : ∀ satp ∈ satps, satp = root) :
    GlobalsAgree paging bus satps virtualAddress := by
  intro satp member found mapped _ other alsoMember
  rw [only other alsoMember, ← only satp member]
  exact ⟨found.shared, mapped⟩

/-! The invariant of a run. -/

/-- A change that no fence has removed the entry for since. -/
def TlbEntry.Stale (paging : Paging w) (log : List (TlbEvent w β)) (satp virtualAddress : BitVec w)
    (entry : TlbEntry w) : Prop :=
  ∃ newer event older, log = newer ++ event :: older ∧
    event.Changes paging satp virtualAddress ∧
    (∃ found, paging.resolve event.before satp virtualAddress = .leaf found ∧
      found.shared = entry.global) ∧
    ∀ fence ∈ newer, ∀ address asid, fence.operation = .sfenceVma address asid →
      Tlb.fenced address asid entry = false

/-- For every address of its page the entry is fresh, or stale through a change
that still waits for its fence. -/
structure TlbEntry.Accounted (paging : Paging w) (run : TlbRun w β) (satp : BitVec w)
    (entry : TlbEntry w) : Prop where
  used : satp ∈ usedSatps paging run.log
  asid : entry.asid = paging.asid satp
  root : entry.rootPpn = satp &&& paging.satpPpn
  shift : ∃ level < paging.levels, entry.pageShift = paging.leafShift level
  state : ∀ virtualAddress : BitVec w,
    virtualAddress >>> entry.pageShift.toNat = entry.virtualPage →
    (∃ found, entry.Fresh paging run.bus satp virtualAddress found ∧
      found.shared = entry.global) ∨
    entry.Stale paging run.log satp virtualAddress

def TlbRun.Accounted (paging : Paging w) (run : TlbRun w β) : Prop :=
  ∀ index, (run.tlb.entries index).valid = true →
    ∃ satp, (run.tlb.entries index).Accounted paging run satp

theorem TlbEntry.Stale.cons {paging : Paging w} {log : List (TlbEvent w β)}
    {satp virtualAddress : BitVec w} {entry : TlbEntry w}
    (stale : entry.Stale paging log satp virtualAddress) {event : TlbEvent w β}
    (kept : ∀ address asid, event.operation = .sfenceVma address asid →
      Tlb.fenced address asid entry = false) :
    entry.Stale paging (event :: log) satp virtualAddress := by
  obtain ⟨newer, change, older, rfl, changes, mapped, unfenced⟩ := stale
  refine ⟨event :: newer, change, older, rfl, changes, mapped, ?_⟩
  intro fence member
  rcases List.mem_cons.mp member with rfl | later
  · exact kept
  · exact unfenced fence later

/-- An event that leaves the entry in place leaves it accounted for. -/
theorem TlbEntry.Accounted.kept {paging : Paging w} (lawful : LawfulPaging paging)
    {run : TlbRun w β} {satp : BitVec w} {entry : TlbEntry w}
    (accounted : entry.Accounted paging run satp) (operation : TlbOperation w)
    (unfenced : ∀ address asid, operation = .sfenceVma address asid →
      Tlb.fenced address asid entry = false) :
    entry.Accounted paging (run.step paging operation) satp where
  used := by
    have member := accounted.used
    unfold usedSatps at member ⊢
    simp only [TlbRun.step, List.filterMap_cons]
    split
    · exact member
    · exact List.mem_cons_of_mem _ member
  asid := accounted.asid
  root := accounted.root
  shift := accounted.shift
  state := by
    intro virtualAddress inPage
    rcases accounted.state virtualAddress inPage with ⟨found, fresh, global⟩ | stale
    · by_cases unchanged : paging.Unchanged operation.Exempt run.bus (run.step paging operation).bus
        satp virtualAddress
      · left
        have marked : paging.Unchanged AdUpdate run.bus (run.step paging operation).bus satp
            virtualAddress :=
          fun address member => (unchanged address member).mono operation.adUpdate_of_exempt
        obtain ⟨word, still⟩ := fresh.persists lawful marked
        exact ⟨_, still, global⟩
      · right
        refine ⟨[], ⟨operation, run.bus, (run.step paging operation).bus⟩, run.log, rfl, unchanged,
          ⟨found, fresh.resolved, global⟩, ?_⟩
        exact fun _ member => nomatch member
    · exact .inr (stale.cons unfenced)

/-- The entry of a completed walk is accounted for from the start. -/
theorem TlbEntry.Accounted.walked {paging : Paging w} (lawful : LawfulPaging paging)
    {quiet : QuietBus β} (readsBack : paging.ReadsBack quiet) {run : TlbRun w β}
    {context : TranslationContext w} {virtualAddress : BitVec w} {access : MemoryAccessType}
    {found : Leaf PhysAddr (BitVec w)} (active : paging.bare context = false)
    (walked : paging.Walked quiet context virtualAddress access run.bus
      (run.step paging (.translate context virtualAddress access)).bus found) :
    (Tlb.entryFor paging context virtualAddress
        (paging.physicalAddress found.level found.word virtualAddress)
        (paging.metadata access found)).Accounted paging
      (run.step paging (.translate context virtualAddress access)) context.satp where
  used := by
    simp [usedSatps, TlbRun.step, active]
  asid := rfl
  root := rfl
  shift := ⟨found.level, Paging.level_lt walked.resolved, rfl⟩
  state := by
    intro other inPage
    have resolved := (paging.resolve_page lawful walked.resolved inPage).2
    have global := paging.metadata_global walked.resolved access
    by_cases unchanged : paging.Unchanged AdUpdate run.bus
        (run.step paging (.translate context virtualAddress access)).bus context.satp other
    · exact .inl ⟨_, walked.fresh lawful readsBack resolved unchanged, global.symm⟩
    · right
      exact ⟨[], ⟨.translate context virtualAddress access, run.bus, _⟩, run.log, rfl, unchanged,
        ⟨found, resolved, global.symm⟩, fun _ member => absurd member List.not_mem_nil⟩

theorem quiet_step {paging : Paging w} (quiet : QuietBus β) {run : TlbRun w β}
    (self : quiet.same run.bus run.bus) (operation : TlbOperation w) :
    quiet.same (run.step paging operation).bus (run.step paging operation).bus := by
  cases operation with
  | translate context virtualAddress access =>
    simp only [TlbRun.step, TlbOperation.perform, Tlb.translate]
    split
    · exact self
    split
    · exact self
    split
    · exact self
    obtain ⟨reached, same, walked⟩ :=
      paging.walkAddress_eq quiet context virtualAddress access self
    simp only [walked]
    have ended := (paging.finish_same quiet context virtualAddress access
      (paging.resolve run.bus context.satp virtualAddress) (quiet.self_left same)).2
    split <;> exact ended
  | sfenceVma virtualAddress asid => exact self
  | store command => exact (quiet.perform command self).2

/-- Step lemma. -/
theorem TlbRun.Accounted.step {paging : Paging w} (lawful : LawfulPaging paging)
    {quiet : QuietBus β} (readsBack : paging.ReadsBack quiet) {run : TlbRun w β}
    (self : quiet.same run.bus run.bus) (accounted : run.Accounted paging)
    (operation : TlbOperation w) : (run.step paging operation).Accounted paging := by
  intro index valid
  cases operation with
  | translate context virtualAddress access =>
    rcases Tlb.entries_of_translate quiet self index with old | ⟨active, _, found, walked, new⟩
    · have same : ((run.step paging (.translate context virtualAddress access)).tlb.entries index) =
          run.tlb.entries index := old
      rw [same] at valid ⊢
      obtain ⟨satp, before⟩ := accounted index valid
      exact ⟨satp, before.kept lawful _ fun _ _ other => (nomatch other)⟩
    · have same : ((run.step paging (.translate context virtualAddress access)).tlb.entries index) =
          _ := new
      rw [same]
      exact ⟨context.satp, .walked lawful readsBack active walked⟩
  | sfenceVma virtualAddress asid =>
    obtain ⟨same, unfenced⟩ := Tlb.entries_of_sfenceVma run.tlb virtualAddress asid index valid
    have kept : ((run.step paging (.sfenceVma virtualAddress asid)).tlb.entries index) =
        run.tlb.entries index := same
    rw [kept] at valid ⊢
    obtain ⟨satp, before⟩ := accounted index valid
    refine ⟨satp, before.kept lawful _ ?_⟩
    intro _ _ fence
    cases fence
    exact unfenced
  | store command =>
    obtain ⟨satp, before⟩ := accounted index valid
    exact ⟨satp, before.kept lawful _ fun _ _ other => (nomatch other)⟩

/-- Run lemma: every entry of every run is accounted for. -/
theorem TlbRun.accounted_of {paging : Paging w} (lawful : LawfulPaging paging)
    {quiet : QuietBus β} (readsBack : paging.ReadsBack quiet) {bus : β} (self : quiet.same bus bus)
    (operations : List (TlbOperation w)) :
    quiet.same (TlbRun.of paging bus operations).bus (TlbRun.of paging bus operations).bus ∧
      (TlbRun.of paging bus operations).Accounted paging := by
  have steps : ∀ (operations : List (TlbOperation w)) (run : TlbRun w β),
      quiet.same run.bus run.bus → run.Accounted paging →
      quiet.same (operations.foldl (TlbRun.step paging) run).bus
          (operations.foldl (TlbRun.step paging) run).bus ∧
        (operations.foldl (TlbRun.step paging) run).Accounted paging := by
    intro operations
    induction operations with
    | nil => exact fun run self accounted => ⟨self, accounted⟩
    | cons operation rest ih =>
      intro run self accounted
      exact ih _ (quiet_step quiet self operation)
        (accounted.step lawful readsBack self operation)
  exact steps operations { bus } self fun index valid => nomatch valid

/-- Where every change was fenced and globals agree, the entry that a lookup
finds is fresh for the translation at hand. -/
theorem TlbRun.Accounted.fresh {paging : Paging w} (lawful : LawfulPaging paging)
    {run : TlbRun w β} (accounted : run.Accounted paging) {context : TranslationContext w}
    {virtualAddress : BitVec w} {access : MemoryAccessType} {entry : TlbEntry w}
    (flushed : Flushed paging run.log (context.satp :: usedSatps paging run.log) virtualAddress
      (paging.asid context.satp))
    (agree : GlobalsAgree paging run.bus (context.satp :: usedSatps paging run.log) virtualAddress)
    (cached : Tlb.lookup paging run.tlb context virtualAddress access = some entry) :
    ∃ found, entry.Fresh paging run.bus context.satp virtualAddress found := by
  obtain ⟨index, rfl, hit⟩ := Tlb.mem_of_lookup cached
  generalize held : run.tlb.entries index = entry at hit
  simp only [Tlb.hits, Bool.and_eq_true, beq_iff_eq, Bool.or_eq_true] at hit
  obtain ⟨⟨⟨⟨⟨⟨valid, _⟩, page⟩, scope⟩, _⟩, _⟩, _⟩ := hit
  obtain ⟨satp, account⟩ := accounted index (by rw [held]; exact valid)
  rw [held] at account
  have used : satp ∈ context.satp :: usedSatps paging run.log :=
    List.mem_cons_of_mem _ account.used
  rcases account.state virtualAddress page.symm with ⟨found, fresh, global⟩ | stale
  · rcases scope with shared | ⟨_, root⟩
    · rw [shared] at global
      obtain ⟨other, resolved⟩ :=
        agree satp used found fresh.resolved global context.satp List.mem_cons_self
      exact ⟨_, { fresh with resolved := resolved }⟩
    · rw [account.root] at root
      exact ⟨found, { fresh with
        resolved := (paging.resolve_root run.bus virtualAddress root.symm).trans fresh.resolved }⟩
  · -- the fence that the change was followed by would have removed the entry
    exfalso
    obtain ⟨newer, event, older, logged, changes, ⟨old, mapped, global⟩, unfenced⟩ := stale
    obtain ⟨fence, member, address, number, operation, samePage, sameAsid⟩ :=
      flushed newer event older logged satp used changes
    obtain ⟨level, inside, shift⟩ := account.shift
    have removed : Tlb.fenced address number entry = true := by
      refine Tlb.fenced_iff.mpr ⟨valid, ?_, ?_⟩
      · intro fenced given
        obtain ⟨same, notGlobal, _⟩ := sameAsid fenced given
        have isLocal : entry.global = false := by
          cases shared : entry.global with
          | false => rfl
          | true => exact absurd ⟨old, mapped, global.trans shared⟩ notGlobal
        simp only [isLocal, Bool.false_eq_true, false_or] at scope
        exact ⟨isLocal, scope.1.trans same.symm⟩
      · intro fenced given
        rw [page, shift]
        exact lawful.same_page inside (samePage fenced given)
    rw [unfenced fence member address number operation] at removed
    cases removed

end

end RvEmulator
