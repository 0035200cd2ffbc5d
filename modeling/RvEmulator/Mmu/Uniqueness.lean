import Mathlib.Data.List.Induction
import RvEmulator.Core32.Mmu
import RvEmulator.Core64.Mmu
import RvEmulator.Platform.Memory

/-! Which insertions keep the entries of a TLB unique. `insert` takes the first way that is free
or holds the same translation, so a free way in front of that translation duplicates it. -/

namespace RvEmulator

/-- What makes two entries one translation. -/
structure TlbEntry.SameKey (first second : TlbEntry w) : Prop where
  pageShift : first.pageShift = second.pageShift
  virtualPage : first.virtualPage = second.virtualPage
  global : first.global = second.global
  space : first.global = false → first.asid = second.asid ∧ first.rootPpn = second.rootPpn

namespace TlbEntry.SameKey

variable {first second third : TlbEntry w}

theorem symm (same : SameKey first second) : SameKey second first where
  pageShift := same.pageShift.symm
  virtualPage := same.virtualPage.symm
  global := same.global.symm
  space inside := by
    obtain ⟨asid, root⟩ := same.space (same.global.trans inside)
    exact ⟨asid.symm, root.symm⟩

theorem trans (same : SameKey first second) (other : SameKey second third) :
    SameKey first third where
  pageShift := same.pageShift.trans other.pageShift
  virtualPage := same.virtualPage.trans other.virtualPage
  global := same.global.trans other.global
  space inside := by
    obtain ⟨asid, root⟩ := same.space inside
    obtain ⟨asid', root'⟩ := other.space (same.global.symm.trans inside)
    exact ⟨asid.trans asid', root.trans root'⟩

end TlbEntry.SameKey

namespace Tlb

variable {paging : Paging w} {tlb : Tlb w} {context : TranslationContext w}
  {virtualAddress : BitVec w} {physicalAddress : PhysAddr} {metadata : WalkMetadata w}

/-- No two valid entries are of one translation. -/
def Unique (tlb : Tlb w) : Prop :=
  ∀ first second, (tlb.entries first).valid = true → (tlb.entries second).valid = true →
    (tlb.entries first).SameKey (tlb.entries second) → first = second

/-- Every valid entry is in the set of its page. -/
def Placed (tlb : Tlb w) : Prop :=
  ∀ index, (tlb.entries index).valid = true →
    ∃ way, index = slot (setFor (tlb.entries index).virtualPage) way

/-- No free way is in front of a valid entry of the same translation. -/
def NoHole (tlb : Tlb w) (entry : TlbEntry w) : Prop :=
  ∀ way, (tlb.entries (slot (setFor entry.virtualPage) way)).valid = true →
    (tlb.entries (slot (setFor entry.virtualPage) way)).SameKey entry →
    ∀ earlier < way, (tlb.entries (slot (setFor entry.virtualPage) earlier)).valid = true

theorem slot_inj {set other : Fin 16} {way another : Fin 4} (same : slot set way = slot other another) :
    set = other ∧ way = another := by
  simp only [slot, Fin.mk.injEq] at same
  omega

theorem reusable_iff {candidate entry : TlbEntry w} :
    reusable candidate entry = true ↔ candidate.valid = false ∨ candidate.SameKey entry := by
  constructor
  · intro free
    simp only [reusable, Bool.or_eq_true, Bool.not_eq_true', Bool.and_eq_true, beq_iff_eq] at free
    rcases free with free | ⟨⟨⟨shift, page⟩, global⟩, space⟩
    · exact .inl free
    · refine .inr ⟨shift, page, global, fun inside => ?_⟩
      rcases space with everywhere | space
      · rw [global, everywhere] at inside
        cases inside
      · exact space
  · rintro (free | same)
    · simp [reusable, free]
    · cases inside : entry.global with
      | true => simp [reusable, same.pageShift, same.virtualPage, same.global, inside]
      | false =>
        obtain ⟨asid, root⟩ := same.space (same.global.trans inside)
        simp [reusable, same.pageShift, same.virtualPage, same.global, asid, root]

/-- The way that an insertion takes is the first that is reusable. -/
theorem insert_takes (paging : Paging w) (tlb : Tlb w) (context : TranslationContext w)
    (virtualAddress : BitVec w) (physicalAddress : PhysAddr) (metadata : WalkMetadata w) :
    let entry := entryFor paging context virtualAddress physicalAddress metadata
    ∃ taken : Fin 4,
      (insert paging tlb context virtualAddress physicalAddress metadata).entries =
        Function.update tlb.entries (slot (setFor entry.virtualPage) taken) entry ∧
      ∀ way, reusable (tlb.entries (slot (setFor entry.virtualPage) way)) entry = true →
        taken ≤ way ∧
          reusable (tlb.entries (slot (setFor entry.virtualPage) taken)) entry = true := by
  intro entry
  unfold insert
  dsimp only
  split
  · rename_i taken found
    have takes := List.find?_some found
    refine ⟨taken, rfl, fun way free => ⟨?_, takes⟩⟩
    obtain ⟨_, index, bounded, here, before⟩ := List.find?_eq_some_iff_getElem.mp found
    by_contra later
    have position : index = taken.val := by
      rw [List.getElem_finRange] at here
      exact congrArg Fin.val here
    have refused := before way.val (by omega)
    rw [List.getElem_finRange] at refused
    simp only [Fin.cast_mk, Fin.eta, Bool.not_eq_true'] at refused
    rw [show reusable _ entry = true from free] at refused
    cases refused
  · rename_i none
    refine ⟨_, rfl, fun way free => ?_⟩
    exact absurd free (List.find?_eq_none.mp none way (List.mem_finRange way))

theorem Placed.insert (placed : tlb.Placed) :
    (insert paging tlb context virtualAddress physicalAddress metadata).Placed := by
  obtain ⟨taken, entries, _⟩ :=
    insert_takes paging tlb context virtualAddress physicalAddress metadata
  intro index valid
  rw [entries] at valid ⊢
  by_cases here : index = slot
      (setFor (entryFor paging context virtualAddress physicalAddress metadata).virtualPage) taken
  · rw [here, Function.update_self]
    exact ⟨taken, rfl⟩
  · rw [Function.update_of_ne here] at valid ⊢
    exact placed index valid

/-- An insertion keeps the entries unique exactly if there is no hole in front of the entry
that it supersedes. -/
theorem unique_insert_iff (unique : tlb.Unique) (placed : tlb.Placed) :
    (insert paging tlb context virtualAddress physicalAddress metadata).Unique ↔
      tlb.NoHole (entryFor paging context virtualAddress physicalAddress metadata) := by
  obtain ⟨taken, entries, first⟩ :=
    insert_takes paging tlb context virtualAddress physicalAddress metadata
  have stored : (entryFor paging context virtualAddress physicalAddress metadata).valid = true := rfl
  generalize entryFor paging context virtualAddress physicalAddress metadata = entry
    at stored entries first ⊢
  constructor
  · intro kept way valid same earlier ahead
    by_contra hole
    rw [Bool.not_eq_true] at hole
    have least := (first earlier (reusable_iff.mpr (.inl hole))).1
    have apart : slot (setFor entry.virtualPage) way ≠ slot (setFor entry.virtualPage) taken := by
      intro together
      have ways := (slot_inj together).2
      omega
    refine apart (kept _ _ ?_ ?_ ?_)
    · rwa [entries, Function.update_of_ne apart]
    · rwa [entries, Function.update_self]
    · rwa [entries, Function.update_of_ne apart, Function.update_self]
  · intro noHole
    -- what the entry supersedes was in the way that it takes
    have superseded : ∀ index, (tlb.entries index).valid = true →
        (tlb.entries index).SameKey entry → index = slot (setFor entry.virtualPage) taken := by
      intro index valid same
      obtain ⟨way, here⟩ := placed index valid
      rw [same.virtualPage] at here
      subst here
      obtain ⟨least, free⟩ := first way (reusable_iff.mpr (.inr same))
      rcases Nat.lt_or_eq_of_le least with ahead | equal
      · have occupied := noHole way valid same taken ahead
        rcases reusable_iff.mp free with empty | other
        · rw [occupied] at empty
          cases empty
        · exact unique _ _ valid occupied (same.trans other.symm)
      · rw [Fin.ext equal]
    intro left right validLeft validRight same
    rw [entries] at validLeft validRight same
    by_cases atLeft : left = slot (setFor entry.virtualPage) taken
    · by_cases atRight : right = slot (setFor entry.virtualPage) taken
      · rw [atLeft, atRight]
      · rw [atLeft, Function.update_self, Function.update_of_ne atRight] at same
        rw [Function.update_of_ne atRight] at validRight
        rw [atLeft, superseded right validRight same.symm]
    · rw [Function.update_of_ne atLeft] at validLeft same
      by_cases atRight : right = slot (setFor entry.virtualPage) taken
      · rw [atRight, Function.update_self] at same
        rw [atRight, superseded left validLeft same]
      · rw [Function.update_of_ne atRight] at validRight same
        exact unique left right validLeft validRight same

/-- A fence makes entries invalid and leaves the others as they are. -/
theorem Unique.sfenceVma (unique : tlb.Unique) (address : Option (BitVec w))
    (asid : Option (BitVec 16)) : (tlb.sfenceVma address asid).Unique := by
  intro first second validFirst validSecond same
  have left := (entries_of_sfenceVma tlb address asid first validFirst).1
  have right := (entries_of_sfenceVma tlb address asid second validSecond).1
  rw [left] at validFirst same
  rw [right] at validSecond same
  exact unique first second validFirst validSecond same

theorem Placed.sfenceVma (placed : tlb.Placed) (address : Option (BitVec w))
    (asid : Option (BitVec 16)) : (tlb.sfenceVma address asid).Placed := by
  intro index valid
  have kept := (entries_of_sfenceVma tlb address asid index valid).1
  rw [kept] at valid ⊢
  exact placed index valid

theorem unique_clear : (clear : Tlb w).Unique := by
  intro first second valid
  cases valid

theorem placed_clear : (clear : Tlb w).Placed := by
  intro index valid
  cases valid

end Tlb

/-! ### Runs -/

/-- A call of the TLB. The memory may change in between, so each translation has its own. -/
inductive TlbCall (w : Nat) (β : Type) where
  | translate (bus : β) (context : TranslationContext w) (virtualAddress : BitVec w)
      (access : MemoryAccessType)
  | sfenceVma (virtualAddress : Option (BitVec w)) (asid : Option (BitVec 16))
  | clear

namespace TlbCall

variable [CpuBus β] {paging : Paging w} {tlb : Tlb w} {call : TlbCall w β}

def perform (paging : Paging w) (tlb : Tlb w) : TlbCall w β → Tlb w
  | .translate bus context virtualAddress access =>
    (Tlb.translate paging context virtualAddress access (bus, tlb)).2.2
  | .sfenceVma virtualAddress asid => tlb.sfenceVma virtualAddress asid
  | .clear => .clear

/-- The TLB after calls, empty before the first. -/
def reached (paging : Paging w) (calls : List (TlbCall w β)) : Tlb w :=
  calls.foldl (perform paging) {}

/-- A call that inserts no translation behind a free way. -/
def Unobstructed (paging : Paging w) (tlb : Tlb w) : TlbCall w β → Prop
  | .translate bus context virtualAddress access =>
    let walked := (paging.walkAddress context virtualAddress access bus).1
    paging.bare context = false → paging.canonical virtualAddress = true →
      tlb.lookup paging context virtualAddress access = none → walked.1.isReady = true →
        tlb.NoHole (Tlb.entryFor paging context virtualAddress walked.1.physicalAddress walked.2)
  | .sfenceVma _ _ => True
  | .clear => True

/-- One step: entries remain unique exactly if the call is not obstructed. -/
theorem unique_perform_iff (unique : tlb.Unique) (placed : tlb.Placed) :
    (call.perform paging tlb).Unique ↔ call.Unobstructed paging tlb := by
  cases call with
  | sfenceVma virtualAddress asid => exact iff_of_true (unique.sfenceVma _ _) trivial
  | clear => exact iff_of_true Tlb.unique_clear trivial
  | translate bus context virtualAddress access =>
    unfold perform Unobstructed Tlb.translate
    dsimp only
    split
    · rename_i bare
      exact iff_of_true unique fun active => absurd bare (by simp [active])
    rename_i active
    split
    · rename_i outside
      exact iff_of_true unique fun _ canonical => absurd outside (by simp [canonical])
    rename_i canonical
    split
    · rename_i entry found
      exact iff_of_true unique fun _ _ missing => by rw [found] at missing; cases missing
    rename_i missing
    split
    · rename_i ready
      rw [Tlb.unique_insert_iff unique placed]
      exact ⟨fun noHole _ _ _ _ => noHole, fun unobstructed => unobstructed (by simpa using active)
        (by simpa using canonical) missing ready⟩
    · rename_i failed
      exact iff_of_true unique fun _ _ _ ready => absurd ready failed

theorem placed_perform (placed : tlb.Placed) : (call.perform paging tlb).Placed := by
  cases call with
  | sfenceVma virtualAddress asid => exact placed.sfenceVma _ _
  | clear => exact Tlb.placed_clear
  | translate bus context virtualAddress access =>
    unfold perform Tlb.translate
    dsimp only
    split
    · exact placed
    split
    · exact placed
    split
    · exact placed
    split
    · exact placed.insert
    · exact placed

theorem reached_snoc (calls : List (TlbCall w β)) (call : TlbCall w β) :
    reached paging (calls ++ [call]) = call.perform paging (reached paging calls) := by
  rw [reached, List.foldl_append]
  rfl

theorem placed_reached (calls : List (TlbCall w β)) : (reached paging calls).Placed := by
  induction calls using List.reverseRecOn with
  | nil => exact Tlb.placed_clear
  | append_singleton calls call ih =>
    rw [reached_snoc]
    exact placed_perform ih

/-- In a run, every state has unique entries exactly if no call is obstructed. -/
theorem unique_entries_iff (paging : Paging w) (calls : List (TlbCall w β)) :
    (∀ sofar, sofar <+: calls → (reached paging sofar).Unique) ↔
      ∀ before call, before ++ [call] <+: calls →
        call.Unobstructed paging (reached paging before) := by
  constructor
  · intro always before call sofar
    have unique := always before ((List.prefix_append _ _).trans sofar)
    have next := always (before ++ [call]) sofar
    rw [reached_snoc] at next
    exact (unique_perform_iff unique (placed_reached before)).mp next
  · intro unobstructed sofar
    induction sofar using List.reverseRecOn with
    | nil => exact fun _ => Tlb.unique_clear
    | append_singleton before call ih =>
      intro sofar
      have unique := ih ((List.prefix_append _ _).trans sofar)
      rw [reached_snoc]
      exact (unique_perform_iff unique (placed_reached before)).mpr
        (unobstructed before call sofar)

/-! ### A duplicate -/

/-- Superpages at entries 0, 16 and 32 of a root table, accessed and not dirty. -/
def aliasTables : Platform.SystemBus Platform.Ram :=
  .ofProgram 0x80000000 0x4000
    (0x2000004F :: List.replicate 15 0 ++ 0x2000004F :: List.replicate 15 0 ++ [0x2000004F, 0])

/-- Two pages of one set are read, the first is fenced, and the second is written. -/
def duplicating (context : TranslationContext w) (first second : BitVec w) :
    List (TlbCall w (Platform.SystemBus Platform.Ram)) :=
  [.translate aliasTables context first .load, .translate aliasTables context second .load,
    .sfenceVma (some first) none, .translate aliasTables context second .store]

def context64 : TranslationContext 64 where
  satp := 0x8000000000080000
  privilege := .supervisor
  mstatus := 0

def context32 : TranslationContext 32 where
  satp := 0x80080000
  privilege := .supervisor
  mstatus := 0

theorem duplicated :
    ¬(reached Core64.sv39 (duplicating context64 0 0x400000000)).Unique ∧
      ¬(reached Core32.sv32 (duplicating context32 0 0x4000000)).Unique := by
  constructor
  · intro unique
    have same := unique 0 1 (by decide) (by decide)
      ⟨by decide, by decide, by decide, by decide⟩
    cases same
  · intro unique
    have same := unique 0 1 (by decide) (by decide)
      ⟨by decide, by decide, by decide, by decide⟩
    cases same

end TlbCall

end RvEmulator
