/-! Resolution of a key through a radix tree of words, as a function of the
words alone: which entries it reads, where it ends, and when two memories give
the same answer. Table addresses, keys, words and read faults are arbitrary. -/

namespace RvEmulator.Library

/-- What one word is, at a given level: malformed, a pointer to the next table,
or a leaf. The flag is the word's own share of a property paths accumulate. -/
inductive EntryClass (A : Type) where
  | invalid
  | table (next : A) (shared : Bool)
  | leaf (shared : Bool)

/-- How a key selects an entry of a table at a level, and how a word reads there. -/
structure RadixFormat (A K W : Type) where
  entry : K → Nat → A → A
  classify : Nat → W → EntryClass A

structure Leaf (A W : Type) where
  address : A
  word : W
  level : Nat
  shared : Bool

inductive Resolution (A W F : Type) where
  | fault (reason : F)
  | invalid
  | leaf (found : Leaf A W)

namespace RadixFormat

variable {A K W F : Type} (format : RadixFormat A K W)

/-- Descend from level `n - 1` to level `0`, starting at a table. -/
def resolve (read : A → Except F W) (key : K) : Nat → A → Bool → Resolution A W F
  | 0, _, _ => .invalid
  | level + 1, table, shared =>
    match read (format.entry key level table) with
    | .error reason => .fault reason
    | .ok word =>
      match format.classify level word with
      | .invalid => .invalid
      | .table next own => resolve read key level next (shared || own)
      | .leaf own => .leaf ⟨format.entry key level table, word, level, shared || own⟩

/-- The entries a resolution reads, in order. -/
def path (read : A → Except F W) (key : K) : Nat → A → List A
  | 0, _ => []
  | level + 1, table =>
    format.entry key level table ::
      match read (format.entry key level table) with
      | .error _ => []
      | .ok word =>
        match format.classify level word with
        | .table next _ => path read key level next
        | _ => []

/-- A change of words that no level of a resolution can tell. -/
def Harmless (changed : W → W → Prop) : Prop :=
  ∀ old new, changed old new → ∀ level, format.classify level old = format.classify level new

/-- Two read results agree up to a change of words. -/
inductive Agree (changed : W → W → Prop) : Except F W → Except F W → Prop where
  | error : Agree changed (.error reason) (.error reason)
  | ok (step : changed old new) : Agree changed (.ok old) (.ok new)

/-- Two resolutions agree up to a change of the leaf's word. -/
inductive Matches (changed : W → W → Prop) : Resolution A W F → Resolution A W F → Prop where
  | fault : Matches changed (.fault reason) (.fault reason)
  | invalid : Matches changed .invalid .invalid
  | leaf (step : changed old new) :
      Matches changed (.leaf ⟨address, old, level, shared⟩) (.leaf ⟨address, new, level, shared⟩)

theorem Agree.refl {changed : W → W → Prop} (reflexive : ∀ word, changed word word) :
    (found : Except F W) → Agree changed found found
  | .error _ => .error
  | .ok word => .ok (reflexive word)

theorem Agree.trans {changed : W → W → Prop} {first second third : Except F W}
    (left : Agree changed first second) (right : Agree changed second third)
    (transitive : ∀ old middle new, changed old middle → changed middle new → changed old new) :
    Agree changed first third := by
  cases left with
  | error =>
    cases right with
    | error => exact .error
  | ok step =>
    cases right with
    | ok next => exact .ok (transitive _ _ _ step next)

theorem Agree.swap {changed : W → W → Prop} {left right : Except F W} :
    Agree (fun old new => changed new old) left right → Agree changed right left
  | .error => .error
  | .ok step => .ok step

theorem Agree.mono {changed wider : W → W → Prop}
    (included : ∀ old new, changed old new → wider old new) {left right : Except F W} :
    Agree changed left right → Agree wider left right
  | .error => .error
  | .ok step => .ok (included _ _ step)

/-- A resolution depends only on the entries it reads: where the words on the
old memory's path are the new ones, up to harmless changes, the new memory has
the same path and the same answer up to such a change. -/
theorem resolve_of_agree {changed : W → W → Prop} (harmless : format.Harmless changed)
    {before after : A → Except F W} (key : K) :
    ∀ (levels : Nat) (table : A) (shared : Bool),
      (∀ address ∈ format.path before key levels table,
        Agree changed (before address) (after address)) →
      format.path after key levels table = format.path before key levels table ∧
        Matches changed (format.resolve before key levels table shared)
          (format.resolve after key levels table shared) := by
  intro levels
  induction levels with
  | zero =>
    intro table shared _
    exact ⟨rfl, .invalid⟩
  | succ level ih =>
    intro table shared agree
    have here := agree (format.entry key level table) (by simp [path])
    simp only [path, resolve] at agree ⊢
    cases left : before (format.entry key level table) with
    | error reason =>
      cases right : after (format.entry key level table) with
      | error _ =>
        rw [left, right] at here
        cases here
        exact ⟨rfl, .fault⟩
      | ok new =>
        rw [left, right] at here
        cases here
    | ok old =>
      cases right : after (format.entry key level table) with
      | error reason =>
        rw [left, right] at here
        cases here
      | ok new =>
        rw [left, right] at here
        cases here with
        | ok step =>
          have alike := harmless old new step level
          rw [left] at agree
          simp only [← alike]
          cases kind : format.classify level old with
          | invalid => exact ⟨rfl, .invalid⟩
          | leaf own => exact ⟨rfl, .leaf step⟩
          | table next own =>
            have rest : ∀ address ∈ format.path before key level next,
                Agree changed (before address) (after address) := by
              intro address member
              exact agree address (by simp [kind, member])
            obtain ⟨samePath, result⟩ := ih next (shared || own) rest
            simp only [samePath, result, and_self]

/-- The same, from the words on the new memory's path. -/
theorem resolve_of_agree_after {changed : W → W → Prop} (harmless : format.Harmless changed)
    {before after : A → Except F W} (key : K) (levels : Nat) (table : A) (shared : Bool)
    (agree : ∀ address ∈ format.path after key levels table,
      Agree changed (before address) (after address)) :
    format.path before key levels table = format.path after key levels table ∧
      Matches changed (format.resolve before key levels table shared)
        (format.resolve after key levels table shared) := by
  have reversed : format.Harmless (fun old new => changed new old) := by
    intro old new step level
    exact (harmless new old step level).symm
  have swapped : ∀ address ∈ format.path after key levels table,
      Agree (fun old new => changed new old) (after address) (before address) := by
    intro address member
    exact Agree.swap (agree address member)
  obtain ⟨samePath, _⟩ := format.resolve_of_agree reversed key levels table shared swapped
  refine ⟨samePath, ?_⟩
  rw [← samePath] at agree
  exact (format.resolve_of_agree harmless key levels table shared agree).2

theorem level_lt_of_resolve {read : A → Except F W} {key : K} {levels : Nat} {table : A}
    {shared : Bool} {found : Leaf A W}
    (resolved : format.resolve read key levels table shared = .leaf found) :
    found.level < levels := by
  induction levels generalizing table shared with
  | zero => cases resolved
  | succ level ih =>
    simp only [resolve] at resolved
    split at resolved
    · cases resolved
    · split at resolved
      · cases resolved
      · exact Nat.lt_succ_of_lt (ih resolved)
      · cases resolved
        exact Nat.lt_succ_self level

/-- A leaf is found at its own address, holding its own word. -/
theorem leaf_of_resolve {read : A → Except F W} {key : K} {levels : Nat} {table : A}
    {shared : Bool} {found : Leaf A W}
    (resolved : format.resolve read key levels table shared = .leaf found) :
    found.address ∈ format.path read key levels table ∧ read found.address = .ok found.word ∧
      ∃ own, format.classify found.level found.word = .leaf own ∧
        (own = true → found.shared = true) := by
  induction levels generalizing table shared with
  | zero => cases resolved
  | succ level ih =>
    simp only [resolve, path] at resolved ⊢
    cases content : read (format.entry key level table) with
    | error reason => simp [content] at resolved
    | ok word =>
      simp only [content] at resolved ⊢
      cases kind : format.classify level word with
      | invalid => simp [kind] at resolved
      | leaf own =>
        simp only [kind, Resolution.leaf.injEq] at resolved
        subst resolved
        refine ⟨List.mem_cons_self, content, own, kind, ?_⟩
        intro set
        rw [set, Bool.or_true]
      | table next own =>
        simp only [kind] at resolved
        obtain ⟨member, rest⟩ := ih resolved
        exact ⟨List.mem_cons_of_mem _ member, rest⟩

/-- Keys that select the same entries down to the leaf's level resolve alike. -/
theorem resolve_of_entries_below {read : A → Except F W} {key other : K} {found : Leaf A W} :
    ∀ {levels : Nat}, (∀ level, found.level ≤ level → level < levels →
      ∀ table, format.entry other level table = format.entry key level table) →
    ∀ (table : A) (shared : Bool), format.resolve read key levels table shared = .leaf found →
      format.path read other levels table = format.path read key levels table ∧
        format.resolve read other levels table shared = .leaf found := by
  intro levels
  induction levels with
  | zero =>
    intro _ table shared resolved
    cases resolved
  | succ level ih =>
    intro entries table shared resolved
    have lower : ∀ below, found.level ≤ below → below < level →
        ∀ table, format.entry other below table = format.entry key below table :=
      fun below above inside => entries below above (Nat.lt_succ_of_lt inside)
    have here := entries level (Nat.le_of_lt_succ (format.level_lt_of_resolve resolved))
      (Nat.lt_succ_self level) table
    simp only [path, resolve, here] at resolved ⊢
    cases content : read (format.entry key level table) with
    | error reason => simp [content] at resolved
    | ok word =>
      simp only [content] at resolved ⊢
      cases kind : format.classify level word with
      | invalid => simp [kind] at resolved
      | leaf own =>
        simp only [kind] at resolved
        exact ⟨rfl, resolved⟩
      | table next own =>
        simp only [kind] at resolved
        obtain ⟨samePath, result⟩ := ih lower next (shared || own) resolved
        exact ⟨congrArg _ samePath, result⟩

end RadixFormat

end RvEmulator.Library
