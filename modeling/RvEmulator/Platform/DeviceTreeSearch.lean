import RvEmulator.Platform.DeviceTreeTokens

/-! What the patch finds in a flattened tree: the nodes that it goes through, the memory
node and its property `reg`. -/

namespace RvEmulator.Platform.DeviceTree

open Library

section

variable {structureBlock strings : Blob} {expectedBase : BitVec 64}

/-! ### Items that are not searched -/

/-- Below the children of the root, and below the memory node once it was found. -/
structure Passive (scan : Scan) : Prop where
  inner : 2 ≤ scan.depth
  deep : scan.memoryDepth < scan.depth ∨ scan.memoryDepth = sizeMax
  small : scan.depth ≤ scan.cursor

namespace Passive

variable {scan : Scan} (passive : Passive scan)

include passive

theorem forward (count : Nat) : Passive (scan.forward count) :=
  ⟨passive.inner, passive.deep, Nat.le_add_right_of_le passive.small⟩

theorem descend {count : Nat} (some : 0 < count) : Passive (scan.descend count) :=
  ⟨Nat.le_succ_of_le passive.inner, passive.deep.imp_left Nat.lt_succ_of_lt,
    Nat.add_le_add passive.small some⟩

theorem apart (bounded : scan.cursor < 2 ^ 32) : scan.depth ≠ scan.memoryDepth := by
  have deep := passive.deep
  have small := passive.small
  unfold sizeMax at deep
  omega

theorem enter (bounded : scan.cursor < 2 ^ 32) (name : Blob) (count : Nat) :
    scan.enter name (scan.cursor + count) = scan.descend count := by
  have inner := passive.inner
  have small := passive.small
  unfold Scan.enter
  rw [sizeAdd_eq (by omega)]
  exact if_neg fun memory => by omega

end Passive

variable (bounded : Bounded structureBlock strings)

include bounded

/-- A node, when the loop goes through what is inside it. -/
theorem skips_node {scan : Scan} {name inner : Blob} (aligned : scan.cursor % 4 = 0)
    (nonzero : 0 ∉ name)
    (found : At structureBlock scan.cursor (nodeHeader name ++ inner ++ token fdtEndNode))
    (entered : scan.enter name (scan.cursor + (nodeHeader name).length) =
      scan.descend (nodeHeader name).length)
    (other : scan.depth + 1 ≠ scan.memoryDepth)
    (within : Skips structureBlock strings expectedBase (scan.descend (nodeHeader name).length)
      ((scan.descend (nodeHeader name).length).forward inner.length)) :
    Skips structureBlock strings expectedBase scan
      (scan.forward (nodeHeader name ++ inner ++ token fdtEndNode).length) := by
  have header := @skips_nodeHeader _ _ expectedBase bounded _ _ aligned nonzero found.left.left
  rw [entered] at header
  rw [Scan.forward_descend, ← List.length_append] at within
  rw [List.length_append]
  exact (header.trans within).trans (skips_endNode bounded found.right other)

/-- Whoever is passive inside a node does not leave the memory node with it. -/
theorem Passive.leave {scan : Scan} {name inner : Blob}
    (passive : Passive (scan.descend (nodeHeader name).length))
    (found : At structureBlock scan.cursor (nodeHeader name ++ inner ++ token fdtEndNode)) :
    scan.depth + 1 ≠ scan.memoryDepth := by
  have small := bounded.cursor found.right (List.ne_nil_of_length_eq_add_one (length_token _))
  rw [List.length_append] at small
  exact passive.apart (by dsimp only [Scan.descend]; omega)

theorem skips_items {items : List Item} {bytes : Blob} (flattens : Flattens strings items bytes)
    {scan : Scan} (aligned : scan.cursor % 4 = 0) (found : At structureBlock scan.cursor bytes)
    (passive : Passive scan) :
    Skips structureBlock strings expectedBase scan (scan.forward bytes.length) := by
  induction flattens generalizing scan with
  | nil => exact .refl scan
  | nop _ ih =>
    exact (skips_nop bounded found.left).append
      (ih (Scan.aligned_forward aligned rfl) found.right (passive.forward _))
  | @property items bytes name value nameOffset string short _ ih =>
    have small := bounded.cursor found (by simp [propertyHeader, token, bigEndian])
    have other := passive.apart small
    have whole := property_mod value nameOffset
    exact (skips_property bounded aligned string short found.left fun reg => other reg.1).append
      (ih (Scan.aligned_forward aligned whole) found.right (passive.forward _))
  | @node children items bytes name inner nonzero within _ ihInner ih =>
    have node := found.left
    have header := nodeHeader_mod name
    have small := bounded.cursor found (by simp [nodeHeader, token, bigEndian])
    have deeper : Passive (scan.descend (nodeHeader name).length) :=
      passive.descend (by rw [length_nodeHeader]; omega)
    have inside := @ihInner (scan.descend (nodeHeader name).length)
      (Scan.aligned_forward aligned header) node.left.right deeper
    have skips := skips_node bounded aligned nonzero node (passive.enter small name _)
      (deeper.leave bounded node) inside
    exact skips.append
      (ih (Scan.aligned_forward aligned (node_mod name within.length_mod)) found.right
        (passive.forward _))

/-- A node whose contents are not searched. -/
theorem skips_child {children : List Item} {inner : Blob}
    (flattens : Flattens strings children inner) {scan : Scan} {name : Blob}
    (aligned : scan.cursor % 4 = 0) (nonzero : 0 ∉ name)
    (found : At structureBlock scan.cursor (nodeHeader name ++ inner ++ token fdtEndNode))
    (entered : scan.enter name (scan.cursor + (nodeHeader name).length) =
      scan.descend (nodeHeader name).length)
    (passive : Passive (scan.descend (nodeHeader name).length)) :
    Skips structureBlock strings expectedBase scan
      (scan.forward (nodeHeader name ++ inner ++ token fdtEndNode).length) :=
  skips_node bounded aligned nonzero found entered (passive.leave bounded found)
    (@skips_items _ _ _ bounded _ _ flattens (scan.descend _)
      (Scan.aligned_forward aligned (nodeHeader_mod name)) found.left.right passive)

theorem skips_nops {bytes : Blob} (flattens : Flattens strings [] bytes) {scan : Scan}
    (found : At structureBlock scan.cursor bytes) :
    Skips structureBlock strings expectedBase scan (scan.forward bytes.length) := by
  generalize empty : ([] : List Item) = items at flattens
  induction flattens generalizing scan with
  | nil => exact .refl scan
  | nop _ ih => exact (skips_nop bounded found.left).append (ih found.right empty)
  | property => cases empty
  | node => cases empty

omit bounded

/-! ### Values that are found -/

/-- A place behind the cursor is found, and a size stored there changes the items. -/
structure Located (structureBlock strings : Blob) (expectedBase : BitVec 64) (scan : Scan)
    (bytes : Blob) (change : BitVec 64 → List Item) (place : Nat) : Prop where
  finishes : Finishes structureBlock strings expectedBase scan (.found (scan.cursor + place + 8))
  inside : place + 16 ≤ bytes.length
  flattens : ∀ size, Flattens strings (change size) (patched bytes place size)

/-- The loop ends at a value. -/
structure Resolves (structureBlock strings : Blob) (expectedBase : BitVec 64) (scan : Scan)
    (bytes value : Blob) (change : BitVec 64 → List Item) : Prop where
  expected : Expected expectedBase value →
    ∃ place, Located structureBlock strings expectedBase scan bytes change place
  unexpected : ¬Expected expectedBase value →
    Finishes structureBlock strings expectedBase scan (.failed .unexpectedMemoryLayout)

/-- A value in the middle of other bytes. -/
theorem Resolves.lift {scan later : Scan} {before bytes after value : Blob}
    {change changed : BitVec 64 → List Item}
    (resolves : Resolves structureBlock strings expectedBase later bytes value change)
    (skips : Skips structureBlock strings expectedBase scan later)
    (cursor : later.cursor = scan.cursor + before.length)
    (around : ∀ size middle, Flattens strings (change size) middle →
      Flattens strings (changed size) (before ++ middle ++ after)) :
    Resolves structureBlock strings expectedBase scan (before ++ bytes ++ after) value changed where
  expected expected := by
    obtain ⟨place, finishes, inside, flattens⟩ := resolves.expected expected
    refine ⟨before.length + place, ?_, ?_, fun size => ?_⟩
    · rw [← Nat.add_assoc, ← cursor]
      exact skips _ finishes
    · rw [List.length_append, List.length_append]
      omega
    · rw [patched_append size inside]
      exact around size _ (flattens size)
  unexpected unexpected := skips _ (resolves.unexpected unexpected)

/-- The same without bytes behind the value. -/
theorem Resolves.skip {scan later : Scan} {before bytes value : Blob}
    {change changed : BitVec 64 → List Item}
    (resolves : Resolves structureBlock strings expectedBase later bytes value change)
    (skips : Skips structureBlock strings expectedBase scan later)
    (cursor : later.cursor = scan.cursor + before.length)
    (around : ∀ size middle, Flattens strings (change size) middle →
      Flattens strings (changed size) (before ++ middle)) :
    Resolves structureBlock strings expectedBase scan (before ++ bytes) value changed := by
  have lifted : Resolves structureBlock strings expectedBase scan (before ++ bytes ++ []) value
      changed := resolves.lift skips cursor fun size middle flattens => by
    rw [List.append_nil]
    exact around size middle flattens
  rwa [List.append_nil] at lifted

/-! ### The property `reg` -/

theorem padded_eq {value : Blob} (whole : value.length % 4 = 0) : padded value = value := by
  have same : nextWord value.length = value.length := by
    unfold nextWord
    omega
  rw [padded, same, Nat.sub_self, List.replicate_zero, List.append_nil]

theorem patched_value {value : Blob} (sized : value.length = 16) (size : BitVec 64) :
    patched value 0 size = withSize size value := by
  rw [patched, List.drop_eq_nil_of_le (by omega), List.append_nil]
  rfl

theorem length_withSize {value : Blob} (sized : value.length = 16) (size : BitVec 64) :
    (withSize size value).length = value.length := by
  rw [← patched_value sized, length_patched (by omega)]

include bounded

theorem resolves_reg {items : List Item} {bytes value : Blob} {nameOffset : BitVec 32}
    (string : StringAt strings nameOffset.toNat (text "reg")) (short : value.length < 2 ^ 32)
    (flattens : Flattens strings items bytes) {scan : Scan} (aligned : scan.cursor % 4 = 0)
    (found : At structureBlock scan.cursor
      (propertyHeader value nameOffset ++ padded value ++ bytes))
    (same : scan.depth = scan.memoryDepth) :
    Resolves structureBlock strings expectedBase scan
      (propertyHeader value nameOffset ++ padded value ++ bytes) value
      (setReg · (.property (text "reg") value :: items)) := by
  have finishes := @finishes_reg _ _ expectedBase bounded _ _ _ aligned string short found.left same
  constructor
  · intro expected
    have sized := expected.1
    rw [if_pos expected] at finishes
    refine ⟨12, finishes, ?_, fun size => ?_⟩
    · rw [padded_eq (by omega), List.length_append, List.length_append, length_propertyHeader]
      omega
    have kept := length_withSize sized size
    have header : propertyHeader value nameOffset =
        propertyHeader (withSize size value) nameOffset := by
      rw [propertyHeader, propertyHeader, kept]
    have middle := @patched_append (propertyHeader value nameOffset) value bytes 0 size (by omega)
    rw [length_propertyHeader, patched_value sized] at middle
    have result : Flattens strings (.property (text "reg") (withSize size value) :: items)
        (propertyHeader (withSize size value) nameOffset ++ padded (withSize size value) ++ bytes) :=
      .property string (by omega) flattens
    rw [padded_eq (by omega)] at result
    rw [padded_eq (by omega), middle, header, setReg, if_pos rfl]
    exact result
  · intro unexpected
    rwa [if_neg unexpected] at finishes

/-- The items of the memory node are searched for `reg`. -/
structure Searched (structureBlock strings : Blob) (expectedBase : BitVec 64) (scan : Scan)
    (reg : Option Blob) (bytes : Blob) (change : BitVec 64 → List Item) : Prop where
  missing : reg = none → Skips structureBlock strings expectedBase scan (scan.forward bytes.length)
  present : ∀ value, reg = some value →
    Resolves structureBlock strings expectedBase scan bytes value change

omit bounded in
theorem Searched.skip {scan : Scan} {reg : Option Blob} {part bytes : Blob}
    {change changed : BitVec 64 → List Item}
    (rest : Searched structureBlock strings expectedBase (scan.forward part.length) reg bytes change)
    (skips : Skips structureBlock strings expectedBase scan (scan.forward part.length))
    (around : ∀ size middle, Flattens strings (change size) middle →
      Flattens strings (changed size) (part ++ middle)) :
    Searched structureBlock strings expectedBase scan reg (part ++ bytes) changed where
  missing none := skips.append (rest.missing none)
  present value some := (rest.present value some).skip skips rfl around

theorem searched {items : List Item} {bytes : Blob} (flattens : Flattens strings items bytes)
    {scan : Scan} (aligned : scan.cursor % 4 = 0) (found : At structureBlock scan.cursor bytes)
    (inMemory : scan.depth = 2 ∧ scan.memoryDepth = 2 ∧ scan.memoryFound = true)
    (small : 2 ≤ scan.cursor) :
    Searched structureBlock strings expectedBase scan (firstReg items) bytes (setReg · items) := by
  induction flattens generalizing scan with
  | nil => exact ⟨fun _ => .refl scan, nofun⟩
  | nop _ ih =>
    have rest := ih (Scan.aligned_forward aligned rfl) found.right inMemory
      (Nat.le_add_right_of_le small)
    exact rest.skip (skips_nop bounded found.left) fun _ _ => .nop
  | @property items bytes name value nameOffset string short flattens ih =>
    have whole := property_mod value nameOffset
    by_cases reg : name = text "reg"
    · subst reg
      rw [firstReg, if_pos rfl]
      refine ⟨nofun, fun other is => ?_⟩
      obtain rfl : value = other := Option.some.inj is
      exact resolves_reg bounded string short flattens aligned found
        (inMemory.1.trans inMemory.2.1.symm)
    · have rest := ih (Scan.aligned_forward aligned whole) found.right inMemory
        (Nat.le_add_right_of_le small)
      have changed (size : BitVec 64) : setReg size (.property name value :: items) =
          .property name value :: setReg size items := if_neg reg
      rw [firstReg, if_neg reg]
      simp only [changed]
      exact rest.skip (skips_property bounded aligned string short found.left fun both => reg both.2)
        fun _ _ => .property string short
  | @node children items bytes name inner nonzero within _ _ ih =>
    obtain ⟨depth, memoryDepth, memoryFound⟩ := inMemory
    have entered : scan.enter name (scan.cursor + (nodeHeader name).length) =
        scan.descend (nodeHeader name).length := by
      unfold Scan.enter
      rw [depth, memoryFound]
      exact (if_neg nofun).trans (by rw [Scan.descend, depth, memoryFound]; rfl)
    have deeper : Passive (scan.descend (nodeHeader name).length) := by
      have header := length_nodeHeader name
      constructor <;> dsimp only [Scan.descend] <;> omega
    have rest := ih (Scan.aligned_forward aligned (node_mod name within.length_mod)) found.right
      ⟨depth, memoryDepth, memoryFound⟩ (Nat.le_add_right_of_le small)
    exact rest.skip (skips_child bounded within aligned nonzero found.left entered deeper)
      fun _ _ => .node nonzero within

/-! ### The memory node -/

/-- The children of the root are searched for the memory node. -/
structure Sought (structureBlock strings : Blob) (expectedBase : BitVec 64) (scan : Scan)
    (memory : Option (List Item)) (bytes : Blob) (change : BitVec 64 → List Item) : Prop where
  missing : memory = none →
    Skips structureBlock strings expectedBase scan (scan.forward bytes.length)
  without : ∀ items, memory = some items → firstReg items = none →
    Finishes structureBlock strings expectedBase scan (.failed .memoryRegNotFound)
  present : ∀ items value, memory = some items → firstReg items = some value →
    Resolves structureBlock strings expectedBase scan bytes value change

omit bounded in
theorem Sought.skip {scan : Scan} {memory : Option (List Item)} {part bytes : Blob}
    {change changed : BitVec 64 → List Item}
    (rest : Sought structureBlock strings expectedBase (scan.forward part.length) memory bytes change)
    (skips : Skips structureBlock strings expectedBase scan (scan.forward part.length))
    (around : ∀ size middle, Flattens strings (change size) middle →
      Flattens strings (changed size) (part ++ middle)) :
    Sought structureBlock strings expectedBase scan memory (part ++ bytes) changed where
  missing none := skips.append (rest.missing none)
  without items some none := skips _ (rest.without items some none)
  present items value some first := (rest.present items value some first).skip skips rfl around

/-- What the search finds inside the memory node. -/
theorem sought_here {children items : List Item} {name inner bytes : Blob}
    (memory : IsMemory name) (nonzero : 0 ∉ name) (within : Flattens strings children inner)
    (flattens : Flattens strings items bytes) {scan : Scan} (aligned : scan.cursor % 4 = 0)
    (found : At structureBlock scan.cursor
      (nodeHeader name ++ inner ++ token fdtEndNode ++ bytes))
    (depth : scan.depth = 1) (memoryFound : scan.memoryFound = false) :
    Sought structureBlock strings expectedBase scan (some children)
      (nodeHeader name ++ inner ++ token fdtEndNode ++ bytes)
      (setMemory · (.node name children :: items)) := by
  have node := found.left
  let entered : Scan :=
    { cursor := scan.cursor + (nodeHeader name).length, depth := 2, memoryDepth := 2,
      memoryFound := true }
  have enters : scan.enter name (scan.cursor + (nodeHeader name).length) = entered := by
    unfold Scan.enter
    rw [depth, memoryFound]
    exact if_pos ⟨rfl, rfl, (isMemoryNode_iff name).mpr memory⟩
  have skips := @skips_nodeHeader _ _ expectedBase bounded _ _ aligned nonzero node.left.left
  rw [enters] at skips
  have header := length_nodeHeader name
  have search : Searched structureBlock strings expectedBase entered (firstReg children)
      inner (setReg · children) :=
    searched bounded within (Scan.aligned_forward aligned (nodeHeader_mod name)) node.left.right
      ⟨rfl, rfl, rfl⟩ (by dsimp only [entered]; omega)
  refine ⟨nofun, fun others is missing => ?_, fun others value is present => ?_⟩
  · obtain rfl : children = others := Option.some.inj is
    refine skips _ (search.missing missing _ (finishes_endNode bounded ?_ (Nat.succ_ne_zero 1) rfl))
    have footer := node.right
    rw [List.length_append, ← Nat.add_assoc] at footer
    exact footer
  · obtain rfl : children = others := Option.some.inj is
    rw [List.append_assoc _ (token fdtEndNode)]
    refine (search.present value present).lift skips rfl fun size middle flattened => ?_
    rw [setMemory, if_pos memory, ← List.append_assoc]
    exact .node nonzero flattened flattens

theorem sought {items : List Item} {bytes : Blob} (flattens : Flattens strings items bytes)
    {scan : Scan} (aligned : scan.cursor % 4 = 0) (found : At structureBlock scan.cursor bytes)
    (inRoot : scan.depth = 1 ∧ scan.memoryDepth = sizeMax ∧ scan.memoryFound = false) :
    Sought structureBlock strings expectedBase scan (memoryNode items) bytes
      (setMemory · items) := by
  induction flattens generalizing scan with
  | nil => exact ⟨fun _ => .refl scan, nofun, nofun⟩
  | nop _ ih =>
    have rest := ih (Scan.aligned_forward aligned rfl) found.right inRoot
    exact rest.skip (skips_nop bounded found.left) fun _ _ => .nop
  | @property items bytes name value nameOffset string short _ ih =>
    have whole := property_mod value nameOffset
    have other : scan.depth ≠ scan.memoryDepth := by
      rw [inRoot.1, inRoot.2.1]
      decide
    have rest := ih (Scan.aligned_forward aligned whole) found.right inRoot
    exact rest.skip (skips_property bounded aligned string short found.left fun both => other both.1)
      fun _ _ => .property string short
  | @node children items bytes name inner nonzero within flattens _ ih =>
    obtain ⟨depth, memoryDepth, memoryFound⟩ := inRoot
    by_cases memory : IsMemory name
    · rw [memoryNode, if_pos memory]
      exact sought_here bounded memory nonzero within flattens aligned found depth memoryFound
    have entered : scan.enter name (scan.cursor + (nodeHeader name).length) =
        scan.descend (nodeHeader name).length := by
      unfold Scan.enter
      rw [depth]
      refine (if_neg fun both => memory ((isMemoryNode_iff name).mp both.2.2)).trans ?_
      rw [Scan.descend, depth]
      rfl
    have deeper : Passive (scan.descend (nodeHeader name).length) := by
      have header := length_nodeHeader name
      refine ⟨?_, .inr memoryDepth, ?_⟩ <;> dsimp only [Scan.descend] <;> omega
    have rest := ih (Scan.aligned_forward aligned (node_mod name within.length_mod)) found.right
      ⟨depth, memoryDepth, memoryFound⟩
    have changed (size : BitVec 64) : setMemory size (.node name children :: items) =
        .node name children :: setMemory size items := if_neg memory
    rw [memoryNode, if_neg memory]
    simp only [changed]
    exact rest.skip (skips_child bounded within aligned nonzero found.left entered deeper)
      fun _ _ => .node nonzero within

/-- A flattened tree, and nothing behind it. -/
theorem sought_root {tree : Tree} {bytes : Blob}
    (flattens : Flattens strings [.node tree.name tree.items] bytes) {scan : Scan}
    (aligned : scan.cursor % 4 = 0) (found : At structureBlock scan.cursor bytes)
    (outside : scan.depth = 0 ∧ scan.memoryDepth = sizeMax ∧ scan.memoryFound = false) :
    Sought structureBlock strings expectedBase scan tree.memory bytes
      (fun size => [.node tree.name (setMemory size tree.items)]) := by
  generalize root : [Item.node tree.name tree.items] = items at flattens
  induction flattens generalizing scan with
  | nil => cases root
  | nop _ ih =>
    have rest := ih (Scan.aligned_forward aligned rfl) found.right outside root
    exact rest.skip (skips_nop bounded found.left) fun _ _ => .nop
  | property => cases root
  | @node children items bytes name inner nonzero within flattens _ _ =>
    cases root
    obtain ⟨depth, memoryDepth, memoryFound⟩ := outside
    have node := found.left
    have entered : scan.enter tree.name (scan.cursor + (nodeHeader tree.name).length) =
        scan.descend (nodeHeader tree.name).length := by
      unfold Scan.enter
      rw [depth]
      refine (if_neg fun both => absurd both.2.1 (by decide)).trans ?_
      rw [Scan.descend, depth]
      rfl
    have header := @skips_nodeHeader _ _ expectedBase bounded _ _ aligned nonzero node.left.left
    rw [entered] at header
    have search : Sought structureBlock strings expectedBase
        (scan.descend (nodeHeader tree.name).length) tree.memory inner
        (setMemory · tree.items) :=
      sought bounded within (Scan.aligned_forward aligned (nodeHeader_mod tree.name))
        node.left.right ⟨congrArg (· + 1) depth, memoryDepth, memoryFound⟩
    have other : scan.depth + 1 ≠ scan.memoryDepth := by
      rw [depth, memoryDepth]
      decide
    constructor
    · intro missing
      exact (skips_node bounded aligned nonzero node entered other (search.missing missing)).append
        (skips_nops bounded flattens found.right)
    · intro items some missing
      exact header _ (search.without items some missing)
    · intro items value some present
      rw [List.append_assoc _ (token fdtEndNode)]
      refine (search.present items value some present).lift header rfl fun size middle flattened => ?_
      rw [← List.append_assoc]
      exact .node nonzero flattened flattens

end

end RvEmulator.Platform.DeviceTree
