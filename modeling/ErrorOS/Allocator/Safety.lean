import ErrorOS.Allocator.LinkedList
import Mathlib.Data.List.Perm.Basic
import Mathlib.Data.Nat.Size

/-!
# Heap safety of the linked-list allocator

Every run of `alloc` and `dealloc` from `init` keeps `HeapInvariant`: the free
regions and the live blocks are pairwise disjoint ranges of the heap, each
region is aligned and large enough for its `ListNode`, and each block is
aligned for its layout.  `alloc` reaches neither an assertion of
`add_free_region` nor its `expect("overflow")` from any state; `dealloc` of a
live block passes both assertions because the invariant keeps the block
aligned and large.
-/

namespace ErrorOS.Allocator

open LinkedListAllocator

/-! ## Layout arithmetic -/

theorem dvd_of_isPowerOfTwo {small large : Nat} (smallPow : small.isPowerOfTwo)
    (largePow : large.isPowerOfTwo) (le : small ≤ large) : small ∣ large := by
  obtain ⟨smallExponent, rfl⟩ := smallPow
  obtain ⟨largeExponent, rfl⟩ := largePow
  exact Nat.pow_dvd_pow 2 ((Nat.pow_le_pow_iff_right (by decide)).mp le)

theorem sizeAlign_spec {layout : Layout} {size align : Nat}
    (adjusted : sizeAlign layout = .ok (size, align)) :
    align = max layout.align alignOfListNode ∧
      size = max (roundUp layout.size align) sizeOfListNode := by
  unfold sizeAlign at adjusted
  dsimp only at adjusted
  split at adjusted
  · simp only [pure, Except.pure, Except.ok.injEq, Prod.mk.injEq] at adjusted
    obtain ⟨sizeEq, rfl⟩ := adjusted
    exact ⟨rfl, sizeEq.symm⟩
  · cases adjusted

theorem sizeAlign_pos {layout : Layout} {size align : Nat}
    (adjusted : sizeAlign layout = .ok (size, align)) : 0 < align := by
  rw [(sizeAlign_spec adjusted).1]
  exact Nat.lt_of_lt_of_le (by decide) (Nat.le_max_right _ _)

theorem sizeAlign_dvd {layout : Layout} {size align : Nat}
    (adjusted : sizeAlign layout = .ok (size, align)) :
    layout.align ∣ align ∧ alignOfListNode ∣ align ∧ alignOfListNode ∣ size ∧
      sizeOfListNode ≤ size := by
  obtain ⟨rfl, rfl⟩ := sizeAlign_spec adjusted
  have nodePow : alignOfListNode.isPowerOfTwo := ⟨3, rfl⟩
  obtain ⟨layoutDvd, nodeDvd⟩ : layout.align ∣ max layout.align alignOfListNode ∧
      alignOfListNode ∣ max layout.align alignOfListNode := by
    by_cases small : layout.align ≤ alignOfListNode
    · rw [Nat.max_eq_right small]
      exact ⟨dvd_of_isPowerOfTwo layout.align_pow nodePow small, Nat.dvd_refl _⟩
    · rw [Nat.max_eq_left (by omega)]
      exact ⟨Nat.dvd_refl _, dvd_of_isPowerOfTwo nodePow layout.align_pow (by omega)⟩
  refine ⟨layoutDvd, nodeDvd, ?_, Nat.le_max_right _ _⟩
  by_cases small : roundUp layout.size (max layout.align alignOfListNode) ≤ sizeOfListNode
  · rw [Nat.max_eq_right small]
    decide
  · rw [Nat.max_eq_left (by omega)]
    exact Nat.dvd_trans nodeDvd (dvd_roundUp _ _)

theorem sizeAlign_error {layout : Layout} {panic : Panic}
    (rejected : sizeAlign layout = .error panic) :
    panic = .expect "adjusting alignment failed" := by
  unfold sizeAlign at rejected
  dsimp only at rejected
  split at rejected
  · cases rejected
  · simpa [throw, throwThe, MonadExceptOf.throw] using rejected.symm

/-! ## One lemma for each function of `linked_list.rs` -/

theorem addFreeRegion_of_valid (allocator : LinkedListAllocator) {addr size : Nat}
    (aligned : alignOfListNode ∣ addr) (large : sizeOfListNode ≤ size) :
    allocator.addFreeRegion addr size = .ok ⟨⟨addr, size⟩ :: allocator.regions⟩ := by
  simp [addFreeRegion, alignUp, roundUp_of_dvd (by decide : 0 < alignOfListNode) aligned,
    Nat.not_lt.mpr large, pure, Except.pure]

theorem allocFromRegion_spec {region : ListNode} {size align start : Nat}
    (accepted : allocFromRegion region size align = some start) :
    start = alignUp region.startAddr align ∧ start + size ≤ region.endAddr ∧
      start + size ≤ usizeMax ∧
      (region.endAddr - (start + size) = 0 ∨
        sizeOfListNode ≤ region.endAddr - (start + size)) := by
  unfold allocFromRegion at accepted
  dsimp only at accepted
  split at accepted
  · cases accepted
  · rename_i allocEnd added
    obtain ⟨bounded, rfl⟩ := checkedAdd_eq_some.mp added
    split at accepted
    · cases accepted
    · split at accepted
      · cases accepted
      · cases accepted
        refine ⟨rfl, by omega, bounded, ?_⟩
        omega

/-- `find_region` unlinks the first region that `alloc_from_region` accepts
and keeps the others in order. -/
theorem findRegion_spec {size align : Nat} {regions rest : List ListNode} {region : ListNode}
    {start : Nat} (found : findRegion size align regions = some ((region, start), rest)) :
    allocFromRegion region size align = some start ∧
      ∃ front back, regions = front ++ region :: back ∧
        (∀ node ∈ front, allocFromRegion node size align = none) ∧ rest = front ++ back := by
  induction regions generalizing rest with
  | nil => cases found
  | cons head tail induction =>
      simp only [findRegion] at found
      split at found
      · rename_i headStart accepted
        simp only [Option.some.injEq, Prod.mk.injEq] at found
        obtain ⟨⟨rfl, rfl⟩, rfl⟩ := found
        exact ⟨accepted, [], tail, rfl, fun _ member => (List.not_mem_nil _ member).elim, rfl⟩
      · rename_i rejected
        obtain ⟨⟨found', remaining⟩, tailFound, pairEq⟩ := Option.map_eq_some'.mp found
        simp only [Prod.mk.injEq] at pairEq
        obtain ⟨rfl, rfl⟩ := pairEq
        obtain ⟨accepted, front, back, rfl, skipped, rfl⟩ := induction tailFound
        refine ⟨accepted, head :: front, back, rfl, ?_, rfl⟩
        rintro node (_ | ⟨_, later⟩)
        · exact rejected
        · exact skipped node later

/-- The free list after a block `[start, allocEnd)` is carved out of `region`:
the excess behind the block, if any, in front of the remaining regions. -/
def carve (region : ListNode) (allocEnd : Nat) (rest : List ListNode) : List ListNode :=
  (if region.endAddr - allocEnd > 0 then [⟨allocEnd, region.endAddr - allocEnd⟩] else []) ++ rest

theorem alloc_of_findRegion_none {allocator : LinkedListAllocator} {layout : Layout}
    {size align : Nat} (adjusted : sizeAlign layout = .ok (size, align))
    (missing : findRegion size align allocator.regions = none) :
    allocator.alloc layout = .ok (allocator, 0) := by
  simp [alloc, adjusted, missing, pure, Except.pure]

theorem alloc_of_findRegion {allocator : LinkedListAllocator} {layout : Layout}
    {size align : Nat} {region : ListNode} {start : Nat} {rest : List ListNode}
    (adjusted : sizeAlign layout = .ok (size, align))
    (found : findRegion size align allocator.regions = some ((region, start), rest)) :
    allocator.alloc layout = .ok (⟨carve region (start + size) rest⟩, start) := by
  obtain ⟨accepted, -⟩ := findRegion_spec found
  obtain ⟨startEq, fits, bounded, excess⟩ := allocFromRegion_spec accepted
  obtain ⟨-, nodeDvd, sizeDvd, -⟩ := sizeAlign_dvd adjusted
  have endAligned : alignOfListNode ∣ start + size :=
    Nat.dvd_add (startEq ▸ Nat.dvd_trans nodeDvd (dvd_roundUp _ _)) sizeDvd
  simp only [alloc, adjusted, found, checkedAdd, if_pos bounded]
  split
  · rename_i positive
    rw [addFreeRegion_of_valid _ endAligned (by omega)]
    simp [carve, positive, Except.map]
  · rename_i empty
    simp [carve, empty, pure, Except.pure]

theorem alloc_error {allocator : LinkedListAllocator} {layout : Layout} {panic : Panic}
    (failed : allocator.alloc layout = .error panic) :
    panic = .expect "adjusting alignment failed" := by
  cases adjusted : sizeAlign layout with
  | error rejected =>
      simp only [alloc, adjusted, Except.error.injEq] at failed
      exact failed ▸ sizeAlign_error adjusted
  | ok pair =>
      obtain ⟨size, align⟩ := pair
      cases found : findRegion size align allocator.regions with
      | none => simp [alloc_of_findRegion_none adjusted found] at failed
      | some result =>
          obtain ⟨⟨region, start⟩, rest⟩ := result
          simp [alloc_of_findRegion adjusted found] at failed

/-- A successful `alloc` either found no region and returned null, or carved
its block out of the region `find_region` unlinked. -/
theorem alloc_ok {allocator next : LinkedListAllocator} {layout : Layout} {ptr : Nat}
    (allocated : allocator.alloc layout = .ok (next, ptr)) :
    (next = allocator ∧ ptr = 0) ∨
      ∃ size align region rest, sizeAlign layout = .ok (size, align) ∧
        findRegion size align allocator.regions = some ((region, ptr), rest) ∧
        next = ⟨carve region (ptr + size) rest⟩ := by
  cases adjusted : sizeAlign layout with
  | error panic => simp [alloc, adjusted] at allocated
  | ok pair =>
      obtain ⟨size, align⟩ := pair
      cases found : findRegion size align allocator.regions with
      | none =>
          rw [alloc_of_findRegion_none adjusted found, Except.ok.injEq, Prod.mk.injEq]
            at allocated
          exact Or.inl ⟨allocated.1.symm, allocated.2.symm⟩
      | some result =>
          obtain ⟨⟨region, start⟩, rest⟩ := result
          rw [alloc_of_findRegion adjusted found, Except.ok.injEq, Prod.mk.injEq] at allocated
          obtain ⟨rfl, rfl⟩ := allocated
          exact Or.inr ⟨size, align, region, rest, rfl, found, rfl⟩

theorem mem_carve {region node : ListNode} {allocEnd : Nat} {rest : List ListNode} :
    node ∈ carve region allocEnd rest ↔
      (0 < region.endAddr - allocEnd ∧ node = ⟨allocEnd, region.endAddr - allocEnd⟩) ∨
        node ∈ rest := by
  unfold carve
  split <;> simp_all

/-! ## Byte ranges -/

/-- The bytes `[start, stop)` of a free region. -/
def ListNode.range (node : ListNode) : Nat × Nat := (node.startAddr, node.endAddr)

/-- Two byte ranges without a common byte. -/
def Apart (first second : Nat × Nat) : Prop := first.2 ≤ second.1 ∨ second.2 ≤ first.1

theorem Apart.symm {first second : Nat × Nat} (apart : Apart first second) :
    Apart second first :=
  Or.symm apart

theorem pairwise_apart_split {outer first second : Nat × Nat} {rest : List (Nat × Nat)}
    (pairwise : (outer :: rest).Pairwise Apart) (firstLower : outer.1 ≤ first.1)
    (firstUpper : first.2 ≤ outer.2) (secondLower : outer.1 ≤ second.1)
    (secondUpper : second.2 ≤ outer.2) (apart : Apart first second) :
    (first :: second :: rest).Pairwise Apart := by
  obtain ⟨outerApart, restPairwise⟩ := List.pairwise_cons.mp pairwise
  have within : ∀ inner : Nat × Nat, outer.1 ≤ inner.1 → inner.2 ≤ outer.2 →
      ∀ other ∈ rest, Apart inner other := by
    intro inner lower upper other member
    have := outerApart other member
    unfold Apart at this ⊢
    omega
  refine List.pairwise_cons.mpr ⟨?_, List.pairwise_cons.mpr
    ⟨within second secondLower secondUpper, restPairwise⟩⟩
  intro other member
  rcases List.mem_cons.mp member with rfl | member
  · exact apart
  · exact within first firstLower firstUpper other member

/-! ## Runs and their invariant -/

/-- A block that `alloc` returned and the caller has not freed yet. -/
structure Allocation where
  ptr : Nat
  layout : Layout

/-- The bytes a block occupies, `size_align(layout).0`. -/
def Allocation.size (allocation : Allocation) : Nat :=
  match sizeAlign allocation.layout with
  | .ok (size, _) => size
  | .error _ => 0

/-- The bytes `[ptr, ptr + size)` of a block. -/
def Allocation.range (allocation : Allocation) : Nat × Nat :=
  (allocation.ptr, allocation.ptr + allocation.size)

theorem Allocation.size_of_sizeAlign {ptr : Nat} {layout : Layout} {size align : Nat}
    (adjusted : sizeAlign layout = .ok (size, align)) : (Allocation.mk ptr layout).size = size := by
  simp [Allocation.size, adjusted]

theorem Allocation.sizeAlign_of_large {allocation : Allocation}
    (large : sizeOfListNode ≤ allocation.size) :
    ∃ align, sizeAlign allocation.layout = .ok (allocation.size, align) := by
  unfold Allocation.size at large ⊢
  split
  · rename_i size align adjusted
    exact ⟨align, adjusted⟩
  · rename_i panic adjusted
    rw [adjusted] at large
    cases large

/-- The runs of the allocator: `init` once, then `alloc` of layouts `allowed`
admits and `dealloc` of a live block with its own layout.  A null result is
no allocation. -/
inductive AllocatorRun (heapStart heapSize : Nat) (allowed : Layout → Prop) :
    LinkedListAllocator → List Allocation → Prop where
  | init {allocator : LinkedListAllocator} :
      LinkedListAllocator.new.init heapStart heapSize = .ok allocator →
      AllocatorRun heapStart heapSize allowed allocator []
  | alloc {allocator next : LinkedListAllocator} {live : List Allocation} {layout : Layout}
      {ptr : Nat} :
      AllocatorRun heapStart heapSize allowed allocator live → allowed layout →
      allocator.alloc layout = .ok (next, ptr) →
      AllocatorRun heapStart heapSize allowed next
        (if ptr = 0 then live else ⟨ptr, layout⟩ :: live)
  | dealloc {allocator next : LinkedListAllocator} {front back : List Allocation}
      {allocation : Allocation} :
      AllocatorRun heapStart heapSize allowed allocator (front ++ allocation :: back) →
      allocator.dealloc allocation.ptr allocation.layout = .ok next →
      AllocatorRun heapStart heapSize allowed next (front ++ back)

/-- The invariant of every run: regions and blocks are aligned, large enough
and inside the heap, and no two of them share a byte. -/
structure HeapInvariant (heapStart heapSize : Nat) (allocator : LinkedListAllocator)
    (live : List Allocation) : Prop where
  region_aligned : ∀ region ∈ allocator.regions, alignOfListNode ∣ region.startAddr
  region_large : ∀ region ∈ allocator.regions, sizeOfListNode ≤ region.size
  region_inside : ∀ region ∈ allocator.regions,
    heapStart ≤ region.startAddr ∧ region.endAddr ≤ heapStart + heapSize
  block_aligned : ∀ allocation ∈ live,
    allocation.layout.align ∣ allocation.ptr ∧ alignOfListNode ∣ allocation.ptr
  block_large : ∀ allocation ∈ live, sizeOfListNode ≤ allocation.size
  block_inside : ∀ allocation ∈ live,
    heapStart ≤ allocation.ptr ∧ allocation.ptr + allocation.size ≤ heapStart + heapSize
  apart : (allocator.regions.map ListNode.range ++ live.map Allocation.range).Pairwise Apart

namespace HeapInvariant

variable {heapStart heapSize : Nat} {allocator : LinkedListAllocator} {live : List Allocation}

theorem init (aligned : alignOfListNode ∣ heapStart) (large : sizeOfListNode ≤ heapSize)
    (initialised : LinkedListAllocator.new.init heapStart heapSize = .ok allocator) :
    HeapInvariant heapStart heapSize allocator [] := by
  rw [LinkedListAllocator.init, addFreeRegion_of_valid _ aligned large, Except.ok.injEq]
    at initialised
  subst initialised
  refine ⟨?_, ?_, ?_, by simp, by simp, by simp, by simp [LinkedListAllocator.new]⟩ <;>
    simp [LinkedListAllocator.new, ListNode.endAddr, aligned, large]

theorem apart_carve {region : ListNode} {front back : List ListNode} {start size : Nat}
    {blocks : List Allocation} {block : Allocation}
    (pairwise : ((front ++ region :: back).map ListNode.range ++
      live.map Allocation.range).Pairwise Apart)
    (lower : region.startAddr ≤ start) (upper : start + size ≤ region.endAddr)
    (blockRange : block.range = (start, start + size)) (blocksSub : blocks.Sublist [block]) :
    ((carve region (start + size) (front ++ back)).map ListNode.range ++
      (blocks ++ live).map Allocation.range).Pairwise Apart := by
  let excess : ListNode := ⟨start + size, region.endAddr - (start + size)⟩
  let others := (front ++ back).map ListNode.range
  have middle : (front.map ListNode.range ++ region.range ::
      (back.map ListNode.range ++ live.map Allocation.range)).Pairwise Apart := by
    simpa only [List.map_append, List.map_cons, List.append_assoc, List.cons_append]
      using pairwise
  have outer : (region.range :: (others ++ live.map Allocation.range)).Pairwise Apart := by
    have moved := (List.pairwise_middle Apart.symm).mp middle
    rwa [← List.append_assoc, ← List.map_append] at moved
  have split : (excess.range :: block.range :: (others ++ live.map Allocation.range)).Pairwise
      Apart := by
    rw [blockRange]
    exact pairwise_apart_split outer (Nat.le_trans lower (Nat.le_add_right _ _))
      (Nat.add_sub_of_le upper).le lower upper (Or.inr (Nat.le_refl _))
  have excessSub : ((carve region (start + size) []).map ListNode.range).Sublist
      [excess.range] := by
    unfold carve
    split <;> simp [excess]
  have carveMap : (carve region (start + size) (front ++ back)).map ListNode.range =
      (carve region (start + size) []).map ListNode.range ++ others := by
    simp [carve, others]
  refine List.Pairwise.perm (List.Pairwise.sublist (excessSub.append
    ((blocksSub.map Allocation.range).append
      (List.Sublist.refl (others ++ live.map Allocation.range)))) split) ?_ Apart.symm
  rw [carveMap, List.map_append Allocation.range blocks live, List.append_assoc]
  exact (List.perm_append_comm_assoc _ _ _).append_left _

theorem carve_block {layout : Layout} {size align start : Nat} {region : ListNode}
    {rest : List ListNode} (invariant : HeapInvariant heapStart heapSize allocator live)
    (adjusted : sizeAlign layout = .ok (size, align))
    (found : findRegion size align allocator.regions = some ((region, start), rest)) :
    HeapInvariant heapStart heapSize ⟨carve region (start + size) rest⟩
      (if start = 0 then live else ⟨start, layout⟩ :: live) := by
  obtain ⟨accepted, front, back, regionsEq, -, rfl⟩ := findRegion_spec found
  obtain ⟨startEq, upper, -, excess⟩ := allocFromRegion_spec accepted
  obtain ⟨layoutDvd, nodeDvd, sizeDvd, sizeLarge⟩ := sizeAlign_dvd adjusted
  have lower : region.startAddr ≤ start := startEq ▸ le_roundUp _ (sizeAlign_pos adjusted)
  have startDvd : align ∣ start := startEq ▸ dvd_roundUp _ _
  have inside := invariant.region_inside region (by simp [regionsEq])
  have restMem : ∀ node ∈ front ++ back, node ∈ allocator.regions := fun _ member =>
    regionsEq ▸ ((List.sublist_cons_self region back).append_left front).subset member
  have blockSize : (Allocation.mk start layout).size = size := Allocation.size_of_sizeAlign adjusted
  let blocks : List Allocation := if start = 0 then [] else [⟨start, layout⟩]
  have liveEq : (if start = 0 then live else ⟨start, layout⟩ :: live) = blocks ++ live := by
    simp only [blocks]
    split <;> rfl
  have blocksMem : ∀ allocation ∈ blocks, allocation = ⟨start, layout⟩ := by
    simp only [blocks]
    split <;> simp
  rw [liveEq]
  refine ⟨?_, ?_, ?_, ?_, ?_, ?_, ?_⟩
  · intro node member
    rcases mem_carve.mp member with ⟨-, rfl⟩ | member
    · exact Nat.dvd_add (Nat.dvd_trans nodeDvd startDvd) sizeDvd
    · exact invariant.region_aligned node (restMem node member)
  · intro node member
    rcases mem_carve.mp member with ⟨positive, rfl⟩ | member
    · show sizeOfListNode ≤ region.endAddr - (start + size)
      omega
    · exact invariant.region_large node (restMem node member)
  · intro node member
    rcases mem_carve.mp member with ⟨-, rfl⟩ | member
    · simp only [ListNode.endAddr] at inside upper ⊢
      omega
    · exact invariant.region_inside node (restMem node member)
  · intro allocation member
    rcases List.mem_append.mp member with member | member
    · rw [blocksMem allocation member]
      exact ⟨Nat.dvd_trans layoutDvd startDvd, Nat.dvd_trans nodeDvd startDvd⟩
    · exact invariant.block_aligned allocation member
  · intro allocation member
    rcases List.mem_append.mp member with member | member
    · rw [blocksMem allocation member, blockSize]
      exact sizeLarge
    · exact invariant.block_large allocation member
  · intro allocation member
    rcases List.mem_append.mp member with member | member
    · rw [blocksMem allocation member, blockSize]
      show heapStart ≤ start ∧ start + size ≤ heapStart + heapSize
      omega
    · exact invariant.block_inside allocation member
  · refine apart_carve (regionsEq ▸ invariant.apart) lower upper
      (show (Allocation.mk start layout).range = (start, start + size) by
        simp only [Allocation.range, blockSize]) ?_
    simp only [blocks]
    split <;> simp

/-- `alloc` keeps the invariant; a null result leaves the state as it was. -/
theorem alloc {next : LinkedListAllocator} {layout : Layout} {ptr : Nat}
    (invariant : HeapInvariant heapStart heapSize allocator live)
    (allocated : allocator.alloc layout = .ok (next, ptr)) :
    HeapInvariant heapStart heapSize next (if ptr = 0 then live else ⟨ptr, layout⟩ :: live) := by
  rcases alloc_ok allocated with ⟨rfl, rfl⟩ | ⟨size, align, region, rest, adjusted, found, rfl⟩
  · simpa using invariant
  · exact invariant.carve_block adjusted found

theorem dealloc_of_live (invariant : HeapInvariant heapStart heapSize allocator live)
    {allocation : Allocation} (member : allocation ∈ live) :
    allocator.dealloc allocation.ptr allocation.layout =
      .ok ⟨⟨allocation.ptr, allocation.size⟩ :: allocator.regions⟩ := by
  have large := invariant.block_large allocation member
  obtain ⟨align, adjusted⟩ := Allocation.sizeAlign_of_large large
  simp only [LinkedListAllocator.dealloc, adjusted]
  exact addFreeRegion_of_valid _ (invariant.block_aligned allocation member).2 large

/-- `dealloc` keeps the invariant: the block's range moves from the live
blocks to the free regions. -/
theorem dealloc {next : LinkedListAllocator} {front back : List Allocation}
    {allocation : Allocation}
    (invariant : HeapInvariant heapStart heapSize allocator (front ++ allocation :: back))
    (freed : allocator.dealloc allocation.ptr allocation.layout = .ok next) :
    HeapInvariant heapStart heapSize next (front ++ back) := by
  have member : allocation ∈ front ++ allocation :: back := by simp
  rw [invariant.dealloc_of_live member, Except.ok.injEq] at freed
  subst freed
  have memLive : ∀ other ∈ front ++ back, other ∈ front ++ allocation :: back := fun _ member =>
    ((List.sublist_cons_self allocation back).append_left front).subset member
  refine ⟨?_, ?_, ?_, fun other found => invariant.block_aligned other (memLive other found),
    fun other found => invariant.block_large other (memLive other found),
    fun other found => invariant.block_inside other (memLive other found), ?_⟩
  · intro node found
    rcases List.mem_cons.mp found with rfl | found
    · exact (invariant.block_aligned allocation member).2
    · exact invariant.region_aligned node found
  · intro node found
    rcases List.mem_cons.mp found with rfl | found
    · exact invariant.block_large allocation member
    · exact invariant.region_large node found
  · intro node found
    rcases List.mem_cons.mp found with rfl | found
    · exact invariant.block_inside allocation member
    · exact invariant.region_inside node found
  · have moved : List.Perm ((allocator.regions.map ListNode.range ++
        front.map Allocation.range) ++ allocation.range :: back.map Allocation.range)
        (allocation.range :: (allocator.regions.map ListNode.range ++
          front.map Allocation.range ++ back.map Allocation.range)) := List.perm_middle
    refine invariant.apart.perm ?_ Apart.symm
    simpa only [List.map_append, List.map_cons, List.append_assoc] using moved

end HeapInvariant

/-- Every run from `init` of an aligned heap large enough for a node keeps the
invariant. -/
theorem AllocatorRun.heapInvariant {heapStart heapSize : Nat} {allowed : Layout → Prop}
    {allocator : LinkedListAllocator} {live : List Allocation}
    (aligned : alignOfListNode ∣ heapStart) (large : sizeOfListNode ≤ heapSize)
    (run : AllocatorRun heapStart heapSize allowed allocator live) :
    HeapInvariant heapStart heapSize allocator live := by
  induction run with
  | init initialised => exact HeapInvariant.init aligned large initialised
  | alloc _ _ allocated invariant => exact invariant.alloc allocated
  | dealloc _ freed invariant => exact invariant.dealloc freed

/-- The allocator's safety: `init` succeeds, and every run of `alloc` and
`dealloc` keeps blocks aligned, inside the heap and apart from each other and
from the free regions; no region ends past the address space, `alloc` fails
only in `size_align`, and `dealloc` of a live block always succeeds. -/
theorem allocator_safe {heapStart heapSize : Nat} (aligned : alignOfListNode ∣ heapStart)
    (large : sizeOfListNode ≤ heapSize) (bounded : heapStart + heapSize ≤ usizeMax) :
    (∃ allocator, LinkedListAllocator.new.init heapStart heapSize = .ok allocator) ∧
      ∀ (allowed : Layout → Prop) allocator live,
        AllocatorRun heapStart heapSize allowed allocator live →
        HeapInvariant heapStart heapSize allocator live ∧
          (∀ region ∈ allocator.regions, region.endAddr ≤ usizeMax) ∧
          (∀ layout panic, allocator.alloc layout = .error panic →
            panic = .expect "adjusting alignment failed") ∧
          ∀ allocation ∈ live, ∃ next, allocator.dealloc allocation.ptr allocation.layout =
            .ok next := by
  refine ⟨⟨_, addFreeRegion_of_valid _ aligned large⟩, fun allowed allocator live run => ?_⟩
  have invariant := run.heapInvariant aligned large
  refine ⟨invariant, fun region member => ?_, fun layout panic => alloc_error,
    fun allocation member => ⟨_, invariant.dealloc_of_live member⟩⟩
  exact Nat.le_trans (invariant.region_inside region member).2 bounded

theorem allocator_safe_init :
    ∃ allocator, LinkedListAllocator.new.init 8 64 = .ok allocator :=
  (allocator_safe (by decide) (by decide) (by decide)).1

end ErrorOS.Allocator
