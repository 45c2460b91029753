import ErrorOS.Allocator.Safety
import Mathlib.Algebra.Order.Ring.Nat
import Mathlib.Order.Interval.Finset.Nat

/-!
# Conservation of heap bytes

The free regions and the live blocks never hold more than the heap: by
`HeapInvariant` they are disjoint ranges inside it.  They hold all of it only
while `alloc` drops no byte.  It drops two kinds: an over-aligned layout
carves its block out of the middle of a region, and the excess behind the
block goes back to the free list but the padding in front of it does not; and
a block carved at address zero is returned as null, so the caller can never
free it.  With alignments of at most a `ListNode`'s and a heap away from
address zero, every byte stays accounted for.
-/

namespace ErrorOS.Allocator

open LinkedListAllocator

/-- The bytes in the free list. -/
def freeBytes (allocator : LinkedListAllocator) : Nat :=
  (allocator.regions.map ListNode.size).sum

/-- The bytes of the live blocks, `size_align(layout).0` each. -/
def liveBytes (live : List Allocation) : Nat :=
  (live.map Allocation.size).sum

/-! ## Disjoint ranges inside an interval -/

/-- The addresses a list of byte ranges covers. -/
def coveredBytes : List (Nat × Nat) → Finset Nat
  | [] => ∅
  | range :: rest => Finset.Ico range.1 range.2 ∪ coveredBytes rest

theorem mem_coveredBytes {byte : Nat} {ranges : List (Nat × Nat)} :
    byte ∈ coveredBytes ranges ↔ ∃ range ∈ ranges, range.1 ≤ byte ∧ byte < range.2 := by
  induction ranges with
  | nil => simp [coveredBytes]
  | cons range rest induction => simp [coveredBytes, induction]

theorem card_coveredBytes {ranges : List (Nat × Nat)} (pairwise : ranges.Pairwise Apart) :
    (coveredBytes ranges).card = (ranges.map fun range => range.2 - range.1).sum := by
  induction ranges with
  | nil => rfl
  | cons range rest induction =>
      obtain ⟨apart, restPairwise⟩ := List.pairwise_cons.mp pairwise
      have disjoint : Disjoint (Finset.Ico range.1 range.2) (coveredBytes rest) := by
        refine Finset.disjoint_left.mpr fun byte inRange inRest => ?_
        obtain ⟨other, member, lower, upper⟩ := mem_coveredBytes.mp inRest
        have separated := apart other member
        rw [Finset.mem_Ico] at inRange
        unfold Apart at separated
        omega
      rw [coveredBytes, Finset.card_union_of_disjoint disjoint, Nat.card_Ico,
        induction restPairwise, List.map_cons, List.sum_cons]

theorem sum_length_le {ranges : List (Nat × Nat)} {low high : Nat}
    (pairwise : ranges.Pairwise Apart)
    (inside : ∀ range ∈ ranges, low ≤ range.1 ∧ range.2 ≤ high) :
    (ranges.map fun range => range.2 - range.1).sum ≤ high - low := by
  rw [← card_coveredBytes pairwise, ← Nat.card_Ico low high]
  refine Finset.card_le_card fun byte member => ?_
  obtain ⟨range, found, lower, upper⟩ := mem_coveredBytes.mp member
  have bounds := inside range found
  rw [Finset.mem_Ico]
  omega

/-! ## The two directions -/

theorem freeBytes_carve {region : ListNode} {allocEnd : Nat} {rest : List ListNode} :
    freeBytes ⟨carve region allocEnd rest⟩ =
      region.endAddr - allocEnd + freeBytes ⟨rest⟩ := by
  unfold carve freeBytes
  split <;> simp only [List.singleton_append, List.nil_append, List.map_cons, List.sum_cons]
  omega

namespace HeapInvariant

variable {heapStart heapSize : Nat} {allocator : LinkedListAllocator} {live : List Allocation}

/-- The free list and the live blocks never hold more bytes than the heap. -/
theorem bytes_le (invariant : HeapInvariant heapStart heapSize allocator live) :
    freeBytes allocator + liveBytes live ≤ heapSize := by
  have bound : ((allocator.regions.map ListNode.range ++ live.map Allocation.range).map
      fun range => range.2 - range.1).sum ≤ heapStart + heapSize - heapStart := by
    refine sum_length_le invariant.apart fun range member => ?_
    simp only [List.mem_append, List.mem_map] at member
    rcases member with ⟨region, found, rfl⟩ | ⟨allocation, found, rfl⟩
    · exact invariant.region_inside region found
    · exact invariant.block_inside allocation found
  simpa [freeBytes, liveBytes, Function.comp_def, ListNode.range, ListNode.endAddr,
    Allocation.range] using bound

/-- With alignments of at most a `ListNode`'s and a heap away from zero,
`alloc` carves its block at the region's start and returns it. -/
theorem alloc_bytes {next : LinkedListAllocator} {layout : Layout} {ptr : Nat}
    (invariant : HeapInvariant heapStart heapSize allocator live) (nonNull : heapStart ≠ 0)
    (small : layout.align ≤ alignOfListNode)
    (allocated : allocator.alloc layout = .ok (next, ptr)) :
    freeBytes next + liveBytes (if ptr = 0 then live else ⟨ptr, layout⟩ :: live) =
      freeBytes allocator + liveBytes live := by
  rcases alloc_ok allocated with ⟨rfl, rfl⟩ | ⟨size, align, region, rest, adjusted, found, rfl⟩
  · rfl
  obtain ⟨accepted, front, back, regionsEq, -, rfl⟩ := findRegion_spec found
  obtain ⟨startEq, upper, -, -⟩ := allocFromRegion_spec accepted
  have member : region ∈ allocator.regions := by simp [regionsEq]
  have alignEq : align = alignOfListNode := by
    rw [(sizeAlign_spec adjusted).1, Nat.max_eq_right small]
  have atStart : ptr = region.startAddr := by
    rw [startEq, alignEq]
    exact roundUp_of_dvd (by decide) (invariant.region_aligned region member)
  have positive : ptr ≠ 0 := by
    have := (invariant.region_inside region member).1
    omega
  rw [if_neg positive, freeBytes_carve]
  simp only [freeBytes, liveBytes, regionsEq, List.map_cons, List.map_append, List.sum_cons,
    List.sum_append, Allocation.size_of_sizeAlign adjusted]
  unfold ListNode.endAddr at upper ⊢
  omega

/-- `dealloc` moves a live block's bytes back to the free list. -/
theorem dealloc_bytes {next : LinkedListAllocator} {front back : List Allocation}
    {allocation : Allocation}
    (invariant : HeapInvariant heapStart heapSize allocator (front ++ allocation :: back))
    (freed : allocator.dealloc allocation.ptr allocation.layout = .ok next) :
    freeBytes next + liveBytes (front ++ back) =
      freeBytes allocator + liveBytes (front ++ allocation :: back) := by
  rw [invariant.dealloc_of_live (by simp), Except.ok.injEq] at freed
  subst freed
  simp only [freeBytes, liveBytes, List.map_cons, List.map_append, List.sum_cons,
    List.sum_append]
  omega

end HeapInvariant

/-- Runs whose layouts are at most `ListNode`-aligned, on a heap away from
address zero, keep every heap byte free or live. -/
theorem AllocatorRun.bytes_eq {heapStart heapSize : Nat} {allocator : LinkedListAllocator}
    {live : List Allocation} (aligned : alignOfListNode ∣ heapStart)
    (large : sizeOfListNode ≤ heapSize) (nonNull : heapStart ≠ 0)
    (run : AllocatorRun heapStart heapSize (fun layout => layout.align ≤ alignOfListNode)
      allocator live) :
    freeBytes allocator + liveBytes live = heapSize := by
  induction run with
  | init initialised =>
      rw [LinkedListAllocator.init, addFreeRegion_of_valid _ aligned large,
        Except.ok.injEq] at initialised
      subst initialised
      simp [freeBytes, liveBytes, LinkedListAllocator.new]
  | alloc before small allocated conserved =>
      rw [(before.heapInvariant aligned large).alloc_bytes nonNull small allocated, conserved]
  | dealloc before freed conserved =>
      rw [(before.heapInvariant aligned large).dealloc_bytes freed, conserved]

/-- A 16-aligned block carved out of a heap at address 8 leaves the 8 bytes in
front of it neither free nor live. -/
theorem alignment_padding_lost :
    ¬ ∀ heapStart heapSize allocator live, alignOfListNode ∣ heapStart →
      sizeOfListNode ≤ heapSize → heapStart + heapSize ≤ usizeMax →
      AllocatorRun heapStart heapSize (fun layout => layout.size ≠ 0) allocator live →
      freeBytes allocator + liveBytes live = heapSize := by
  intro conserved
  have initialised : AllocatorRun 8 64 (fun layout => layout.size ≠ 0) ⟨[⟨8, 64⟩]⟩ [] :=
    .init rfl
  have allocated : LinkedListAllocator.alloc ⟨[⟨8, 64⟩]⟩
      ⟨16, 16, ⟨4, rfl⟩, Nat.le_of_ble_eq_true rfl⟩ = .ok (⟨[⟨32, 40⟩]⟩, 16) := rfl
  have run := initialised.alloc (by decide) allocated
  exact absurd (conserved _ _ _ _ (by decide) (by decide) (by decide) run) (by decide)

/-- The heap never holds more than it was given; it holds exactly that for
layouts at most `ListNode`-aligned on a heap away from address zero. -/
theorem heap_bytes_conserved {heapStart heapSize : Nat} (aligned : alignOfListNode ∣ heapStart)
    (large : sizeOfListNode ≤ heapSize) :
    (∀ (allowed : Layout → Prop) allocator live,
        AllocatorRun heapStart heapSize allowed allocator live →
        freeBytes allocator + liveBytes live ≤ heapSize) ∧
      (heapStart ≠ 0 → ∀ allocator live,
        AllocatorRun heapStart heapSize (fun layout => layout.align ≤ alignOfListNode)
          allocator live →
        freeBytes allocator + liveBytes live = heapSize) :=
  ⟨fun _ _ _ run => (run.heapInvariant aligned large).bytes_le,
    fun nonNull _ _ run => run.bytes_eq aligned large nonNull⟩

theorem heap_bytes_conserved_after_init :
    freeBytes ⟨[⟨8, 64⟩]⟩ + liveBytes [] = 64 :=
  (@heap_bytes_conserved 8 64 (by decide) (by decide)).2 (by decide) _ _ (.init rfl)

end ErrorOS.Allocator
