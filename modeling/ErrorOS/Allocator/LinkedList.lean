import ErrorOS.Rust
import Mathlib.Data.Nat.Defs

/-!
# The linked-list heap allocator

`linked_list.rs` keeps the free regions in a list threaded through the free
memory itself: each region starts with a `ListNode` holding its size and the
next node.  The model keeps the nodes reachable from `head.next`, in list
order, as `(start address, size)` records; the dummy `head` node lives
outside the heap and carries no region.  Layouts keep Rust's invariant: a
power-of-two alignment and a size that rounds up to it within `isize::MAX`.
-/

namespace ErrorOS.Allocator

/-- `mem::size_of::<ListNode>()`: a `usize` and an `Option<&'static mut ListNode>`. -/
def sizeOfListNode : Nat := 16

/-- `mem::align_of::<ListNode>()`. -/
def alignOfListNode : Nat := 8

/-- `align_up`, which `linked_list.rs` imports from the allocator module; that
module is not in the repository, and the function rounds an address up to the
next multiple of a power-of-two alignment. -/
def alignUp (addr align : Nat) : Nat := roundUp addr align

/-- A `Layout`. -/
structure Layout where
  size : Nat
  align : Nat
  align_pow : align.isPowerOfTwo
  size_le : size ≤ isizeMax - (align - 1)

/-- A `ListNode` of the free list: the region it heads. -/
structure ListNode where
  startAddr : Nat
  size : Nat
deriving DecidableEq, Repr

/-- `ListNode::end_addr`. -/
def ListNode.endAddr (node : ListNode) : Nat := node.startAddr + node.size

/-- `LinkedListAllocator`: the nodes reachable from `head.next`, in order. -/
structure LinkedListAllocator where
  regions : List ListNode
deriving DecidableEq, Repr

namespace LinkedListAllocator

/-- `LinkedListAllocator::new`. -/
def new : LinkedListAllocator := ⟨[]⟩

/-- `add_free_region`: both assertions, then the region goes to the front. -/
def addFreeRegion (allocator : LinkedListAllocator) (addr size : Nat) :
    Except Panic LinkedListAllocator :=
  if alignUp addr alignOfListNode ≠ addr then
    throw (.assertion "align_up(addr, mem::align_of::<ListNode>()) == addr")
  else if size < sizeOfListNode then
    throw (.assertion "size >= mem::size_of::<ListNode>()")
  else pure ⟨⟨addr, size⟩ :: allocator.regions⟩

/-- `init`: the whole heap becomes one free region. -/
def init (allocator : LinkedListAllocator) (heapStart heapSize : Nat) :
    Except Panic LinkedListAllocator :=
  allocator.addFreeRegion heapStart heapSize

/-- `alloc_from_region`: the aligned start, if the block fits and leaves either
nothing or room for a `ListNode` behind it. -/
def allocFromRegion (region : ListNode) (size align : Nat) : Option Nat :=
  let allocStart := alignUp region.startAddr align
  match checkedAdd allocStart size with
  | none => none
  | some allocEnd =>
      if allocEnd > region.endAddr then none
      else
        let excessSize := region.endAddr - allocEnd
        if excessSize > 0 ∧ excessSize < sizeOfListNode then none
        else some allocStart

/-- `find_region`: the first region that `alloc_from_region` accepts, unlinked
from the list, with the start it gives. -/
def findRegion (size align : Nat) : List ListNode → Option ((ListNode × Nat) × List ListNode)
  | [] => none
  | region :: rest =>
      match allocFromRegion region size align with
      | some allocStart => some ((region, allocStart), rest)
      | none =>
          (findRegion size align rest).map fun (found, remaining) => (found, region :: remaining)

end LinkedListAllocator

/-- `size_align`: the layout aligned to `ListNode` (`align_to`, whose failure
is the `expect`), padded, and at least a `ListNode` large. -/
def sizeAlign (layout : Layout) : Except Panic (Nat × Nat) :=
  let align := max layout.align alignOfListNode
  if layout.size ≤ isizeMax - (align - 1) then
    pure (max (roundUp layout.size align) sizeOfListNode, align)
  else throw (.expect "adjusting alignment failed")

namespace LinkedListAllocator

/-- `GlobalAlloc::alloc`: null (`0`) when no region fits; otherwise the block
is carved out of the region found and the excess behind it goes back to the
front of the list.  The padding in front of an over-aligned block is not. -/
def alloc (allocator : LinkedListAllocator) (layout : Layout) :
    Except Panic (LinkedListAllocator × Nat) :=
  match sizeAlign layout with
  | .error panic => .error panic
  | .ok (size, align) =>
      match findRegion size align allocator.regions with
      | none => pure (allocator, 0)
      | some ((region, allocStart), regions) =>
          match checkedAdd allocStart size with
          | none => throw (.expect "overflow")
          | some allocEnd =>
              let excessSize := region.endAddr - allocEnd
              if excessSize > 0 then
                (addFreeRegion ⟨regions⟩ allocEnd excessSize).map fun allocator =>
                  (allocator, allocStart)
              else pure (⟨regions⟩, allocStart)

/-- `GlobalAlloc::dealloc`: the block goes back to the front of the list. -/
def dealloc (allocator : LinkedListAllocator) (ptr : Nat) (layout : Layout) :
    Except Panic LinkedListAllocator :=
  match sizeAlign layout with
  | .error panic => .error panic
  | .ok (size, _) => allocator.addFreeRegion ptr size

end LinkedListAllocator

end ErrorOS.Allocator
