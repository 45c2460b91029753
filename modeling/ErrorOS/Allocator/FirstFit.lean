import ErrorOS.Allocator.Safety

/-!
# First fit

`find_region` walks the free list from `head` and unlinks the first node
that `alloc_from_region` accepts, linking the node before it to the node
after it, so the other nodes stay linked in their order.  When no node is
accepted it only moves its cursor, and `alloc` returns null with the list as
it was.  A node reachable from `head` is a `&'static mut ListNode`, never at
address 0, and a block carved from it starts at or after the node: `alloc`
returns null exactly when no free region can host the adjusted layout.
-/

namespace ErrorOS.Allocator

namespace LinkedListAllocator

variable {size align : Nat}

theorem findRegion_of_first {front back : List ListNode} {region : ListNode} {start : Nat}
    (skipped : ∀ node ∈ front, allocFromRegion node size align = none)
    (accepted : allocFromRegion region size align = some start) :
    findRegion size align (front ++ region :: back) = some ((region, start), front ++ back) := by
  induction front with
  | nil => simp [findRegion, accepted]
  | cons head front induction =>
      have rejected := skipped head (List.mem_cons_self _ _)
      simp [findRegion, rejected, induction fun node member => skipped node (.tail _ member)]

theorem findRegion_eq_none_iff {regions : List ListNode} :
    findRegion size align regions = none ↔
      ∀ node ∈ regions, allocFromRegion node size align = none := by
  induction regions with
  | nil => simp [findRegion]
  | cons head tail induction =>
      cases accepted : allocFromRegion head size align with
      | none => simp [findRegion, accepted, induction]
      | some start => simp [findRegion, accepted]

/-- `find_region` unlinks exactly the first node that fits, and the other
nodes stay linked in order. -/
theorem findRegion_eq_some_iff {regions rest : List ListNode} {region : ListNode} {start : Nat} :
    findRegion size align regions = some ((region, start), rest) ↔
      ∃ front back, regions = front ++ region :: back ∧
        (∀ node ∈ front, allocFromRegion node size align = none) ∧
        allocFromRegion region size align = some start ∧ rest = front ++ back := by
  refine ⟨fun found => ?_, ?_⟩
  · obtain ⟨accepted, front, back, regionsEq, skipped, rfl⟩ := findRegion_spec found
    exact ⟨front, back, regionsEq, skipped, accepted, rfl⟩
  · rintro ⟨front, back, rfl, skipped, accepted, rfl⟩
    exact findRegion_of_first skipped accepted

/-- With every node away from address 0, `alloc` returns null exactly when no
node can host the adjusted layout, and it then leaves the free list as it
was. -/
theorem alloc_eq_null_iff {allocator next : LinkedListAllocator} {layout : Layout}
    (adjusted : sizeAlign layout = .ok (size, align))
    (nonNull : ∀ node ∈ allocator.regions, node.startAddr ≠ 0) :
    allocator.alloc layout = .ok (next, 0) ↔
      next = allocator ∧ ∀ node ∈ allocator.regions, allocFromRegion node size align = none := by
  refine ⟨fun allocated => ?_, fun ⟨same, refused⟩ => by
    rw [same, alloc_of_findRegion_none adjusted (findRegion_eq_none_iff.mpr refused)]⟩
  cases found : findRegion size align allocator.regions with
  | none =>
      rw [alloc_of_findRegion_none adjusted found, Except.ok.injEq, Prod.mk.injEq] at allocated
      exact ⟨allocated.1.symm, findRegion_eq_none_iff.mp found⟩
  | some result =>
      -- A block carved from a node starts at or after the node, away from 0.
      obtain ⟨⟨region, start⟩, rest⟩ := result
      rw [alloc_of_findRegion adjusted found, Except.ok.injEq, Prod.mk.injEq] at allocated
      obtain ⟨accepted, front, back, regionsEq, -, -⟩ := findRegion_spec found
      have atOrAfter := le_roundUp region.startAddr (sizeAlign_pos adjusted)
      have away := nonNull region (by simp [regionsEq])
      rw [← alignUp, ← (allocFromRegion_spec accepted).1, allocated.2] at atOrAfter
      omega

/-- `find_region` unlinks exactly the first node that fits, leaving the others
linked in order, and finds nothing exactly when no node fits; `alloc` then
returns null with the free list as it was, and it returns null only then. -/
theorem findRegion_first_fit (allocator : LinkedListAllocator) (size align : Nat) :
    (∀ region start rest,
      findRegion size align allocator.regions = some ((region, start), rest) ↔
        ∃ front back, allocator.regions = front ++ region :: back ∧
          (∀ node ∈ front, allocFromRegion node size align = none) ∧
          allocFromRegion region size align = some start ∧ rest = front ++ back) ∧
    (findRegion size align allocator.regions = none ↔
      ∀ node ∈ allocator.regions, allocFromRegion node size align = none) ∧
    ∀ layout next, sizeAlign layout = .ok (size, align) →
      (∀ node ∈ allocator.regions, node.startAddr ≠ 0) →
      (allocator.alloc layout = .ok (next, 0) ↔
        next = allocator ∧ ∀ node ∈ allocator.regions, allocFromRegion node size align = none) :=
  ⟨fun _ _ _ => findRegion_eq_some_iff, findRegion_eq_none_iff,
    fun _ _ adjusted nonNull => alloc_eq_null_iff adjusted nonNull⟩

/-- A 16-byte region cannot host a 32-byte block: `alloc` returns null. -/
theorem findRegion_first_fit_null :
    LinkedListAllocator.alloc ⟨[⟨8, 16⟩]⟩ ⟨32, 8, ⟨3, rfl⟩, Nat.le_of_ble_eq_true rfl⟩ =
      .ok (⟨[⟨8, 16⟩]⟩, 0) :=
  ((findRegion_first_fit ⟨[⟨8, 16⟩]⟩ 32 8).2.2 ⟨32, 8, ⟨3, rfl⟩, Nat.le_of_ble_eq_true rfl⟩ _ rfl
    (by decide)).mpr ⟨rfl, by decide⟩

end LinkedListAllocator

end ErrorOS.Allocator
