import CxlSpeckv.Integration.Accounting
import CxlSpeckv.Memory.Residency

/-!
# Allocator runs are manager runs

Every call of the allocator changes its manager only through the manager's own public calls:
`cxl_malloc` through `allocate` in L3, `cxl_free` through `deallocate`, and `cxl_access`
through `update_access_tracking`, `is_hot_page` and `promote_to_l1`. So a run of the allocator
from `initialize` projects to a run of the manager from its constructor that reserves no more
virtual bytes, and the invariants of the manager's runs hold of the allocator's manager.
-/

namespace CxlSpeckv.Memory

/-- The manager calls the allocator makes. -/
def Request.madeByAllocator : Request → Bool
  | .allocate _ _ .l3CxlPool | .deallocate _ | .updateAccessTracking _ | .isHotPage _
  | .promoteToL1 _ => true
  | _ => false

theorem Request.madeByAllocator_of_madeByCxlAccess {q : Request}
    (h : q.madeByCxlAccess = true) : q.madeByAllocator = true := by
  cases q <;> first | rfl | cases h

theorem runVirtualBytes_append (c : Config) (rs rs' : List Request) :
    runVirtualBytes c (rs ++ rs') = runVirtualBytes c rs + runVirtualBytes c rs' := by
  induction rs with
  | nil => simp [runVirtualBytes]
  | cons r rs ih => rw [List.cons_append, runVirtualBytes, runVirtualBytes, ih, Nat.add_assoc]

end CxlSpeckv.Memory

namespace CxlSpeckv.Integration.CXLMemoryAllocator

open CxlSpeckv.Memory CXLMemoryManager

variable {s s' : CXLMemoryAllocator}

/-- One call that returns moves the manager by a run of the manager's calls that reserves no
more virtual bytes than the call. -/
theorem Call.exec_runs_manager {r : Call} (he : r.exec s = some s') :
    s'.config = s.config ∧ ∃ ms, Memory.run s.config ms s.memoryManager = some s'.memoryManager ∧
      runVirtualBytes s.config ms ≤ r.virtualBytes s.config ∧
      ∀ q ∈ ms, q.madeByAllocator = true := by
  cases r with
  | cxlMalloc n l =>
      cases he
      refine ⟨cxlMalloc_config, ?_⟩
      cases hi : s.initialized
      · exact ⟨[], by simp [CXLMemoryAllocator.cxlMalloc, hi, CxlSpeckv.Memory.run],
          Nat.zero_le _, by simp⟩
      · exact ⟨[.allocate n l .l3CxlPool], by rw [cxlMalloc_memoryManager hi]; rfl,
          by simp [runVirtualBytes, Request.virtualBytes, Call.virtualBytes],
          by simp [Request.madeByAllocator]⟩
  | cxlFree p =>
      cases he
      refine ⟨cxlFree_config p, ?_⟩
      unfold CXLMemoryAllocator.cxlFree
      split_ifs
      · exact ⟨[], rfl, Nat.zero_le _, by simp⟩
      split
      · exact ⟨[], rfl, Nat.zero_le _, by simp⟩
      next v _ =>
        exact ⟨[.deallocate v.virtualAddr], rfl, Nat.zero_le _, by simp [Request.madeByAllocator]⟩
  | cxlAccess handle o len =>
      obtain ⟨⟨x, s₁⟩, hq, rfl⟩ := Option.map_eq_some'.1 he
      obtain ⟨he', ms, hr, hm⟩ := cxlAccess_eq_some hq
      refine ⟨by rw [he'], ms, hr, ?_, fun q hq => Request.madeByAllocator_of_madeByCxlAccess (hm q hq)⟩
      rw [(run_madeByCxlAccess hm hr).2]
      exact Nat.zero_le _

theorem runCalls_runs_manager {rs : List Call} (hr : runCalls rs s = some s') :
    s'.config = s.config ∧ ∃ ms, Memory.run s.config ms s.memoryManager = some s'.memoryManager ∧
      runVirtualBytes s.config ms ≤ callBytes s.config rs ∧
      ∀ q ∈ ms, q.madeByAllocator = true := by
  induction rs generalizing s with
  | nil => cases hr; exact ⟨rfl, [], rfl, Nat.zero_le _, by simp⟩
  | cons r rs ih =>
      obtain ⟨s₁, h₁, hr⟩ := Option.bind_eq_some.1 hr
      obtain ⟨hc₁, ms₁, hr₁, hb₁, hm₁⟩ := Call.exec_runs_manager h₁
      obtain ⟨hc₂, ms₂, hr₂, hb₂, hm₂⟩ := ih hr
      rw [hc₁] at hr₂ hb₂
      refine ⟨hc₂.trans hc₁, ms₁ ++ ms₂, by rw [run_append, hr₁, Option.some_bind, hr₂], ?_,
        fun q hq => (List.mem_append.1 hq).elim (hm₁ q) (hm₂ q)⟩
      rw [runVirtualBytes_append, callBytes]
      omega

/-- Every run of the allocator from `initialize` moves its manager by a run of the manager's own
calls, so the manager's run invariants hold of the allocator's manager. -/
theorem allocator_runs_refine_manager (l1SizeGb l2SizeGb l3SizeGb : BitVec 64) (rs : List Call)
    {s : CXLMemoryAllocator}
    (h : runCalls rs (init.initializeTiers l1SizeGb l2SizeGb l3SizeGb).2 = some s) :
    (∃ ms, Memory.run { l1SizeGb, l2SizeGb, l3SizeGb } ms CXLMemoryManager.init =
        some s.memoryManager ∧
      runVirtualBytes { l1SizeGb, l2SizeGb, l3SizeGb } ms ≤
        callBytes { l1SizeGb, l2SizeGb, l3SizeGb } rs ∧ ∀ q ∈ ms, q.madeByAllocator = true) ∧
      s.memoryManager.l1LruList.Nodup ∧
      (0x100000000 + callBytes { l1SizeGb, l2SizeGb, l3SizeGb } rs < 2 ^ 64 →
        VirtLayout { l1SizeGb, l2SizeGb, l3SizeGb } s.memoryManager) := by
  obtain ⟨-, ms, hr, hb, hm⟩ := runCalls_runs_manager h
  refine ⟨⟨ms, hr, hb, hm⟩, run_l1LruList_nodup List.nodup_nil hr, fun hw => ?_⟩
  exact ((virtLayout_init _).run (lt_of_le_of_lt (Nat.add_le_add_left hb _) hw) hr).1

theorem allocator_runs_refine_manager_after_free :
    ∃ s, runCalls [.cxlMalloc 4096 0, .cxlMalloc 8192 1, .cxlFree 0x100000000,
        .cxlAccess 0x100001000 0 8] (init.initializeTiers 12 3 128).2 = some s ∧
      s.memoryManager.l1LruList.Nodup ∧
      VirtLayout { l1SizeGb := 12, l2SizeGb := 3, l3SizeGb := 128 } s.memoryManager := by
  obtain ⟨s, h⟩ : ∃ s, runCalls [.cxlMalloc 4096 0, .cxlMalloc 8192 1, .cxlFree 0x100000000,
      .cxlAccess 0x100001000 0 8] (init.initializeTiers 12 3 128).2 = some s := ⟨_, rfl⟩
  have hs := allocator_runs_refine_manager 12 3 128 _ h
  exact ⟨s, h, hs.2.1, hs.2.2 (by decide)⟩

end CxlSpeckv.Integration.CXLMemoryAllocator
