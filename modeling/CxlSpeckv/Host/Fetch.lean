import CxlSpeckv.Host.PageTable

/-!
# Driver failures during a fetch

`sync_fetch_page` discards the result of `submit_dma_batch` and leaves its polling loop at the
first non-zero answer of `poll_complete`, a negative error code as much as a completion count;
it then sets the L2 bit of the page. So whatever the driver answers, once the wait ends
`access` returns what it returns after a successful fetch: the page's address, never
`nullptr`, with the page marked as in L2.
-/

namespace CxlSpeckv.Host

open SpeckvAllocator

variable {a : SpeckvAllocator}

/-- A fetch reads nothing of the driver's answers but whether one of the polls is non-zero. -/
theorem syncFetchPage_congr {k : BitVec 64} {d d' : DriverAnswers}
    (hd : d.pollComplete.any (· != 0) = d'.pollComplete.any (· != 0)) :
    syncFetchPage a k d = syncFetchPage a k d' := by
  unfold syncFetchPage
  rw [hd]

theorem access_congr {handle offset bytes : BitVec 64} {d d' : DriverAnswers}
    (hd : d.pollComplete.any (· != 0) = d'.pollComplete.any (· != 0)) :
    a.access handle offset bytes d = a.access handle offset bytes d' := by
  unfold access
  simp only [syncFetchPage_congr hd]

/-- Whatever `submit_dma_batch` returns and `poll_complete` answers, once the wait ends `access`
returns the pointer and page flags of an accepted batch with one completion. -/
theorem access_ignores_driver_failures (a : SpeckvAllocator) (handle offset bytes : BitVec 64)
    (submitDmaBatch : Int) (pollComplete : List Int) (hp : pollComplete.any (· != 0) = true) :
    a.access handle offset bytes ⟨submitDmaBatch, pollComplete⟩ =
      a.access handle offset bytes ⟨0, [1]⟩ :=
  access_congr (hp.trans rfl)

/-- After `alloc(4096)`, an `access` whose `submit_dma_batch` fails with `-1` and whose
`poll_complete` fails with `-5` returns the page's address and marks the page as in L2. -/
theorem access_after_failed_fetch_marks_page :
    ∃ a, run [.alloc 4096] init = some a ∧ ([-5] : List Int).any (· != 0) = true ∧
      a.access 1 0 4096 ⟨-1, [-5]⟩ = a.access 1 0 4096 ⟨0, [1]⟩ ∧
      ∃ a', a.access 1 0 4096 ⟨-1, [-5]⟩ = some (0x4000100000, a') ∧
        (a'.pageTable.lookup 0x100000000).map KvPageHandle.flags = some 2 :=
  ⟨_, rfl, rfl, access_ignores_driver_failures _ 1 0 4096 (-1) [-5] rfl, _, rfl, by decide⟩

end CxlSpeckv.Host
