import CxlSpeckv.Host.DriverPath
import CxlSpeckv.Host.Frames

/-!
# The library over whole runs

A C API call reaches the allocator as at most one of its calls, `alloc`, `free` or `access`,
and the kernel module as a sequence of `ioctl`s. While the region is mapped the allocator's
`access` sees the completion counts as the driver's answers, so an open session's allocator
follows the allocator model of `Allocator` and the module follows `speckv_ioctl`: what is
proved of either holds of the library. From a fresh process, over every run, the module keeps
its ring from slot 0 with its log, and an open session's page table holds exactly its live
pages.

What the library reports is not always what reached the device: `speckv_access` reports
success and sets the page's L2 bit once a completion is read, also when the ring was full and
the module dropped the page's descriptor.
-/

namespace CxlSpeckv.Host

open CxlSpeckv.Driver SpeckvAllocator

/-- The allocator call a C API call makes, the completion counts standing for the driver's
answers to the polls of `access`. -/
def Call.toRequest : Call → Option Host.Request
  | .alloc bytes outHandle => if outHandle then some (.alloc bytes) else none
  | .free handle => some (.free handle)
  | .access handle offset length outPtr env =>
      if outPtr then some (.access handle offset length ⟨0, env.completions.map BitVec.toInt⟩)
      else none
  | .init _ | .finalize | .prefetch .. | .setPrefetchDepth _ | .setCompressionScheme _ => none

/-- Whether a `speckv_alloc` of the call asks for at most `maxPages` pages. -/
def Call.allocPagesAtMost (maxPages : Nat) : Call → Bool
  | .alloc bytes _ => decide ((numPages bytes).toNat ≤ maxPages)
  | _ => true

section Calls

theorem Call.pagesAtMost_toRequest {c : Call} {M : Nat} (hc : c.allocPagesAtMost M = true) :
    ∀ q ∈ c.toRequest.toList, q.pagesAtMost M = true := by
  intro q hq
  cases c with
  | alloc bytes outHandle =>
      cases outHandle
      · cases hq
      · rw [List.mem_singleton.1 hq]; exact hc
  | free handle => rw [List.mem_singleton.1 hq]; rfl
  | access handle offset length outPtr env =>
      cases outPtr
      · cases hq
      · rw [List.mem_singleton.1 hq]; rfl
  | init | finalize | prefetch | setPrefetchDepth | setCompressionScheme => cases hq

theorem Call.length_toRequest_le (c : Call) : c.toRequest.toList.length ≤ 1 := by
  cases c.toRequest <;> simp

theorem filterMap_toRequest_cons (c : Call) (cs : List Call) :
    (c :: cs).filterMap Call.toRequest = c.toRequest.toList ++ cs.filterMap Call.toRequest := by
  cases h : c.toRequest <;> simp [List.filterMap_cons, h]

theorem run_append (rs rs' : List Host.Request) (a : SpeckvAllocator) :
    Host.run (rs ++ rs') a = (Host.run rs a).bind (Host.run rs') := by
  induction rs generalizing a with
  | nil => rfl
  | cons r rs ih =>
      show (r.exec a).bind (fun a => Host.run (rs ++ rs') a) =
        ((r.exec a).bind (Host.run rs)).bind (Host.run rs')
      simp only [ih, Option.bind_assoc]

theorem SpeckvDriver.submitPrefetch_snd (d : SpeckvDriver) (m : SpeckvModule)
    (req : SpeckvPrefetchReq) (tokens : List (BitVec 32)) (kmallocOk : Bool)
    (fifoStatus : BitVec 32) :
    (d.submitPrefetch m req tokens kmallocOk fifoStatus).2 =
      (speckvIoctl m (.prefetch (some ⟨req.reqId, req.layer, req.curPos, req.depthK,
        req.historyLen⟩) kmallocOk tokens fifoStatus)).2 := by
  simp only [SpeckvDriver.submitPrefetch, SpeckvDriver.ok_eq_true, Bool.not_true,
    Bool.false_eq_true, ↓reduceIte]
  rfl

theorem SpeckvDriver.setParam_snd (d : SpeckvDriver) (m : SpeckvModule) (key value : BitVec 32) :
    (d.setParam m key value).2 = (speckvIoctl m (.setParam (some ⟨key, value⟩))).2 := by
  simp only [SpeckvDriver.setParam, SpeckvDriver.ok_eq_true, Bool.not_true, Bool.false_eq_true,
    ↓reduceIte]
  rfl

variable (a : SpeckvAllocator) (drv : SpeckvDriver) (m : SpeckvModule)

/-- `access` through the driver moves the module by `ioctl`s only. -/
theorem accessVia_snd (hm : m.device.mmioMapped = true) {handle offset bytes x : BitVec 64}
    {env : FetchAnswers} {a' : SpeckvAllocator} {m' : SpeckvModule}
    (h : a.accessVia drv m handle offset bytes env = some (x, a', m')) :
    ∃ is, m' = SpeckvModule.run is m := by
  unfold accessVia at h
  cases hl : a.allocs.lookup handle with
  | none => rw [hl] at h; cases h; exact ⟨[], rfl⟩
  | some al =>
      rw [hl] at h
      dsimp only at h
      split at h
      · obtain ⟨r, hr, he⟩ := Option.map_eq_some'.1 h
        cases he
        split at hr
        · cases hr; exact ⟨[], rfl⟩
        · rw [syncFetchPageVia_eq a drv m hm] at hr
          split at hr
          · cases hr; exact ⟨[], rfl⟩
          · obtain ⟨c, -, hc⟩ := Option.map_eq_some'.1 hr
            cases hc
            exact ⟨_, rfl⟩
      · cases h; exact ⟨[], rfl⟩

/-- What one call that returns does: it moves the module by `ioctl`s, and it closes the
session, opens a fresh one, or makes its allocator call in the open one. -/
theorem Call.exec_cases {c : Call} {st st' : Stack} {r : SpeckvStatus}
    (hm : st.kernel.device.mmioMapped = true) (he : c.exec st = some (r, st')) :
    (∃ is, st'.kernel = SpeckvModule.run is st.kernel) ∧
      ((c = .finalize ∧ st'.session = .closed) ∨
        (st.session = .closed ∧ (st'.session = .closed ∨ ∃ drv, st'.session = .opened drv .init)) ∨
        ∃ drv a a', st.session = .opened drv a ∧ st'.session = .opened drv a' ∧
          Host.run c.toRequest.toList a = some a') := by
  rcases st with ⟨_ | ⟨drv, a⟩, m⟩
  · cases c with
    | init fd =>
        simp only [Call.exec, Stack.speckvInit, Option.some.injEq] at he
        split_ifs at he with hfd hok
        · simp at hok
        · cases he; exact ⟨⟨[], rfl⟩, .inr (.inl ⟨rfl, .inr ⟨_, rfl⟩⟩)⟩
        · cases he; exact ⟨⟨[], rfl⟩, .inr (.inl ⟨rfl, .inl rfl⟩)⟩
    | finalize => cases he; exact ⟨⟨[], rfl⟩, .inl ⟨rfl, rfl⟩⟩
    | alloc | free | access | prefetch | setPrefetchDepth | setCompressionScheme =>
        cases he; exact ⟨⟨[], rfl⟩, .inr (.inl ⟨rfl, .inl rfl⟩)⟩
  · have hsame : ∀ {c : Call}, c.toRequest = none →
        ∃ drv' a₀ a', Session.opened drv a = .opened drv' a₀ ∧
          Session.opened drv a = .opened drv' a' ∧ Host.run c.toRequest.toList a₀ = some a' :=
      fun hq => ⟨drv, a, a, rfl, rfl, by rw [hq]; rfl⟩
    cases c with
    | init fd => cases he; exact ⟨⟨[], rfl⟩, .inr (.inr (hsame rfl))⟩
    | finalize => cases he; exact ⟨⟨[], rfl⟩, .inl ⟨rfl, rfl⟩⟩
    | alloc bytes outHandle =>
        cases outHandle <;> cases he
        · exact ⟨⟨[], rfl⟩, .inr (.inr (hsame rfl))⟩
        · exact ⟨⟨[], rfl⟩, .inr (.inr ⟨drv, a, _, rfl, rfl, rfl⟩)⟩
    | free handle => cases he; exact ⟨⟨[], rfl⟩, .inr (.inr ⟨drv, a, _, rfl, rfl, rfl⟩)⟩
    | access handle offset length outPtr env =>
        cases outPtr
        · cases he; exact ⟨⟨[], rfl⟩, .inr (.inr (hsame rfl))⟩
        · simp only [Call.exec, Stack.speckvAccess, Bool.not_true, Bool.false_eq_true, ↓reduceIte,
            Option.map_map] at he
          obtain ⟨⟨x, a', m'⟩, hv, he⟩ := Option.map_eq_some'.1 he
          cases he
          have hx := accessVia_map_fst a drv m hm handle offset length env
          rw [hv, Option.map_some'] at hx
          refine ⟨accessVia_snd a drv m hm hv, .inr (.inr ⟨drv, a, a', rfl, rfl, ?_⟩)⟩
          show (((a.access handle offset length _).map Prod.snd).bind (Host.run [])) = _
          rw [← hx]
          rfl
    | prefetch reqId layer curPos depthK recentTokens historyLen kmallocOk fifoStatus =>
        rcases recentTokens with _ | tokens
        · cases he; exact ⟨⟨[], rfl⟩, .inr (.inr (hsame rfl))⟩
        · simp only [Call.exec, Stack.speckvPrefetch, Option.some.injEq] at he
          split_ifs at he
          · cases he; exact ⟨⟨[], rfl⟩, .inr (.inr (hsame rfl))⟩
          · cases he
            exact ⟨⟨[.prefetch (some ⟨reqId, layer, curPos, depthK, historyLen⟩) kmallocOk tokens
              fifoStatus], drv.submitPrefetch_snd m ⟨reqId, layer, curPos, depthK, historyLen⟩
                tokens kmallocOk fifoStatus⟩, .inr (.inr (hsame rfl))⟩
    | setPrefetchDepth depthK =>
        cases he
        exact ⟨⟨[.setParam (some ⟨paramPrefetchDepth, depthK⟩)],
          drv.setParam_snd m paramPrefetchDepth depthK⟩, .inr (.inr (hsame rfl))⟩
    | setCompressionScheme scheme =>
        cases he
        exact ⟨⟨[.setParam (some ⟨paramCompScheme, scheme⟩)],
          drv.setParam_snd m paramCompScheme scheme⟩, .inr (.inr (hsame rfl))⟩

end Calls

section Refinement

/-- For an open session on a module run from load, every run of C API calls that returns keeps
the session, moves its allocator as the allocator model does, and keeps the module's log. -/
theorem session_refines_allocator_model (cs : List Call) (st : Stack) {st' : Stack}
    {drv : SpeckvDriver} {a : SpeckvAllocator} (hk : LogFromStart st.kernel) (hs : st.session = .opened drv a)
    (hf : ∀ c ∈ cs, c ≠ .finalize) (hr : Stack.run cs st = some st') :
    LogFromStart st'.kernel ∧
      ∃ a', st'.session = .opened drv a' ∧ Host.run (cs.filterMap Call.toRequest) a = some a' := by
  induction cs generalizing st a with
  | nil => cases hr; exact ⟨hk, a, hs, rfl⟩
  | cons c cs ih =>
      obtain ⟨⟨r, st₁⟩, h₁, hr⟩ := Option.bind_eq_some.1 hr
      obtain ⟨⟨is, hk₁⟩, hcase⟩ := Call.exec_cases hk.ring.mapped h₁
      have hk₁' : LogFromStart st₁.kernel := hk₁ ▸ hk.run is
      rcases hcase with ⟨hfin, -⟩ | ⟨hcl, -⟩ | ⟨drv₀, a₀, a₁, hs₀, hs₁, hrun⟩
      · exact absurd hfin (hf c (List.mem_cons_self _ _))
      · rw [hs] at hcl; cases hcl
      · rw [hs] at hs₀
        cases hs₀
        obtain ⟨hk', a', hs', hrun'⟩ :=
          ih st₁ hk₁' hs₁ (fun c' h' => hf c' (List.mem_cons_of_mem _ h')) hr
        refine ⟨hk', a', hs', ?_⟩
        rw [filterMap_toRequest_cons, run_append, hrun]
        exact hrun'

theorem session_refines_allocator_model_alloc_access_free :
    ∃ st', Stack.run [.alloc 8192 true, .access 1 4096 8 true ⟨true, [0, 5]⟩, .free 1]
        (Stack.init.speckvInit 3).2 = some st' ∧
      LogFromStart st'.kernel ∧ ∃ a', st'.session = .opened ⟨3, by decide⟩ a' ∧
        Host.run ([Call.alloc 8192 true, .access 1 4096 8 true ⟨true, [0, 5]⟩, .free 1].filterMap
          Call.toRequest) SpeckvAllocator.init = some a' :=
  ⟨_, rfl, session_refines_allocator_model _ (Stack.init.speckvInit 3).2 LogFromStart.init rfl
    (by simp) rfl⟩

end Refinement

section Invariant

/-- What holds of every stack reached from a fresh process: the module's log from load, and an
open session's allocator shaped, its page table exact, at most `n` handles given out. -/
structure StackInv (n : Nat) (st : Stack) : Prop where
  kernel : LogFromStart st.kernel
  alloc : ∀ drv a, st.session = .opened drv a →
    TableExact a ∧ Shaped (2 ^ 20) a ∧ a.nextHandle.toNat ≤ n + 1

namespace StackInv

variable {n : Nat} {st st' : Stack}

theorem init : StackInv 0 Stack.init := ⟨LogFromStart.init, fun _ _ h => by cases h⟩

theorem exec {c : Call} {r : SpeckvStatus} (h : StackInv n st) (hc : c.allocPagesAtMost (2 ^ 20) = true)
    (hn : n + 1 < 2 ^ 32) (he : c.exec st = some (r, st')) : StackInv (n + 1) st' := by
  obtain ⟨⟨is, hk⟩, hcase⟩ := Call.exec_cases h.kernel.ring.mapped he
  refine ⟨hk ▸ h.kernel.run is, fun drv' a' hs' => ?_⟩
  rcases hcase with ⟨-, hs⟩ | ⟨-, hs | ⟨drv, hs⟩⟩ | ⟨drv, a, a'', hs₀, hs₁, hr⟩
  · rw [hs] at hs'; cases hs'
  · rw [hs] at hs'; cases hs'
  · rw [hs] at hs'
    cases hs'
    exact ⟨tableExact_init, shaped_init _, by show 1 ≤ n + 1 + 1; omega⟩
  · rw [hs₁] at hs'
    obtain ⟨rfl, rfl⟩ := Session.opened.inj hs'
    obtain ⟨ht, hsh, hnh⟩ := h.alloc drv a hs₀
    have hlen := c.length_toRequest_le
    have hpg := Call.pagesAtMost_toRequest hc
    obtain ⟨hsh', hn'⟩ := hsh.run hpg (by omega) hr
    exact ⟨ht.run hsh hpg (by omega) hr, hsh', by omega⟩

theorem run {cs : List Call} (h : StackInv n st) (hc : ∀ c ∈ cs, c.allocPagesAtMost (2 ^ 20) = true)
    (hn : n + cs.length < 2 ^ 32) (hr : Stack.run cs st = some st') :
    StackInv (n + cs.length) st' := by
  induction cs generalizing n st with
  | nil => cases hr; exact h
  | cons c cs ih =>
      obtain ⟨⟨r, st₁⟩, h₁, hr⟩ := Option.bind_eq_some.1 hr
      rw [List.length_cons] at hn ⊢
      rw [← Nat.add_assoc, Nat.add_right_comm] at hn
      rw [← Nat.add_assoc, Nat.add_right_comm]
      exact ih (h.exec (hc c (List.mem_cons_self _ _)) (by omega) h₁)
        (fun c' h' => hc c' (List.mem_cons_of_mem _ h')) (by omega) hr

end StackInv

/-- From a fresh process, over runs with at most `2^20` pages per allocation and fewer than
`2^32` calls, the ring keeps its slots and log, and an open session's table is exact. -/
theorem stack_keeps_page_table_and_ring (cs : List Call) {st : Stack}
    (hb : ∀ c ∈ cs, c.allocPagesAtMost (2 ^ 20) = true) (hl : cs.length < 2 ^ 32)
    (hr : Stack.run cs .init = some st) :
    LogFromStart st.kernel ∧
      ∀ drv a, st.session = .opened drv a → TableExact a ∧ KeysDistinct a := by
  have h := StackInv.init.run hb (by omega) hr
  refine ⟨h.kernel, fun drv a hs => ?_⟩
  obtain ⟨ht, hsh, hn⟩ := h.alloc drv a hs
  exact ⟨ht, hsh.keysDistinct (by omega)⟩

theorem stack_keeps_page_table_and_ring_two_sessions :
    ∃ st, Stack.run [.init 3, .alloc 8192 true, .access 1 4096 8 true ⟨true, [0, 5]⟩, .free 1,
        .finalize, .init 4, .alloc 4096 true] .init = some st ∧
      LogFromStart st.kernel ∧ ∀ drv a, st.session = .opened drv a → TableExact a ∧ KeysDistinct a :=
  ⟨_, rfl, stack_keeps_page_table_and_ring [.init 3, .alloc 8192 true,
    .access 1 4096 8 true ⟨true, [0, 5]⟩, .free 1, .finalize, .init 4, .alloc 4096 true]
    (by decide) (by decide) rfl⟩

end Invariant

section Fetch

theorem fetchDesc_congr_frame {p q : KvPageHandle} (h : q.frame = p.frame) (k : BitVec 64) :
    fetchDesc q k = fetchDesc p k := by
  simp only [KvPageHandle.frame, Prod.mk.injEq] at h
  simp only [fetchDesc, h.2.1, h.2.2]

theorem or_two_and_three_ne_zero (x : BitVec 32) : ((x ||| 2) &&& 3 != 0) = true := by
  rw [bne_iff_ne]
  intro h
  have := congrArg (fun y => y.getLsbD 1) h
  simp at this

/-- The L2 bit set by a fetch makes the page count as in L1 or L2. -/
theorem isInL1OrL2_insert_l2 (a : SpeckvAllocator) (k : BitVec 64) (q : KvPageHandle) :
    isInL1OrL2 { a with pageTable := a.pageTable.insert k { q with flags := q.flags ||| 2 } } k =
      true := by
  unfold isInL1OrL2
  rw [AList.lookup_insert]
  exact or_two_and_three_ne_zero q.flags

/-- The address `access` returns for a page of a handle below `2^43` is never `nullptr`. -/
theorem kvPage_access_ne_zero {h : BitVec 64} {i : Nat} (hh : h.toNat < 2 ^ 43) (hi : i < 2 ^ 20)
    (offset : BitVec 64) : (kvPage h i).physPageId + offset % 4096 ≠ 0 := by
  have hp := toNat_physPageId hh hi
  have ho : (offset % 4096).toNat < 4096 := by
    rw [BitVec.toNat_umod]
    exact Nat.mod_lt _ (by decide)
  have h0 : (0 : BitVec 64).toNat = 0 := rfl
  intro he
  have h1 := congrArg BitVec.toNat he
  rw [BitVec.toNat_add, hp, Nat.mod_eq_of_lt (by omega)] at h1
  omega

variable (a : SpeckvAllocator) (drv : SpeckvDriver) (m : SpeckvModule)

/-- `access` to a page that is in neither L1 nor L2: one fetch through the driver. -/
theorem accessVia_of_fetch (hm : m.device.mmioMapped = true) {handle offset : BitVec 64}
    (bytes : BitVec 64) {env : FetchAnswers} {al : Allocation} {p q : KvPageHandle} {c : BitVec 32}
    (hal : a.allocs.lookup handle = some al) (hp : al.pages[(offset / 4096).toNat]? = some p)
    (hf : isInL1OrL2 a p.virtPageId = false) (hq : a.pageTable.lookup p.virtPageId = some q)
    (hc : env.completions.find? (· != 0) = some c) :
    a.accessVia drv m handle offset bytes env = some (p.physPageId + offset % 4096,
      { a with pageTable := a.pageTable.insert p.virtPageId { q with flags := q.flags ||| 2 } },
      SpeckvModule.run [.dmaBatch ⟨some 1, [(fetchDesc q p.virtPageId).toIoctl]⟩ env.kmallocOk,
        .pollDone c true] m) := by
  obtain ⟨hidx, hget⟩ := List.getElem?_eq_some_iff.1 hp
  unfold accessVia
  rw [hal]
  dsimp only
  rw [dif_pos hidx, List.get_eq_getElem, hget, if_neg (by simp [hf]),
    syncFetchPageVia_eq a drv m hm, hq]
  simp only [hc, Option.map_some']

/-- `speckv_access` of a page in neither L1 nor L2 returns `SPECKV_OK` with the page's address
and marks it in L2, also when the full ring dropped the page's read descriptor. -/
theorem access_reports_fetch_even_when_ring_full (cs : List Call) {st : Stack}
    (hb : ∀ c ∈ cs, c.allocPagesAtMost (2 ^ 20) = true) (hl : cs.length < 2 ^ 32)
    (hr : Stack.run cs .init = some st) {drv : SpeckvDriver} {a : SpeckvAllocator}
    (hs : st.session = .opened drv a) {handle offset : BitVec 64} {p : KvPageHandle}
    (hp : LivePage a handle (offset / 4096).toNat p) (hf : isInL1OrL2 a p.virtPageId = false)
    (length : BitVec 64) (env : FetchAnswers) (hk : env.kmallocOk = true)
    (hc : ∃ c ∈ env.completions, c ≠ 0) :
    ∃ st', st.speckvAccess handle offset length true env =
        some (.ok, p.physPageId + offset % 4096, st') ∧
      (∃ a', st'.session = .opened drv a' ∧ isInL1OrL2 a' p.virtPageId = true) ∧
      st'.kernel.device.ringWrites = st.kernel.device.ringWrites ++
        if st.kernel.device.ringWrites.length < 1023 then
          [(BitVec.ofNat 32 st.kernel.device.ringWrites.length, (fetchDesc p p.virtPageId).toIoctl)]
        else [] := by
  have hinv := StackInv.init.run hb (by omega) hr
  obtain ⟨ht, hsh, hn⟩ := hinv.alloc drv a hs
  obtain ⟨q, hq, hqf⟩ := ht.live_mem _ _ _ hp
  obtain ⟨al, hal, hpi⟩ := hp
  obtain ⟨rfl, hi, hh⟩ := hsh.livePage ⟨al, hal, hpi⟩
  obtain ⟨c, hcf⟩ : ∃ c, env.completions.find? (· != 0) = some c := by
    obtain ⟨c, hmem, hc⟩ := hc
    exact Option.isSome_iff_exists.1 (List.find?_isSome.2 ⟨c, hmem, bne_iff_ne.2 hc⟩)
  have hvia := accessVia_of_fetch a drv st.kernel hinv.kernel.ring.mapped length hal hpi hf hq hcf
  have hne := kvPage_access_ne_zero (by omega : handle.toNat < 2 ^ 43) hi offset
  have hring := hinv.kernel.ring.fetch_ringWrites
    (fetchDesc (kvPage handle (offset / 4096).toNat)
      (kvPage handle (offset / 4096).toNat).virtPageId).toIoctl c
  rcases st with ⟨session, m⟩
  dsimp only at hs hvia hring ⊢
  subst hs
  refine ⟨⟨.opened drv { a with pageTable := (a.pageTable.insert
      (kvPage handle (offset / 4096).toNat).virtPageId { q with flags := q.flags ||| 2 }) },
    SpeckvModule.run [.dmaBatch ⟨some 1, [(fetchDesc q
      (kvPage handle (offset / 4096).toNat).virtPageId).toIoctl]⟩ env.kmallocOk,
      .pollDone c true] m⟩, ?_, ⟨_, rfl, isInL1OrL2_insert_l2 a _ q⟩, ?_⟩
  · simp only [Stack.speckvAccess, Bool.not_true, Bool.false_eq_true, ↓reduceIte, hvia,
      Option.map_some', hne]
  · rw [SpeckvModule.run_device, fetchDesc_congr_frame hqf, hk]
    exact hring

theorem access_reports_fetch_of_second_page :
    ∃ st', (⟨.opened ⟨3, by decide⟩ (SpeckvAllocator.init.alloc 8192).2, .init⟩ : Stack).speckvAccess
        1 4096 8 true ⟨true, [0, 5]⟩ = some (.ok, (kvPage 1 1).physPageId + 4096 % 4096, st') ∧
      (∃ a', st'.session = .opened ⟨3, by decide⟩ a' ∧
        isInL1OrL2 a' (kvPage 1 1).virtPageId = true) ∧
      st'.kernel.device.ringWrites = SpeckvModule.init.device.ringWrites ++
        if SpeckvModule.init.device.ringWrites.length < 1023 then
          [(BitVec.ofNat 32 SpeckvModule.init.device.ringWrites.length,
            (fetchDesc (kvPage 1 1) (kvPage 1 1).virtPageId).toIoctl)]
        else [] :=
  access_reports_fetch_even_when_ring_full [.init 3, .alloc 8192 true] (by decide) (by decide) rfl
    rfl (⟨_, rfl, rfl⟩ : LivePage (SpeckvAllocator.init.alloc 8192).2 1 (4096 / 4096 : BitVec 64).toNat
      (kvPage 1 1)) rfl 8 ⟨true, [0, 5]⟩ rfl ⟨5, by simp, by decide⟩

end Fetch

end CxlSpeckv.Host
