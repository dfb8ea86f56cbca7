import CxlSpeckv.Host.Allocator
import CxlSpeckv.Host.Driver

/-!
# The host library over the kernel module

`speckv_c_api.cpp` keeps one driver and one allocator behind `g_initialized`. Each call checks
the flag and its pointers, then goes down: `speckv_alloc`, `speckv_free` and `speckv_access` to
the allocator, whose `sync_fetch_page` submits one descriptor through the driver and polls
until the driver answers non-zero; `speckv_prefetch` to the allocator's `prefetch`, which
forwards the request to the driver; the two setters to the driver directly. The driver's
calls reach the kernel module as `ioctl`s.

## Implementation notes

The state is the session, closed or open with its driver and allocator, and the kernel
module, which outlives sessions. The device is what the stack does not contain: each call that
reaches it takes the device's and the kernel's answers as arguments, and the C API's pointer
arguments are given by whether they are non-null, with the tokens readable at
`recent_tokens`. `speckv_init`'s dead `!ok()` branch would leave `g_driver` set with no
session; no call reads it then, so the model keeps the session closed. The mutex makes every
call atomic.
-/

namespace CxlSpeckv.Host

open CxlSpeckv.Driver

/-- `speckv_status_t`. -/
inductive SpeckvStatus
  | ok
  | errGeneral
  | errDriver
  | errNomem
  | errInval
  deriving DecidableEq, Repr

/-- `g_initialized`, with the driver and the allocator it guards. -/
inductive Session
  | closed
  | opened (driver : SpeckvDriver) (allocator : SpeckvAllocator)

/-- What the device answers during one fetch: whether `kmalloc` of the batch succeeds, and
the successive values of the completion register. -/
structure FetchAnswers where
  kmallocOk : Bool
  completions : List (BitVec 32)
  deriving DecidableEq, Repr

namespace SpeckvDriver

variable (d : SpeckvDriver)

/-- `while (driver_->poll_complete() == 0)`: the answers of the polls made, the last one
non-zero; `none` while the completion register keeps reading 0. -/
def pollLoop : SpeckvModule → List (BitVec 32) → Option (List Int × SpeckvModule)
  | _, [] => none
  | m, done :: rest =>
      if (d.pollComplete m done).1 = 0 then
        (pollLoop (d.pollComplete m done).2 rest).map fun p => (0 :: p.1, p.2)
      else some ([(d.pollComplete m done).1], (d.pollComplete m done).2)

end SpeckvDriver

namespace SpeckvAllocator

variable (a : SpeckvAllocator) (drv : SpeckvDriver) (m : SpeckvModule)

/-- The descriptor `sync_fetch_page` builds: the page's frame, its GPU mapping, a read. -/
def fetchDesc (p : KvPageHandle) (virtPageId : BitVec 64) : SpeckvDmaDesc :=
  ⟨p.physPageId, 0x8000000000 + (virtPageId &&& 0xFFFFFFFFFFFF), p.pageSize, 0⟩

/-- `sync_fetch_page` through the driver: the allocator side is `syncFetchPage` under the
driver's answers. -/
def syncFetchPageVia (virtPageId : BitVec 64) (env : FetchAnswers) :
    Option (SpeckvAllocator × SpeckvModule) :=
  match a.pageTable.lookup virtPageId with
  | none => some (a, m)
  | some p =>
      let s := drv.submitDmaBatch m [fetchDesc p virtPageId] env.kmallocOk
      (drv.pollLoop s.2 env.completions).bind fun q =>
        (a.syncFetchPage virtPageId ⟨s.1, q.1⟩).map fun a' => (a', q.2)

/-- `access` through the driver. -/
def accessVia (handle offset _bytes : BitVec 64) (env : FetchAnswers) :
    Option (BitVec 64 × SpeckvAllocator × SpeckvModule) :=
  match a.allocs.lookup handle with
  | none => some (0, a, m)
  | some al =>
      let pageIdx := offset / 4096
      let pageOffset := offset % 4096
      if h : pageIdx.toNat < al.pages.length then
        let page := al.pages.get ⟨pageIdx.toNat, h⟩
        let fetched := if isInL1OrL2 a page.virtPageId then some (a, m)
          else a.syncFetchPageVia drv m page.virtPageId env
        fetched.map fun r => (page.physPageId + pageOffset, r)
      else some (0, a, m)

/-- `prefetch`: the request goes to the allocator's driver as it is; the allocator's own state
is not read. -/
def prefetch (reqId : BitVec 32) (layer : BitVec 16) (curPos depthK : BitVec 32)
    (tokens : List (BitVec 32)) (historyLen : BitVec 32) (kmallocOk : Bool)
    (fifoStatus : BitVec 32) : SpeckvModule :=
  (drv.submitPrefetch m ⟨reqId, layer, curPos, depthK, historyLen⟩ tokens kmallocOk fifoStatus).2

end SpeckvAllocator

/-- The host process's library state and the kernel module below it. -/
structure Stack where
  session : Session
  kernel : SpeckvModule

namespace Stack

/-- No session, and the module just loaded. -/
def init : Stack := ⟨.closed, .init⟩

variable (st : Stack)

/-- `speckv_init`, with the descriptor `open` returns. -/
def speckvInit (openFd : Int) : SpeckvStatus × Stack :=
  match st.session with
  | .opened _ _ => (.errGeneral, st)
  | .closed =>
      if h : 0 ≤ openFd then
        if !(⟨openFd, h⟩ : SpeckvDriver).ok then (.errDriver, st)
        else (.ok, { st with session := .opened ⟨openFd, h⟩ SpeckvAllocator.init })
      else (.errGeneral, st)

def speckvFinalize : Stack := { st with session := .closed }

/-- `speckv_alloc`: the status and `*out_handle`. -/
def speckvAlloc (bytes : BitVec 64) (outHandle : Bool) : SpeckvStatus × BitVec 64 × Stack :=
  match st.session with
  | .closed => (.errInval, 0, st)
  | .opened drv a =>
      if !outHandle then (.errInval, 0, st)
      else ((.ok, (a.alloc bytes).1, { st with session := .opened drv (a.alloc bytes).2 }))

def speckvFree (handle : BitVec 64) : SpeckvStatus × Stack :=
  match st.session with
  | .closed => (.errInval, st)
  | .opened drv a => (.ok, { st with session := .opened drv (a.free handle) })

/-- `speckv_access`: the status and `*out_gpu_ptr`; `none` while a fetch keeps polling. -/
def speckvAccess (handle offset length : BitVec 64) (outPtr : Bool) (env : FetchAnswers) :
    Option (SpeckvStatus × BitVec 64 × Stack) :=
  match st.session with
  | .closed => some (.errInval, 0, st)
  | .opened drv a =>
      if !outPtr then some (.errInval, 0, st)
      else (a.accessVia drv st.kernel handle offset length env).map fun r =>
        (if r.1 = 0 then .errGeneral else .ok, if r.1 = 0 then 0 else r.1,
          ⟨.opened drv r.2.1, r.2.2⟩)

/-- `speckv_prefetch`; `recentTokens` is `none` for a null pointer. -/
def speckvPrefetch (reqId : BitVec 32) (layer : BitVec 16) (curPos depthK : BitVec 32)
    (recentTokens : Option (List (BitVec 32))) (historyLen : BitVec 32) (kmallocOk : Bool)
    (fifoStatus : BitVec 32) : SpeckvStatus × Stack :=
  match st.session, recentTokens with
  | .closed, _ => (.errInval, st)
  | .opened _ _, none => (.errInval, st)
  | .opened drv _, some tokens =>
      if historyLen = 0 then (.errInval, st)
      else (.ok, { st with
        kernel := SpeckvAllocator.prefetch drv st.kernel reqId layer curPos depthK tokens historyLen
          kmallocOk fifoStatus })

/-- The two setters of the C API: the driver's setter, `SPECKV_ERR_DRIVER` when it fails. -/
def setWith (set : SpeckvDriver → SpeckvModule → Int × SpeckvModule) : SpeckvStatus × Stack :=
  match st.session with
  | .closed => (.errInval, st)
  | .opened drv _ =>
      (if (set drv st.kernel).1 < 0 then .errDriver else .ok,
        { st with kernel := (set drv st.kernel).2 })

def speckvSetPrefetchDepth (depthK : BitVec 32) : SpeckvStatus × Stack :=
  st.setWith fun d m => d.setPrefetchDepth m depthK

def speckvSetCompressionScheme (scheme : BitVec 32) : SpeckvStatus × Stack :=
  st.setWith fun d m => d.setCompressionScheme m scheme

end Stack

/-- The C API calls, with what the caller passes and what the kernel and the device answer. -/
inductive Call
  | init (openFd : Int)
  | finalize
  | alloc (bytes : BitVec 64) (outHandle : Bool)
  | free (handle : BitVec 64)
  | access (handle offset length : BitVec 64) (outPtr : Bool) (env : FetchAnswers)
  | prefetch (reqId : BitVec 32) (layer : BitVec 16) (curPos depthK : BitVec 32)
      (recentTokens : Option (List (BitVec 32))) (historyLen : BitVec 32) (kmallocOk : Bool)
      (fifoStatus : BitVec 32)
  | setPrefetchDepth (depthK : BitVec 32)
  | setCompressionScheme (scheme : BitVec 32)

/-- One call: its status and the stack after it; `none` while it does not return. -/
def Call.exec : Call → Stack → Option (SpeckvStatus × Stack)
  | .init fd, st => some (st.speckvInit fd)
  | .finalize, st => some (.ok, st.speckvFinalize)
  | .alloc bytes out, st => some ((st.speckvAlloc bytes out).1, (st.speckvAlloc bytes out).2.2)
  | .free h, st => some (st.speckvFree h)
  | .access h o l out env, st =>
      (st.speckvAccess h o l out env).map fun r => (r.1, r.2.2)
  | .prefetch r ly p k toks n km fs, st => some (st.speckvPrefetch r ly p k toks n km fs)
  | .setPrefetchDepth k, st => some (st.speckvSetPrefetchDepth k)
  | .setCompressionScheme s, st => some (st.speckvSetCompressionScheme s)

/-- The stack after a sequence of calls, if every call returns. -/
def Stack.run : List Call → Stack → Option Stack
  | [], st => some st
  | c :: cs, st => (c.exec st).bind fun r => Stack.run cs r.2

end CxlSpeckv.Host
