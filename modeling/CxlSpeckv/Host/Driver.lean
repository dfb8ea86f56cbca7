import CxlSpeckv.Driver.Ioctl

/-!
# The user-space driver

`SpeckvDriver` opens `/dev/speckv0` and turns each of its calls into one `ioctl`. The system
call returns `-1` when the module's handler returns an error code and the handler's result
otherwise; every call but `poll_complete` passes a negative result on and reports success as
`0`, and `poll_complete` returns the completion count the module copied out, cast to `int`.

## Implementation notes

The constructor throws when `open` fails, so a driver that exists holds a non-negative
descriptor: `SpeckvDriver` carries that fact, and the `!ok()` branches of its calls are never
taken. The module's copies from and to the driver's own buffers succeed; what is left of the
kernel's and the device's answers is an argument of each call. `errno` is not modelled: no
caller reads it.
-/

namespace CxlSpeckv.Host

open CxlSpeckv.Driver

/-- `SpeckvDmaDesc`. -/
structure SpeckvDmaDesc where
  fpgaAddr : BitVec 64
  gpuAddr : BitVec 64
  bytes : BitVec 32
  flags : BitVec 32
  deriving DecidableEq, Repr

/-- The conversion of `submit_dma_batch` to the module's descriptor. -/
def SpeckvDmaDesc.toIoctl (d : SpeckvDmaDesc) : SpeckvIoctlDmaDesc :=
  ⟨d.fpgaAddr, d.gpuAddr, d.bytes, d.flags⟩

/-- `SpeckvPrefetchReq`. -/
structure SpeckvPrefetchReq where
  reqId : BitVec 32
  layer : BitVec 16
  curPos : BitVec 32
  depthK : BitVec 32
  historyLen : BitVec 32
  deriving DecidableEq, Repr

/-- A `SpeckvDriver` whose constructor returned: `fd_` is what `open` gave. -/
structure SpeckvDriver where
  fd : Int
  fd_nonneg : 0 ≤ fd

namespace SpeckvDriver

variable (d : SpeckvDriver) (m : SpeckvModule)

def ok : Bool := decide (0 ≤ d.fd)

/-- The `ioctl` system call on the driver's descriptor. -/
def ioctl (c : Ioctl) : Int × SpeckvModule :=
  let r := speckvIoctl m c
  (if r.1 < 0 then -1 else r.1, r.2)

/-- `(ret < 0) ? ret : 0` for one `ioctl`. -/
def ioctlStatus (c : Ioctl) : Int × SpeckvModule :=
  let r := ioctl m c
  (if r.1 < 0 then r.1 else 0, r.2)

/-- `submit_dma_batch`; `count` is the batch's size as a `__u32`. -/
def submitDmaBatch (batch : List SpeckvDmaDesc) (kmallocOk : Bool) : Int × SpeckvModule :=
  if !d.ok then (-1, m)
  else if batch.isEmpty then (0, m)
  else ioctlStatus m
    (.dmaBatch ⟨some (BitVec.ofNat 32 batch.length), batch.map SpeckvDmaDesc.toIoctl⟩ kmallocOk)

/-- `submit_prefetch`; `tokens` are the ones readable at the pointer it is given. -/
def submitPrefetch (req : SpeckvPrefetchReq) (tokens : List (BitVec 32)) (kmallocOk : Bool)
    (fifoStatus : BitVec 32) : Int × SpeckvModule :=
  if !d.ok then (-1, m)
  else ioctlStatus m
    (.prefetch (some ⟨req.reqId, req.layer, req.curPos, req.depthK, req.historyLen⟩) kmallocOk
      tokens fifoStatus)

/-- `poll_complete`, with `done` read from the completion register. -/
def pollComplete (done : BitVec 32) : Int × SpeckvModule :=
  if !d.ok then (-1, m)
  else
    let r := ioctl m (.pollDone done true)
    (if r.1 < 0 then r.1 else done.toInt, r.2)

/-- The two parameter setters: one `SET_PARAM` with their key. -/
def setParam (key value : BitVec 32) : Int × SpeckvModule :=
  if !d.ok then (-1, m) else ioctlStatus m (.setParam (some ⟨key, value⟩))

def setPrefetchDepth (k : BitVec 32) : Int × SpeckvModule := d.setParam m paramPrefetchDepth k

def setCompressionScheme (scheme : BitVec 32) : Int × SpeckvModule :=
  d.setParam m paramCompScheme scheme

end SpeckvDriver

end CxlSpeckv.Host
