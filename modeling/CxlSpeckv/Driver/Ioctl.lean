import CxlSpeckv.Driver.KernelModule
import Mathlib.Algebra.Group.Nat.Basic

/-!
# The kernel module's `ioctl` entry

`speckv_ioctl` dispatches the four commands of `speckv_ioctl.h`: `DMA_BATCH` and `POLL_DONE`
move the DMA ring, `PREFETCH` copies a request and its token history into the prefetch FIFO,
and `SET_PARAM` writes one parameter register. Every other command is refused with `-ENOTTY`.

## Implementation notes

What the device is sent is the list of `iowrite16/32/64` calls the module makes, each with its
offset from `mmio_base`, its width and its value. The writes of `handle_dma_batch` are read
off the slots its loop records: each recorded `(slot, desc)` stands for the four field writes
at `slot * sizeof(struct speckv_ioctl_dma_desc)` and the write of the new pointer to
`SPECKV_REG_DMA_RING_WR`. `speckv_init` writes zero to four registers before any `ioctl`; those
writes start the log. The device's answers are arguments, as in `handle_dma_batch`: the value
of `SPECKV_REG_PREFETCH_STATUS` that `handle_prefetch` reads, and the tokens readable at the
request's `tokens_user_ptr`. `PREFETCH_FIFO_SIZE` is defined by the source but read by no
function, and is not modelled.
-/

namespace CxlSpeckv.Driver

/-- `SPECKV_MMIO_SIZE`: the bytes `speckv_init` maps. -/
def mmioSize : Nat := 128 * 1024

/-- The MMIO register offsets `SPECKV_REG_*`. -/
def regDmaRingBase : Nat := 0x0000

def regDmaRingWr : Nat := 0x0008

def regDmaRingRd : Nat := 0x0010

def regDmaComplete : Nat := 0x0018

def regPrefetchFifo : Nat := 0x0020

def regPrefetchStatus : Nat := 0x0028

def regParamPrefetchK : Nat := 0x0030

def regParamCompScheme : Nat := 0x0038

def EBUSY : Int := 16

def ENOTTY : Int := 25

/-- `struct speckv_ioctl_prefetch_req`; the tokens at `tokens_user_ptr` are passed apart. -/
structure SpeckvIoctlPrefetchReq where
  reqId : BitVec 32
  layer : BitVec 16
  curPos : BitVec 32
  depthK : BitVec 32
  historyLen : BitVec 32
  deriving DecidableEq, Repr

/-- `struct speckv_ioctl_param`. -/
structure SpeckvIoctlParam where
  key : BitVec 32
  value : BitVec 32
  deriving DecidableEq, Repr

/-- `SPECKV_PARAM_PREFETCH_DEPTH` and `SPECKV_PARAM_COMP_SCHEME`. -/
def paramPrefetchDepth : BitVec 32 := 1

def paramCompScheme : BitVec 32 := 2

/-- One `iowrite16`, `iowrite32` or `iowrite64`: the offset from `mmio_base`, the number of
bytes written and the value, zero-extended. -/
structure MmioWrite where
  offset : Nat
  width : Nat
  value : BitVec 64
  deriving DecidableEq, Repr

/-- The writes of one iteration of the ring loop of `handle_dma_batch` that finds room: the
descriptor's four fields at slot `slot`, 24 bytes a slot, then the new write pointer. -/
def slotWrites (slot : BitVec 32) (d : SpeckvIoctlDmaDesc) : List MmioWrite :=
  [⟨regDmaRingBase + slot.toNat * 24, 8, d.fpgaAddr⟩,
    ⟨regDmaRingBase + slot.toNat * 24 + 8, 8, d.gpuAddr⟩,
    ⟨regDmaRingBase + slot.toNat * 24 + 16, 4, d.bytes.setWidth 64⟩,
    ⟨regDmaRingBase + slot.toNat * 24 + 20, 4, d.flags.setWidth 64⟩,
    ⟨regDmaRingWr, 4, ((slot + 1) % dmaRingSize).setWidth 64⟩]

/-- The token loop of `handle_prefetch`, from token `i` on: token `i` goes to
`fifo_base + 20 + (i * 4)`, the product taken in `uint32_t`. -/
def tokenWrites (i : Nat) : List (BitVec 32) → List MmioWrite
  | [] => []
  | t :: ts =>
      ⟨regPrefetchFifo + 20 + (i * 4) % 2 ^ 32, 4, t.setWidth 64⟩ :: tokenWrites (i + 1) ts

/-- What an accepted `PREFETCH` writes: the header at the FIFO, the tokens after it, then the
start bit. -/
def prefetchWrites (req : SpeckvIoctlPrefetchReq) (tokens : List (BitVec 32)) : List MmioWrite :=
  [⟨regPrefetchFifo, 4, req.reqId.setWidth 64⟩, ⟨regPrefetchFifo + 4, 2, req.layer.setWidth 64⟩,
    ⟨regPrefetchFifo + 8, 4, req.curPos.setWidth 64⟩,
    ⟨regPrefetchFifo + 12, 4, req.depthK.setWidth 64⟩,
    ⟨regPrefetchFifo + 16, 4, req.historyLen.setWidth 64⟩] ++
    tokenWrites 0 tokens ++ [⟨regPrefetchStatus, 4, 1⟩]

/-- `handle_prefetch`: `req` is `none` when copying the request faults, `userTokens` are the
tokens readable at its `tokens_user_ptr`, and `fifoStatus` is what the status register reads. -/
def handlePrefetch (s : SpeckvDevice) (req : Option SpeckvIoctlPrefetchReq) (kmallocOk : Bool)
    (userTokens : List (BitVec 32)) (fifoStatus : BitVec 32) : Int × List MmioWrite :=
  match req with
  | none => (-EFAULT, [])
  | some req =>
      if !kmallocOk then (-ENOMEM, [])
      else if userTokens.length < req.historyLen.toNat then (-EFAULT, [])
      else if !s.mmioMapped then (-ENODEV, [])
      else if fifoStatus &&& 0x80000000 != 0 then (-EBUSY, [])
      else (0, prefetchWrites req (userTokens.take req.historyLen.toNat))

/-- `handle_set_param`: `p` is `none` when copying the parameter faults. -/
def handleSetParam (s : SpeckvDevice) (p : Option SpeckvIoctlParam) : Int × List MmioWrite :=
  match p with
  | none => (-EFAULT, [])
  | some p =>
      if !s.mmioMapped then (-ENODEV, [])
      else if p.key = paramPrefetchDepth then (0, [⟨regParamPrefetchK, 4, p.value.setWidth 64⟩])
      else if p.key = paramCompScheme then (0, [⟨regParamCompScheme, 4, p.value.setWidth 64⟩])
      else (-EINVAL, [])

/-- The clearing write of `handle_poll_done`, made when some completion was read. -/
def pollDoneWrites (s : SpeckvDevice) (done : BitVec 32) : List MmioWrite :=
  if s.mmioMapped && decide (done > 0) then [⟨regDmaComplete, 4, 0⟩] else []

/-- The commands of `speckv_ioctl`, each with what the kernel and the device answer. -/
inductive Ioctl
  | dmaBatch (arg : DmaBatchArg) (kmallocOk : Bool)
  | prefetch (req : Option SpeckvIoctlPrefetchReq) (kmallocOk : Bool)
      (userTokens : List (BitVec 32)) (fifoStatus : BitVec 32)
  | setParam (p : Option SpeckvIoctlParam)
  | pollDone (done : BitVec 32) (copyOk : Bool)
  | unknown
  deriving DecidableEq, Repr

/-- The module: its globals and every MMIO write it has made. -/
structure SpeckvModule where
  device : SpeckvDevice
  mmio : List MmioWrite
  deriving DecidableEq, Repr

/-- After a `speckv_init` that mapped the region and zeroed four registers. -/
def SpeckvModule.init : SpeckvModule :=
  ⟨.init, [⟨regDmaRingWr, 4, 0⟩, ⟨regDmaRingRd, 4, 0⟩, ⟨regDmaComplete, 4, 0⟩,
    ⟨regPrefetchStatus, 4, 0⟩]⟩

/-- `speckv_ioctl`. -/
def speckvIoctl (m : SpeckvModule) : Ioctl → Int × SpeckvModule
  | .dmaBatch arg kmallocOk =>
      let r := handleDmaBatch m.device arg kmallocOk
      (r.1, ⟨r.2, m.mmio ++ (r.2.ringWrites.drop m.device.ringWrites.length).flatMap
        fun w => slotWrites w.1 w.2⟩)
  | .prefetch req kmallocOk userTokens fifoStatus =>
      let r := handlePrefetch m.device req kmallocOk userTokens fifoStatus
      (r.1, { m with mmio := m.mmio ++ r.2 })
  | .setParam p =>
      let r := handleSetParam m.device p
      (r.1, { m with mmio := m.mmio ++ r.2 })
  | .pollDone done copyOk =>
      let r := handlePollDone m.device done copyOk
      (r.1, ⟨r.2, m.mmio ++ pollDoneWrites m.device done⟩)
  | .unknown => (-ENOTTY, m)

/-- The module after a sequence of `ioctl`s. -/
def SpeckvModule.run : List Ioctl → SpeckvModule → SpeckvModule
  | [], m => m
  | c :: cs, m => SpeckvModule.run cs (speckvIoctl m c).2

end CxlSpeckv.Driver
