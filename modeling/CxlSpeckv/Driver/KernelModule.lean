import Mathlib.Data.BitVec

/-!
# The kernel module's DMA ring

`speckv_kernel_module.c` keeps the write and read pointers of the FPGA's DMA ring and the count
of pending descriptors in module globals. `handle_dma_batch` copies a batch from user space and
writes its descriptors into the ring one slot after another, stopping when the slot after the
write pointer is the read pointer; `handle_poll_done` reads the completion register and takes
the completions off the pending count.

## Implementation notes

The device is seen through what the module writes to it: a descriptor written into ring slot
`i` (four `iowrite`s at `i * sizeof(struct speckv_ioctl_dma_desc)`) is recorded as `(i, desc)`,
and the write of the new pointer to `SPECKV_REG_DMA_RING_WR` carries the pointer itself, so it
is not recorded apart. What the kernel and the device answer is an argument: whether
`copy_from_user` of the header faults, the descriptors readable at the batch's `user_ptr`,
whether `kmalloc` succeeds, the value of the completion register, and whether `copy_to_user`
succeeds. `handle_prefetch` and `handle_set_param` touch none of this state; they are modelled
with the rest of `speckv_ioctl`, in `Ioctl`.
-/

namespace CxlSpeckv.Driver

/-- `struct speckv_ioctl_dma_desc`. -/
structure SpeckvIoctlDmaDesc where
  fpgaAddr : BitVec 64
  gpuAddr : BitVec 64
  bytes : BitVec 32
  flags : BitVec 32
  deriving DecidableEq, Repr

/-- `DMA_RING_SIZE`. -/
def dmaRingSize : BitVec 32 := 1024

/-- The error numbers the handlers return, negated. -/
def EFAULT : Int := 14

def EINVAL : Int := 22

def ENOMEM : Int := 12

def ENODEV : Int := 19

/-- The module's globals: whether `mmio_base` is mapped, the ring pointers, `dma_pending` as a
32-bit word, and the descriptors written into the ring with their slots. -/
structure SpeckvDevice where
  mmioMapped : Bool
  dmaRingWrPtr : BitVec 32
  dmaRingRdPtr : BitVec 32
  dmaPending : BitVec 32
  ringWrites : List (BitVec 32 × SpeckvIoctlDmaDesc)
  deriving DecidableEq, Repr

/-- After a `speckv_init` that mapped the MMIO region: both pointers and the pending count
are 0. -/
def SpeckvDevice.init : SpeckvDevice := ⟨true, 0, 0, 0, []⟩

/-- What `handle_dma_batch` reads: the header's `count`, `none` when copying it faults, and the
descriptors that can be copied from its `user_ptr`. -/
structure DmaBatchArg where
  count : Option (BitVec 32)
  userDescs : List SpeckvIoctlDmaDesc
  deriving DecidableEq, Repr

/-- One iteration of the loop of `handle_dma_batch` that finds room: write the descriptor at
the write pointer, advance the pointer, and count the descriptor as pending. -/
def writeSlot (s : SpeckvDevice) (d : SpeckvIoctlDmaDesc) : SpeckvDevice :=
  { s with
    ringWrites := s.ringWrites ++ [(s.dmaRingWrPtr, d)],
    dmaRingWrPtr := (s.dmaRingWrPtr + 1) % dmaRingSize,
    dmaPending := s.dmaPending + 1 }

/-- The loop of `handle_dma_batch` over the copied descriptors; it stops, dropping the rest,
when the slot after the write pointer is the read pointer. -/
def writeRing : List SpeckvIoctlDmaDesc → SpeckvDevice → SpeckvDevice
  | [], s => s
  | d :: rest, s =>
      if (s.dmaRingWrPtr + 1) % dmaRingSize = s.dmaRingRdPtr then s
      else writeRing rest (writeSlot s d)

/-- `handle_dma_batch`; the copy of `count` descriptors faults when fewer can be read. -/
def handleDmaBatch (s : SpeckvDevice) (arg : DmaBatchArg) (kmallocOk : Bool) :
    Int × SpeckvDevice :=
  match arg.count with
  | none => (-EFAULT, s)
  | some count =>
      if count > 4096 then (-EINVAL, s)
      else if !kmallocOk then (-ENOMEM, s)
      else if arg.userDescs.length < count.toNat then (-EFAULT, s)
      else if !s.mmioMapped then (-ENODEV, s)
      else (0, writeRing (arg.userDescs.take count.toNat) s)

/-- `handle_poll_done` with `done` read from `SPECKV_REG_DMA_COMPLETE`; the completions are
taken off the pending count before `copy_to_user` can fail. -/
def handlePollDone (s : SpeckvDevice) (done : BitVec 32) (copyOk : Bool) : Int × SpeckvDevice :=
  if !s.mmioMapped then (-ENODEV, s)
  else
    let s := if done > 0 then { s with dmaPending := s.dmaPending - done } else s
    (if copyOk then 0 else -EFAULT, s)

/-- The ioctls that change the ring state, with what the kernel and the device answer. -/
inductive Request
  | dmaBatch (arg : DmaBatchArg) (kmallocOk : Bool)
  | pollDone (done : BitVec 32) (copyOk : Bool)
  deriving DecidableEq, Repr

/-- `speckv_ioctl` for one request. -/
def Request.exec : Request → SpeckvDevice → Int × SpeckvDevice
  | .dmaBatch arg kmallocOk, s => handleDmaBatch s arg kmallocOk
  | .pollDone done copyOk, s => handlePollDone s done copyOk

/-- The module's state after a sequence of ioctls. -/
def run : List Request → SpeckvDevice → SpeckvDevice
  | [], s => s
  | r :: rs, s => run rs (r.exec s).2

end CxlSpeckv.Driver
