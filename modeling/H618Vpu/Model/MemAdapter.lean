import Mathlib

/-! # The memory-adapter bridge

`cedar_memadapter_bridge.c` and `native_memadapter_bridge.c` have the same operations; one is built for ARMv7
and the other for AArch64, so their `uintptr_t` differ. The operations run under one lock. What the kernel
answers is part of an event. Each successful `open` of the device is a new open file with a number of its
own; the handles it gives and those it is asked to free are written down with that number.
-/

namespace H618Vpu.MemAdapter

/-- The two builds. -/
inductive Build where
  | android
  | native
deriving DecidableEq, Repr

/-- The bits of a `uintptr_t`. -/
def Build.width : Build → ℕ
  | android => 32
  | native => 64

def pageSize : ℕ := 4096

/-- The size of the mapping for a request of `size` bytes. -/
def mappedSize (size : ℤ) : ℕ := (size.toNat + pageSize - 1) / pageSize * pageSize

/-- `struct bridge_buffer`, with the open file of its handle. -/
structure Buffer where
  virt : ℕ
  handle : ℕ
  size : ℕ
  dmaAddr : ℕ
  device : ℕ
deriving DecidableEq, Repr

/-- The variables of the bridge, and what was asked of the device. -/
structure State where
  fd : Option ℕ := none
  refcount : ℕ := 0
  buffers : List Buffer := []
  opened : ℕ := 0
  obtained : List (ℕ × ℕ) := []
  freed : List (ℕ × ℕ) := []
deriving DecidableEq, Repr

/-- What `bridge_palloc` meets: the handle and the address from `IOCTL_ALLOC_COHERENT`, the mapping from `mmap`,
and whether `calloc` succeeds. -/
structure Reply where
  alloc : Option (ℕ × ℕ)
  virt : Option ℕ
  calloc : Bool := true
deriving DecidableEq, Repr

/-- The calls; `device` says whether the device can be opened. -/
inductive Event where
  | open (device : Bool)
  | open2 (device : Bool)
  | close
  | palloc (size : ℤ) (reply : Reply)
  | pfree (virt : ℕ)
deriving DecidableEq, Repr

namespace State

/-- `find_virt`; the end of a mapping is a `uintptr_t`. -/
def findVirt (build : Build) (s : State) (address : ℕ) : Option Buffer :=
  s.buffers.find? fun buffer =>
    buffer.virt ≤ address ∧ address < (buffer.virt + buffer.size) % 2 ^ build.width

/-- `find_dma`; the end of a DMA range is a `uint64_t`. -/
def findDma (s : State) (address : ℕ) : Option Buffer :=
  s.buffers.find? fun buffer => buffer.dmaAddr ≤ address ∧ address < (buffer.dmaAddr + buffer.size) % 2 ^ 64

/-- `bridge_open`; `open` returns `-1` when it fails. -/
def bridgeOpen (s : State) (device : Bool) : State × ℤ :=
  let first := s.refcount
  let s := { s with refcount := (s.refcount + 1) % 2 ^ 32 }
  if first = 0 then
    if device then ({ s with fd := some s.opened, opened := s.opened + 1 }, 0)
    else ({ s with fd := none, refcount := 0 }, -1)
  else (s, 0)

/-- `bridge_open2` -/
def bridgeOpen2 (s : State) (device : Bool) : State × ℤ := s.bridgeOpen device

/-- `IOCTL_FREE_COHERENT`, whose result is not looked at. -/
def freeCoherent (s : State) (fd handle : ℕ) : State := { s with freed := s.freed ++ [(fd, handle)] }

/-- `bridge_free_buffer` -/
def bridgeFreeBuffer (s : State) (buffer : Buffer) : State :=
  match s.fd with
  | some fd => s.freeCoherent fd buffer.handle
  | none => s

/-- The loop of `bridge_close` over `g_buffers`. -/
def closeLoop : List Buffer → State → State
  | [], s => { s with buffers := [] }
  | buffer :: rest, s => closeLoop rest ({ s with buffers := rest }.bridgeFreeBuffer buffer)

/-- `bridge_close` -/
def bridgeClose (s : State) : State :=
  if s.refcount = 0 then s
  else
    let s := { s with refcount := s.refcount - 1 }
    if s.refcount ≠ 0 then s
    else
      let s := closeLoop s.buffers s
      { s with fd := none }

/-- `bridge_palloc`; it returns `0` for `NULL`. -/
def bridgePalloc (s : State) (size : ℤ) (reply : Reply) : State × ℕ :=
  if size ≤ 0 then (s, 0)
  else if mappedSize size > 2 ^ 32 - 1 then (s, 0)
  else
    match s.fd with
    | none => (s, 0)
    | some fd =>
        match reply.alloc with
        | none => (s, 0)
        | some (handle, dmaAddr) =>
            let s := { s with obtained := s.obtained ++ [(fd, handle)] }
            match reply.virt with
            | none => (s.freeCoherent fd handle, 0)
            | some virt =>
                if !reply.calloc then (s.freeCoherent fd handle, 0)
                else ({ s with buffers := ⟨virt, handle, mappedSize size, dmaAddr, fd⟩ :: s.buffers }, virt)

/-- `bridge_pfree` -/
def bridgePfree (s : State) (virt : ℕ) : State :=
  match s.buffers.find? (·.virt = virt) with
  | none => s
  | some buffer => { s with buffers := s.buffers.eraseP (·.virt = virt) }.bridgeFreeBuffer buffer

/-- `bridge_get_phyaddr` -/
def bridgeGetPhyaddr (build : Build) (s : State) (virt : ℕ) : ℕ :=
  match s.findVirt build virt with
  | none => 0
  | some buffer =>
      let offset := (virt + 2 ^ build.width - buffer.virt) % 2 ^ build.width
      (buffer.dmaAddr + offset) % 2 ^ 64 % 2 ^ build.width

/-- `bridge_get_viraddr` -/
def bridgeGetViraddr (build : Build) (s : State) (dmaAddr : ℕ) : ℕ :=
  match s.findDma dmaAddr with
  | none => 0
  | some buffer =>
      let offset := (dmaAddr + 2 ^ build.width - buffer.dmaAddr % 2 ^ build.width) % 2 ^ build.width
      (buffer.virt + offset) % 2 ^ build.width

end State

/-- One call. -/
def step (s : State) : Event → Option State
  | .open device => some (s.bridgeOpen device).1
  | .open2 device => some (s.bridgeOpen2 device).1
  | .close => some s.bridgeClose
  | .palloc size reply => some (s.bridgePalloc size reply).1
  | .pfree virt => some (s.bridgePfree virt)

end H618Vpu.MemAdapter
