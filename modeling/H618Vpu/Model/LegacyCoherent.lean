import H618Vpu.Model.LegacyEngine

/-! # The coherent buffers of the legacy driver

A file has its own list of coherent buffers and its own 32-bit counter for their handles. `mmap` takes a
handle as a page offset, or the page of the registers. A page of a user mapping is kept with the file it was
made from and with what it shows.
-/

namespace H618Vpu.Legacy

/-- `struct cedar_coherent_buf` -/
structure CoherentBuf where
  handle : ℕ
  size : ℕ
  dmaAddr : ℕ
deriving DecidableEq, Repr

/-- The fields of `struct ve_info` about coherent memory. -/
structure Coherent where
  buffers : List CoherentBuf := []
  nextHandle : ℕ := 1
deriving DecidableEq, Repr

def pageSize : ℕ := 4096

/-- `MACC_REGS_BASE` -/
def maccRegsBase : ℕ := 0x01C0E000

/-- The page offset which selects the registers. -/
def registerSelector : ℕ := maccRegsBase / pageSize

def pageAlign (size : ℕ) : ℕ := (size + pageSize - 1) / pageSize * pageSize

/-- What `IOCTL_ALLOC_COHERENT` meets: its argument, `kzalloc`, the address from `dma_alloc_coherent` and
whether the result can be written back. -/
structure AllocAnswers where
  size : Option ℕ
  allocated : Bool := true
  dmaAddr : Option ℕ
  copied : Bool := true
deriving DecidableEq, Repr

namespace Coherent

/-- `find_coherent_buffer` -/
def find (c : Coherent) (handle : ℕ) : Option CoherentBuf := c.buffers.find? (·.handle = handle)

/-- `IOCTL_ALLOC_COHERENT` -/
def alloc (c : Coherent) (answers : AllocAnswers) : Coherent × ℤ :=
  match answers.size with
  | none => (c, efault)
  | some size =>
      if size = 0 ∨ size > 2 ^ 26 then (c, einval)
      else if !answers.allocated then (c, enomem)
      else
        match answers.dmaAddr with
        | none => (c, enomem)
        | some dmaAddr =>
            if dmaAddr / 2 ^ 32 ≠ 0 then (c, erange)
            else
              let handle := c.nextHandle
              let c := { c with nextHandle := (c.nextHandle + 1) % 2 ^ 32 }
              if handle = 0 then (c, enospc)
              else if !answers.copied then (c, efault)
              else ({ c with buffers := c.buffers ++ [⟨handle, pageAlign size, dmaAddr⟩] }, 0)

/-- `list_del` of the buffer that `find_coherent_buffer` found. -/
def remove (c : Coherent) (handle : ℕ) : Coherent :=
  { c with buffers := c.buffers.eraseP (·.handle = handle) }

/-- `IOCTL_FREE_COHERENT`, which resets the engine around the release if the file has a reference. -/
def free (c : Coherent) (d : Dev) (refs : ℕ) (request : Option ℕ) (answer : ℕ) : (Coherent × Dev) × ℤ :=
  match request with
  | none => ((c, d), efault)
  | some handle =>
      match c.find handle with
      | none => ((c, d), enoent)
      | some _ =>
          let d := if refs ≠ 0 then d.quiesceDma else d
          let c := c.remove handle
          let d := if refs ≠ 0 then d.resetDeassert answer else d
          ((c, d), 0)

end Coherent

/-- What a page of a user mapping shows: an I/O page or a page of DMA memory. -/
inductive Frame where
  | io (addr : ℕ)
  | dma (addr : ℕ)
deriving DecidableEq, Repr

/-- A page of a user mapping, at `va` of the address space `mm`. -/
structure UserPage where
  file : ℕ
  mm : ℕ
  va : ℕ
  frame : Frame
deriving DecidableEq, Repr

/-- What `mmap` is called with: the range and the page offset, and whether the caller is privileged. -/
structure Vma where
  mm : ℕ
  start : ℕ
  length : ℕ
  pgoff : ℕ
  rawio : Bool := false
deriving DecidableEq, Repr

namespace Vma

/-- The pages of the range, shown from `frame 0` on. -/
def pages (vma : Vma) (file : ℕ) (frame : ℕ → Frame) : List UserPage :=
  (List.range ((vma.length + pageSize - 1) / pageSize)).map fun i =>
    ⟨file, vma.mm, vma.start + i * pageSize, frame (i * pageSize)⟩

end Vma

/-- `cedardev_mmap`: the pages it adds and its result; `answer` is what the helper answers that enters the
pages. -/
def mmap (c : Coherent) (file : ℕ) (vma : Vma) (answer : ℕ) : List UserPage × ℤ :=
  if vma.length = 0 then ([], 0)
  else if vma.pgoff > (2 ^ 64 - 1) / pageSize then ([], einval)
  else if vma.pgoff ≠ 0 ∧ vma.pgoff ≠ registerSelector then
    match c.find (vma.pgoff % 2 ^ 32) with
    | none => ([], einval)
    | some buffer =>
        if vma.length > buffer.size then ([], einval)
        else if answer ≠ 0 then ([], -answer)
        else (vma.pages file fun offset => .dma (buffer.dmaAddr + offset), 0)
  else if !vma.rawio ∨ vma.length > pageSize then ([], eperm)
  else if answer ≠ 0 then ([], eagain)
  else (vma.pages file fun offset => .io (maccRegsBase + offset), 0)

end H618Vpu.Legacy
