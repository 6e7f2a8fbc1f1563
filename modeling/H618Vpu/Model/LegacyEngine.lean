import Mathlib

/-! # The device of the legacy driver

`struct cedar_dev` of `cedar_ve.c`: the count of engine references with the clocks and the reset line it
controls, and the one list of DMA-BUF mappings. A command is a function of what it reads and writes, so its
type says what it leaves alone. What the reset and clock frameworks answer is the errno whose negative they
return, 0 for success.
-/

namespace H618Vpu.Legacy

def eperm : ℤ := -1
def enoent : ℤ := -2
def eagain : ℤ := -11
def enomem : ℤ := -12
def efault : ℤ := -14
def einval : ℤ := -22
def enospc : ℤ := -28
def erange : ℤ := -34
def erestartsys : ℤ := -512

/-- The `int` which `n` is converted to. -/
def toInt (n : ℤ) : ℤ := (n + 2 ^ 31) % 2 ^ 32 - 2 ^ 31

/-- The `unsigned int` which `n` is converted to. -/
def toUnsigned (n : ℤ) : ℤ := n % 2 ^ 32

/-- `struct dma_buf_info`, with the file on which the mapping was made and a number of its own. -/
structure DmaBufInfo where
  serial : ℕ
  file : ℕ
  fd : ℤ
  addr : ℕ
  pId : ℤ
deriving DecidableEq, Repr

/-- `struct cedar_dev`. A clock counts its enables; `released` has the mappings which were unmapped, detached
and put, in this order. -/
structure Dev where
  refCount : ℤ := 0
  clkStatus : Bool := false
  resetAsserted : Bool := true
  busClk : ℕ := 0
  mbusClk : ℕ := 0
  veClk : ℕ := 0
  list : List DmaBufInfo := []
  released : List DmaBufInfo := []
  nextSerial : ℕ := 0
deriving Repr

/-- What a command meets when it powers the engine up. -/
structure Answers where
  interrupted : Bool := false
  deassert : ℕ := 0
  busClk : ℕ := 0
  mbusClk : ℕ := 0
  veClk : ℕ := 0
deriving DecidableEq, Repr

namespace Dev

/-- The walk of `unmap_dma_buf_addr` over the list: what it keeps and what it releases. -/
def unmapLoop (tgid : ℤ) (unmapAll : Bool) (fd : ℤ) (addr : ℕ) :
    List DmaBufInfo → List DmaBufInfo × List DmaBufInfo
  | [] => ([], [])
  | info :: rest =>
      let tmpFd := if unmapAll then info.fd else fd
      let tmpAddr := if unmapAll then info.addr % 2 ^ 32 else addr
      if info.fd = tmpFd ∧ info.pId = tgid ∧ info.addr = tmpAddr then
        if unmapAll then
          let (kept, released) := unmapLoop tgid unmapAll fd addr rest
          (kept, info :: released)
        else (rest, [info])
      else
        let (kept, released) := unmapLoop tgid unmapAll fd addr rest
        (info :: kept, released)

/-- `unmap_dma_buf_addr`, called by a thread of process `tgid` -/
def unmapDmaBufAddr (d : Dev) (tgid : ℤ) (unmapAll : Bool) (fd : ℤ) (addr : ℕ) : Dev :=
  let (kept, released) := unmapLoop tgid unmapAll fd addr d.list
  { d with list := kept, released := d.released ++ released }

/-- What `MAP_DMA_BUF` meets: its argument, the allocation, the exporter and the table it hands over, and
whether the result can be written back. -/
structure MapAnswers where
  fd : Option ℤ
  allocated : Bool := true
  dmaBuf : Bool := true
  attachment : Bool := true
  sgt : Bool := true
  nents : ℕ := 1
  addr : ℕ
  copied : Bool := true
deriving DecidableEq, Repr

/-- `map_dma_buf_addr`; each failure takes back what came before it. -/
def mapDmaBufAddr (d : Dev) (file : ℕ) (tgid fd : ℤ) (answers : MapAnswers) : Dev × ℤ :=
  if !answers.allocated then (d, -1)
  else if !answers.dmaBuf then (d, -1)
  else if !answers.attachment then (d, -1)
  else if !answers.sgt then (d, -1)
  else if answers.nents ≠ 1 then (d, -1)
  else
    ({ d with
        list := d.list ++ [⟨d.nextSerial, file, fd, answers.addr, tgid⟩]
        nextSerial := d.nextSerial + 1 }, 0)

/-- `IOCTL_MAP_DMA_BUF`, and `IOCTL_GET_IOMMU_ADDR` with another name for the field -/
def mapDmaBuf (d : Dev) (file : ℕ) (tgid : ℤ) (answers : MapAnswers) : Dev × ℤ :=
  match answers.fd with
  | none => (d, efault)
  | some fd =>
      let (d, ret) := d.mapDmaBufAddr file tgid fd answers
      if ret ≠ 0 then (d, efault)
      else if !answers.copied then (d, efault)
      else (d, 0)

/-- `IOCTL_UNMAP_DMA_BUF` and `IOCTL_FREE_IOMMU_ADDR` -/
def unmapDmaBuf (d : Dev) (tgid : ℤ) (param : Option (ℤ × ℕ)) : Dev × ℤ :=
  match param with
  | none => (d, efault)
  | some (fd, addr) => (d.unmapDmaBufAddr tgid false fd addr, 0)

/-- `cedar_quiesce_dma` -/
def quiesceDma (d : Dev) : Dev := { d with resetAsserted := true }

/-- `reset_control_deassert`, where the result is not looked at -/
def resetDeassert (d : Dev) (answer : ℕ) : Dev := if answer = 0 then { d with resetAsserted := false } else d

/-- The labels of `enable_cedar_hw_clk`, from the last one on. -/
def errorState (d : Dev) (res : ℤ) : Dev × ℤ := ({ d with clkStatus := false }, res)

def errorReset (d : Dev) (res : ℤ) : Dev × ℤ := { d with resetAsserted := true }.errorState res

def errorBus (d : Dev) (res : ℤ) : Dev × ℤ := { d with busClk := d.busClk - 1 }.errorReset res

def errorMbus (d : Dev) (res : ℤ) : Dev × ℤ := { d with mbusClk := d.mbusClk - 1 }.errorBus res

/-- `enable_cedar_hw_clk` -/
def enableHwClk (d : Dev) (answers : Answers) : Dev × ℤ :=
  if d.clkStatus then (d, 0)
  else if answers.deassert ≠ 0 then d.errorState (-answers.deassert)
  else
    let d := { d with resetAsserted := false }
    if answers.busClk ≠ 0 then d.errorReset (-answers.busClk)
    else
      let d := { d with busClk := d.busClk + 1 }
      if answers.mbusClk ≠ 0 then d.errorBus (-answers.mbusClk)
      else
        let d := { d with mbusClk := d.mbusClk + 1 }
        if answers.veClk ≠ 0 then d.errorMbus (-answers.veClk)
        else ({ d with veClk := d.veClk + 1, clkStatus := true, list := [] }, 0)

/-- `disable_cedar_hw_clk` -/
def disableHwClk (d : Dev) (tgid : ℤ) : Dev :=
  if !d.clkStatus then d
  else
    let d := { d with clkStatus := false }.quiesceDma
    let d := { d with veClk := d.veClk - 1, mbusClk := d.mbusClk - 1, busClk := d.busClk - 1 }
    d.unmapDmaBufAddr tgid true 0 0

/-- `IOCTL_ENGINE_REQ`; `engine_refs` of the calling file goes in and comes back. -/
def engineReq (refs : ℕ) (d : Dev) (answers : Answers) : (ℕ × Dev) × ℤ :=
  if answers.interrupted then ((refs, d), erestartsys)
  else if d.refCount < 0 then ((refs, d), efault)
  else
    let d := { d with refCount := toInt (d.refCount + 1) }
    if d.refCount = 1 then
      let (d, ret) := d.enableHwClk answers
      if ret < 0 then ((refs, { d with refCount := toInt (d.refCount - 1) }), ret)
      else (((refs + 1) % 2 ^ 32, d), ret)
    else (((refs + 1) % 2 ^ 32, d), 0)

/-- `IOCTL_ENGINE_REL` -/
def engineRel (refs : ℕ) (d : Dev) (tgid : ℤ) (interrupted : Bool) : (ℕ × Dev) × ℤ :=
  if interrupted then ((refs, d), erestartsys)
  else if refs = 0 ∨ d.refCount ≤ 0 then ((refs, d), einval)
  else
    let d := { d with refCount := toInt (d.refCount - 1) }
    if d.refCount < 0 then ((refs - 1, d), efault)
    else if d.refCount = 0 then ((refs - 1, d.disableHwClk tgid), 0)
    else ((refs - 1, d), 0)

/-- What is left of the count when a file with `refs` references closes; the comparison and the subtraction
are unsigned. -/
def refCountAfter (d : Dev) (refs : ℕ) : ℤ :=
  if (refs : ℤ) > toUnsigned d.refCount then 0 else toInt (d.refCount - refs)

/-- The part of `cedardev_release` which drops the references of the file. -/
def dropRefs (d : Dev) (refs : ℕ) (tgid : ℤ) (answer : ℕ) : Dev :=
  if refs = 0 then d
  else
    let d := { d with refCount := d.refCountAfter refs }
    if d.refCount = 0 then d.disableHwClk tgid else d.resetDeassert answer

/-- `IOCTL_SET_REFCOUNT` -/
def setRefcount (d : Dev) (arg : BitVec 64) : Dev := { d with refCount := toInt arg.toNat }

/-- `IOCTL_ENABLE_VE` -/
def enableVe (d : Dev) (answer : ℕ) : Dev := if answer = 0 then { d with veClk := d.veClk + 1 } else d

/-- `IOCTL_DISABLE_VE`; a clock which is not enabled stays so. -/
def disableVe (d : Dev) : Dev := { d with veClk := d.veClk - 1 }

/-- `IOCTL_RESET_VE`; `reset_control_reset` asserts the line and, unless it fails, deasserts it. -/
def resetVe (d : Dev) (answer : ℕ) : Dev := if answer = 0 then { d with resetAsserted := false } else d

end Dev

end H618Vpu.Legacy
