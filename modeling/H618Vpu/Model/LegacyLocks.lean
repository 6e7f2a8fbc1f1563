import H618Vpu.Model.LegacyEngine

/-! # The locks of the legacy driver

User space takes the mutexes of `struct cedar_dev` through a file, whose `lock_flags` note which ones. A
command that has to wait for a mutex is not enabled (`none`). The mutexes also know which file holds them and
every `mutex_unlock` is written down, which the driver does not do.
-/

namespace H618Vpu.Legacy

/-- The mutexes that `lock_flags` speaks of. -/
inductive Lock where
  | vdec
  | venc
  | jdec
  | reg00
  | reg04
  | procInfo
deriving DecidableEq, Repr

namespace Lock

/-- The position of the bit of `VE_LOCK_VDEC` and the others. -/
def bit : Lock → ℕ
  | vdec => 0
  | venc => 1
  | jdec => 2
  | reg00 => 3
  | reg04 => 4
  | procInfo => 12

/-- `VE_LOCK_VDEC` and the others -/
def flag (lock : Lock) : BitVec 32 := BitVec.twoPow 32 lock.bit

/-- The comparisons of `IOCTL_GET_LOCK` and `IOCTL_RELEASE_LOCK`. -/
def ofType (lockType : BitVec 32) : Option Lock :=
  if lockType = flag vdec then some vdec
  else if lockType = flag venc then some venc
  else if lockType = flag jdec then some jdec
  else if lockType = flag reg00 then some reg00
  else if lockType = flag reg04 then some reg04
  else none

/-- The order in which `cedardev_release` looks at the flags. -/
def all : List Lock := [vdec, venc, jdec, reg00, reg04, procInfo]

end Lock

/-- A call of `mutex_unlock`: who makes it and who held the mutex. -/
structure Unlock where
  file : ℕ
  lock : Lock
  holder : Option ℕ
deriving DecidableEq, Repr

/-- The mutexes. -/
structure Locks where
  holder : Lock → Option ℕ := fun _ => none
  unlocks : List Unlock := []

/-- `ve_debug_proc_info`; `buf` says whether `proc_buf` of a channel is set. -/
structure ProcInfo where
  curChannelId : ℕ := 0
  procLen : ℕ → ℕ := fun _ => 0
  procBuf : ℕ → Bool := fun _ => false

/-- `struct VE_PROC_INFO` -/
structure VeProcInfo where
  channelId : ℕ
  procInfoLen : ℕ
deriving DecidableEq, Repr

def maxChannel : ℕ := 16

def bufSize : ℕ := 1024

namespace Locks

/-- `mutex_lock` -/
def lock (l : Locks) (file : ℕ) (lock : Lock) : Option Locks :=
  if l.holder lock = none then some { l with holder := Function.update l.holder lock (some file) } else none

/-- `mutex_unlock` -/
def unlock (l : Locks) (file : ℕ) (lock : Lock) : Locks where
  holder := Function.update l.holder lock none
  unlocks := ⟨file, lock, l.holder lock⟩ :: l.unlocks

/-- `IOCTL_GET_LOCK` -/
def getLock (flags : BitVec 32) (l : Locks) (file : ℕ) (arg : BitVec 64) : Option ((BitVec 32 × Locks) × ℤ) :=
  let lockType := arg.setWidth 32
  let locked :=
    match Lock.ofType lockType with
    | some lock => l.lock file lock
    | none => some l
  locked.map fun l => ((flags ||| lockType, l), 0)

/-- `IOCTL_RELEASE_LOCK` -/
def releaseLock (flags : BitVec 32) (l : Locks) (file : ℕ) (arg : BitVec 64) : (BitVec 32 × Locks) × ℤ :=
  let lockType := arg.setWidth 32
  if flags &&& lockType = 0 then ((flags, l), -1)
  else
    match Lock.ofType lockType with
    | some lock => ((flags &&& ~~~lockType, l.unlock file lock), 0)
    | none => ((flags &&& ~~~lockType, l), 0)

/-- `IOCTL_SET_PROC_INFO`; it keeps `lock_proc` when it succeeds. -/
def setProcInfo (flags : BitVec 32) (l : Locks) (proc : ProcInfo) (file : ℕ) (debugRoot : Bool)
    (param : Option VeProcInfo) : Option ((BitVec 32 × Locks × ProcInfo) × ℤ) :=
  if !debugRoot then some ((flags, l, proc), 0)
  else
    (l.lock file .procInfo).map fun l =>
      match param with
      | none => ((flags, l.unlock file .procInfo, proc), efault)
      | some info =>
          if info.channelId ≥ maxChannel then ((flags, l.unlock file .procInfo, proc), efault)
          else if info.procInfoLen = 0 ∨ info.procInfoLen > bufSize then
            ((flags, l.unlock file .procInfo, proc), einval)
          else
            ((flags ||| Lock.procInfo.flag, l,
              { curChannelId := info.channelId
                procLen := Function.update proc.procLen info.channelId info.procInfoLen
                procBuf := Function.update proc.procBuf info.channelId true }), 0)

/-- `IOCTL_COPY_PROC_INFO` -/
def copyProcInfo (flags : BitVec 32) (l : Locks) (proc : ProcInfo) (file : ℕ) (debugRoot copied : Bool) :
    (BitVec 32 × Locks) × ℤ :=
  if !debugRoot then ((flags, l), 0)
  else
    let flags := flags &&& ~~~Lock.procInfo.flag
    let channelId := proc.curChannelId
    if channelId ≥ maxChannel ∨ !proc.procBuf channelId ∨ proc.procLen channelId = 0 ∨
        proc.procLen channelId > bufSize then
      ((flags, l.unlock file .procInfo), einval)
    else if !copied then ((flags, l.unlock file .procInfo), efault)
    else ((flags, l.unlock file .procInfo), 0)

/-- `IOCTL_STOP_PROC_INFO` -/
def stopProcInfo (l : Locks) (proc : ProcInfo) (file : ℕ) (debugRoot : Bool) (arg : BitVec 64) :
    Option ((Locks × ProcInfo) × ℤ) :=
  if !debugRoot then some ((l, proc), 0)
  else if arg.toNat ≥ maxChannel then some ((l, proc), einval)
  else
    (l.lock file .procInfo).map fun l =>
      ((l.unlock file .procInfo,
        { proc with
          procLen := Function.update proc.procLen arg.toNat 0
          procBuf := Function.update proc.procBuf arg.toNat false }), 0)

/-- The part of `cedardev_release` which unlocks what the flags say. -/
def releaseLost (flags : BitVec 32) (file : ℕ) : List Lock → Locks → Locks
  | [], l => l
  | lock :: rest, l => releaseLost flags file rest (if flags &&& lock.flag ≠ 0 then l.unlock file lock else l)

end Locks

end H618Vpu.Legacy
