import H618Vpu.Model.LegacyCoherent
import H618Vpu.Model.LegacyLocks

/-! # The legacy driver

All open files of `cedar_ve.c` with the device, the mutexes and the user mappings they share. An event is one
complete call, with the process that makes it where the driver asks for `current->tgid`. A file is released
when no user mapping of it is left.
-/

namespace H618Vpu.Legacy

/-- `struct ve_info` -/
structure VeInfo where
  engineRefs : ℕ := 0
  lockFlags : BitVec 32 := 0
  coherent : Coherent := {}
deriving DecidableEq, Repr

structure State where
  files : Finset ℕ := ∅
  info : ℕ → VeInfo := fun _ => {}
  dev : Dev := {}
  locks : Locks := {}
  proc : ProcInfo := {}
  /-- `debug_root` is not `NULL`. -/
  debugRoot : Bool := true
  pages : List UserPage := []

/-- The commands of `compat_cedardev_ioctl`, and `mmap`; `other` is a command of the `switch` which touches none
of this, or a command that is not in the `switch`. -/
inductive Command where
  | engineReq (answers : Answers)
  | engineRel (interrupted : Bool)
  | enableVe (answer : ℕ)
  | disableVe
  | resetVe (answer : ℕ)
  | setRefcount (arg : BitVec 64)
  | getLock (arg : BitVec 64)
  | releaseLock (arg : BitVec 64)
  | setProcInfo (param : Option VeProcInfo)
  | copyProcInfo (copied : Bool)
  | stopProcInfo (arg : BitVec 64)
  | mapDmaBuf (answers : Dev.MapAnswers)
  | unmapDmaBuf (param : Option (ℤ × ℕ))
  | allocCoherent (answers : AllocAnswers)
  | freeCoherent (request : Option ℕ) (answer : ℕ)
  | mmap (vma : Vma) (answer : ℕ)
  | other (cmd : BitVec 32) (arg : BitVec 64)

/-- A call: on an open file by a thread of the process `tgid`, or one of those which have no open file. -/
inductive Event where
  | opened (file : ℕ) (allocated interrupted : Bool)
  | call (file : ℕ) (tgid : ℤ) (command : Command)
  | munmap (mm start length : ℕ)
  | release (file : ℕ) (tgid : ℤ) (answer : ℕ)

namespace State

/-- The driver after its probe. -/
def initial (debugRoot : Bool) : State := { debugRoot := debugRoot }

def setInfo (s : State) (file : ℕ) (info : VeInfo) : State := { s with info := Function.update s.info file info }

/-- `cedardev_open` -/
def opened (s : State) (file : ℕ) (allocated interrupted : Bool) : State × ℤ :=
  if !allocated then (s, enomem)
  else if interrupted then (s, erestartsys)
  else ({ s with files := insert file s.files }.setInfo file {}, 0)

/-- `cedardev_release`; the engine is reset first if the file may have left it running. -/
def release (s : State) (file : ℕ) (tgid : ℤ) (answer : ℕ) : State :=
  let info := s.info file
  let dev :=
    if info.engineRefs ≠ 0 ∨ info.lockFlags ≠ 0 ∨ info.coherent.buffers ≠ [] then s.dev.quiesceDma else s.dev
  let dev := dev.unmapDmaBufAddr tgid true 0 0
  let locks := s.locks.releaseLost info.lockFlags file Lock.all
  let dev := dev.dropRefs info.engineRefs tgid answer
  { s with files := s.files.erase file, dev := dev, locks := locks }.setInfo file {}

/-- A page of the range `[start, start + length)` of the address space `mm`. -/
def inRange (mm start length : ℕ) (page : UserPage) : Bool :=
  page.mm = mm ∧ start ≤ page.va ∧ page.va < start + length

/-- A call on an open file. -/
def call (s : State) (file : ℕ) (tgid : ℤ) (command : Command) : Option State :=
  let info := s.info file
  match command with
  | .engineReq answers =>
      let ((refs, dev), _) := Dev.engineReq info.engineRefs s.dev answers
      some ({ s with dev := dev }.setInfo file { info with engineRefs := refs })
  | .engineRel interrupted =>
      let ((refs, dev), _) := Dev.engineRel info.engineRefs s.dev tgid interrupted
      some ({ s with dev := dev }.setInfo file { info with engineRefs := refs })
  | .enableVe answer => some { s with dev := s.dev.enableVe answer }
  | .disableVe => some { s with dev := s.dev.disableVe }
  | .resetVe answer => some { s with dev := s.dev.resetVe answer }
  | .setRefcount arg => some { s with dev := s.dev.setRefcount arg }
  | .getLock arg =>
      (s.locks.getLock info.lockFlags file arg).map fun ((flags, locks), _) =>
        { s with locks := locks }.setInfo file { info with lockFlags := flags }
  | .releaseLock arg =>
      let ((flags, locks), _) := s.locks.releaseLock info.lockFlags file arg
      some ({ s with locks := locks }.setInfo file { info with lockFlags := flags })
  | .setProcInfo param =>
      (s.locks.setProcInfo info.lockFlags s.proc file s.debugRoot param).map fun ((flags, locks, proc), _) =>
        { s with locks := locks, proc := proc }.setInfo file { info with lockFlags := flags }
  | .copyProcInfo copied =>
      let ((flags, locks), _) := s.locks.copyProcInfo info.lockFlags s.proc file s.debugRoot copied
      some ({ s with locks := locks }.setInfo file { info with lockFlags := flags })
  | .stopProcInfo arg =>
      (s.locks.stopProcInfo s.proc file s.debugRoot arg).map fun ((locks, proc), _) =>
        { s with locks := locks, proc := proc }
  | .mapDmaBuf answers => some { s with dev := (s.dev.mapDmaBuf file tgid answers).1 }
  | .unmapDmaBuf param => some { s with dev := (s.dev.unmapDmaBuf tgid param).1 }
  | .allocCoherent answers => some (s.setInfo file { info with coherent := (info.coherent.alloc answers).1 })
  | .freeCoherent request answer =>
      let ((coherent, dev), _) := info.coherent.free s.dev info.engineRefs request answer
      some ({ s with dev := dev }.setInfo file { info with coherent := coherent })
  | .mmap vma answer => some { s with pages := s.pages ++ (Legacy.mmap info.coherent file vma answer).1 }
  | .other _ _ => some s

end State

/-- One call. -/
def step (s : State) : Event → Option State
  | .opened file allocated interrupted =>
      if file ∈ s.files then none else some (s.opened file allocated interrupted).1
  | .call file tgid command => if file ∈ s.files then s.call file tgid command else none
  | .munmap mm start length => some { s with pages := s.pages.filter fun page => !State.inRange mm start length page }
  | .release file tgid answer =>
      if file ∈ s.files ∧ ∀ page ∈ s.pages, page.file ≠ file then some (s.release file tgid answer) else none

end H618Vpu.Legacy
