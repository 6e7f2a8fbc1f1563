import H618Vpu.Model.Streaming

/-! # Power for the files of a device

`cedrus.c`, with `cedrus_context_start_streaming` and `cedrus_context_stop_streaming` of every open file. A file has the
device in use from the start of its coded queue on. Runtime PM resumes a suspended device for a user; some time after
the last user has gone it suspends it again.
-/

namespace H618Vpu.Power

open Formats (BufferType Proc)
open Streaming

/-- How often each clock is enabled, and the reset line. -/
structure Lines where
  clockAhb : ℤ := 0
  clockMod : ℤ := 0
  clockRam : ℤ := 0
  resetAsserted : Bool
deriving DecidableEq, Repr

/-- What a resume meets: runtime PM may refuse it, as after an error it has kept, and then
`reset_control_reset` and `clk_prepare_enable` answer for each clock. -/
structure ResumeAnswers where
  core : ℤ := 0
  reset : ℤ := 0
  clockAhb : ℤ := 0
  clockMod : ℤ := 0
  clockRam : ℤ := 0
deriving DecidableEq, Repr

namespace Lines

/-- `cedrus_suspend` -/
def suspend (lines : Lines) : Lines where
  clockRam := lines.clockRam - 1
  clockMod := lines.clockMod - 1
  clockAhb := lines.clockAhb - 1
  resetAsserted := true

/-- The labels of `cedrus_resume`, from the last one on. -/
def errorReset (lines : Lines) (ret : ℤ) : Lines × ℤ := ({ lines with resetAsserted := true }, ret)

def errorClockAhb (lines : Lines) (ret : ℤ) : Lines × ℤ :=
  { lines with clockAhb := lines.clockAhb - 1 }.errorReset ret

def errorClockMod (lines : Lines) (ret : ℤ) : Lines × ℤ :=
  { lines with clockMod := lines.clockMod - 1 }.errorClockAhb ret

/-- `cedrus_resume` -/
def resume (lines : Lines) (answers : ResumeAnswers) : Lines × ℤ :=
  if answers.reset ≠ 0 then (lines, answers.reset)
  else
    let lines := { lines with resetAsserted := false }
    if answers.clockAhb ≠ 0 then lines.errorReset answers.clockAhb
    else
      let lines := { lines with clockAhb := lines.clockAhb + 1 }
      if answers.clockMod ≠ 0 then lines.errorClockAhb answers.clockMod
      else
        let lines := { lines with clockMod := lines.clockMod + 1 }
        if answers.clockRam ≠ 0 then lines.errorClockMod answers.clockRam
        else ({ lines with clockRam := lines.clockRam + 1 }, 0)

end Lines

/-- The device with its open files. `opened` counts the files that were ever opened, and `left` is what closed files
still contribute to the usage count. -/
structure Device where
  lines : Lines
  /-- `RPM_ACTIVE`, and otherwise `RPM_SUSPENDED` -/
  active : Bool := false
  opened : ℕ := 0
  file : ℕ → Option State := fun _ => none
  left : ℤ := 0

namespace Device

def contribution (dev : Device) (number : ℕ) : ℤ :=
  match dev.file number with
  | none => 0
  | some s => s.pmUsage

/-- The usage count of runtime PM. -/
def usage (dev : Device) : ℤ := dev.left + ((List.range dev.opened).map dev.contribution).sum

def setFile (dev : Device) (number : ℕ) (file : Option State) : Device :=
  { dev with file := Function.update dev.file number file }

/-- `pm_runtime_resume_and_get`, as far as the device is concerned. -/
def resumeAndGet (dev : Device) (answers : ResumeAnswers) : Device × ℤ :=
  if answers.core ≠ 0 then (dev, answers.core)
  else if dev.active then (dev, 0)
  else
    let (lines, ret) := dev.lines.resume answers
    ({ dev with lines, active := ret = 0 }, ret)

end Device

/-- The file asks for power when it starts to stream. -/
def asksPower (s : State) (type : BufferType) : Bool :=
  (s.queue type).slots ≠ 0 ∧ !(s.queue type).streaming ∧ s.proc.formatType type = .coded

inductive Event where
  | openFile (proc : Proc)
  | file (number : ℕ) (event : Streaming.Event) (answers : ResumeAnswers)
  | close (number : ℕ)
  /-- Runtime PM finds the device idle. -/
  | idle

/-- A step of a file, with the answer of the resume in it. -/
def fileStep (dev : Device) (number : ℕ) (s : State) (answers : ResumeAnswers) : Streaming.Event → Option Device
  | .streamOn type started =>
      if asksPower s type then
        let (dev, resume) := dev.resumeAndGet answers
        some (dev.setFile number (some (s.streamOn type { started with resume })))
      else some (dev.setFile number (some (s.streamOn type started)))
  | event => (Streaming.step s event).map fun next => dev.setFile number (some next)

/-- `v4l2_m2m_ctx_release` releases both queues. -/
def release (s : State) : State := (s.queueCancel .capture).queueCancel .output

def step (dev : Device) : Event → Option Device
  | .openFile proc =>
      some { dev.setFile dev.opened (some (State.opened proc)) with opened := dev.opened + 1 }
  | .file number event answers => (dev.file number).bind fun s => fileStep dev number s answers event
  | .close number =>
      (dev.file number).map fun s => { dev.setFile number none with left := dev.left + (release s).pmUsage }
  | .idle =>
      if dev.usage = 0 ∧ dev.active then some { dev with lines := dev.lines.suspend, active := false } else some dev

end H618Vpu.Power
