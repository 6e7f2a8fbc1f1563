import H618Vpu.Machine.Ledger

/-! # Opening a video node

`cedrus_proc_open`, `cedrus_context_setup` and `cedrus_context_ctrls_setup` with their error labels, and the release of
the node for comparison. Every allocation and registration is answered as the kernel likes; a code that is not zero is
an error. The formats of a new context are in the model of the queues, here only the outcome of their setup counts.
-/

namespace H618Vpu.OpenFile

open Machine

/-- What a file holds after its node was opened. The controls belong to the handler. -/
inductive Resource where
  | context
  | fileHandle
  | m2mCtx
  | ctrls
  | ctrlHandler
  | ctrl (index : ℕ)
  | fileHandleAdded
deriving DecidableEq, Repr

def enomem : ℤ := -12
def enodev : ℤ := -19
def erestartsys : ℤ := -512

/-- What the kernel answers; `newCustom` is the error of the handler after the control of that number. -/
structure Answers where
  lockInterrupted : Bool := false
  contextAlloc : Bool := true
  m2mCtxInit : ℤ := 0
  ctrlsAlloc : Bool := true
  handlerInit : ℤ := 0
  newCustom : ℕ → ℤ := fun _ => 0
  handlerSetup : ℤ := 0
  formatSetup : ℤ := 0

/-- The lock of the node, the file and the context; `index` counts the controls in the handler. -/
structure State where
  locked : Bool := false
  privateData : Bool := false
  index : ℕ := 0
  ledger : Ledger Resource := {}

namespace State

def acquire (s : State) (resource : Resource) : State := { s with ledger := s.ledger.acquire resource }

def release (s : State) (resources : List Resource) : State := { s with ledger := s.ledger.release resources }

/-- `v4l2_ctrl_handler_free`, with the controls of the handler. -/
def ctrlHandlerFree (s : State) : State := s.release (.ctrlHandler :: (List.range s.index).map .ctrl)

/-- The loop over the configurations of an engine. -/
def engineCtrls (answers : Answers) : ℕ → State → ℤ × State
  | 0, s => (0, s)
  | configs + 1, s =>
      if answers.newCustom s.index ≠ 0 then (answers.newCustom s.index, s)
      else engineCtrls answers configs { s.acquire (.ctrl s.index) with index := s.index + 1 }

/-- The loop over the engines, each given by its `ctrl_configs_count`. -/
def procCtrls (answers : Answers) : List ℕ → State → ℤ × State
  | [], s => (0, s)
  | configs :: engines, s =>
      let (ret, s) := engineCtrls answers configs s
      if ret ≠ 0 then (ret, s) else procCtrls answers engines s

/-- `cedrus_context_ctrls_setup` -/
def ctrlsSetup (answers : Answers) (engines : List ℕ) (s : State) : ℤ × State :=
  if engines.sum = 0 then (enodev, s)
  else if !answers.ctrlsAlloc then (enomem, s)
  else
    let s := s.acquire .ctrls
    if answers.handlerInit ≠ 0 then (answers.handlerInit, s.release [.ctrls])
    else
      let (ret, s) := procCtrls answers engines { s.acquire .ctrlHandler with index := 0 }
      if ret ≠ 0 then (ret, s.ctrlHandlerFree.release [.ctrls])
      else if answers.handlerSetup ≠ 0 then (answers.handlerSetup, s.ctrlHandlerFree.release [.ctrls])
      else (0, s)

/-- `cedrus_context_ctrls_cleanup` -/
def ctrlsCleanup (s : State) : State := s.ctrlHandlerFree.release [.ctrls]

/-- `cedrus_context_setup` -/
def contextSetup (answers : Answers) (engines : List ℕ) (s : State) : ℤ × State :=
  let s := s.acquire .fileHandle
  if answers.m2mCtxInit ≠ 0 then (answers.m2mCtxInit, s)
  else
    let (ret, s) := (s.acquire .m2mCtx).ctrlsSetup answers engines
    if ret ≠ 0 then (ret, s.release [.m2mCtx])
    else if answers.formatSetup ≠ 0 then (answers.formatSetup, s.ctrlsCleanup.release [.m2mCtx])
    else (0, s.acquire .fileHandleAdded)

/-- `cedrus_context_cleanup` -/
def contextCleanup (s : State) : State :=
  (((s.release [.fileHandleAdded]).ctrlsCleanup).release [.m2mCtx]).release [.fileHandle]

/-- `cedrus_proc_release` -/
def procRelease (s : State) : State := { s.contextCleanup.release [.context] with locked := false }

end State

/-- `cedrus_proc_open` of a node with these engines. -/
def procOpen (answers : Answers) (engines : List ℕ) : ℤ × State :=
  if answers.lockInterrupted then (erestartsys, {})
  else
    let s : State := { locked := true }
    if !answers.contextAlloc then (enomem, { s with locked := false })
    else
      let s := { s.acquire .context with privateData := true }
      let (ret, s) := s.contextSetup answers engines
      (ret, { s with locked := false })

end H618Vpu.OpenFile
