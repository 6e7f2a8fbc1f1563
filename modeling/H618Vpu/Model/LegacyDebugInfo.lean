import H618Vpu.Model.LegacyCoherent

/-! # The debug information of the legacy driver

`IOCTL_PROC_INFO_COPY` and `IOCTL_PROC_INFO_STOP` of `compat_cedardev_ioctl`, and the file that shows the table. The
table is under a mutex, but the index of the request in progress is a field of the device that every request sets to -1
before it takes the mutex. So a request is cut where it reads that index. What the requests returned is written down
with the table before and after, which the driver does not do.
-/

namespace H618Vpu.Legacy.DebugInfo

/-- `struct debug_head_info` -/
structure HeadInfo where
  pid : UInt32 := 0
  tid : UInt32 := 0
  length : UInt32 := 0
deriving DecidableEq, Repr

/-- A byte of kernel memory by where it comes from: a faulting `copy_from_user` pads with zeroes. -/
inductive Cell where
  | uninitialised
  | padding
  | user (byte : UInt8)
deriving DecidableEq, Repr

/-- `struct ve_debug_info` -/
structure Info where
  headInfo : HeadInfo := {}
  data : Option (List Cell) := none
deriving DecidableEq, Repr

/-- `debug_info` with its `MAX_VE_DEBUG_INFO_NUM` entries. -/
abbrev Table := Fin 16 → Info

def sz1M : ℕ := 0x100000

/-- The first entry with these ids. -/
def Table.find (table : Table) (pid tid : UInt32) : Option (Fin 16) :=
  (List.finRange 16).find? fun i => (table i).headInfo.pid = pid ∧ (table i).headInfo.tid = tid

/-- A request that has the mutex: the entry it chose, the table when it took the mutex, and whether it has seen that the
index of the device is not negative. -/
structure Pending where
  slot : Option (Fin 16)
  before : Table
  checked : Bool := false

/-- What a copy request returned. -/
structure Call where
  ret : ℤ
  before : Table
  after : Table

/-- The part of `struct cedar_dev` for the debug information, with `none` for an index of -1, and the requests that wait
for the mutex. -/
structure State where
  table : Table := fun _ => {}
  curIndex : Option (Fin 16) := some 0
  waiting : List HeadInfo := []
  holder : Option Pending := none
  corrupt : Bool := false
  calls : List Call := []

/-- `vmalloc` -/
def vmalloc (size : ℕ) : List Cell := List.replicate size .uninitialised

/-- `copy_from_user` to a whole buffer, of which so many bytes can be read. -/
def copyFromUser (buffer : List Cell) (memory : ℕ → UInt8) (readable : ℕ) : List Cell :=
  buffer.mapIdx fun k _ => if k < readable then .user (memory k) else .padding

namespace State

def done (s : State) (ret : ℤ) (before : Table) : State := { s with calls := ⟨ret, before, s.table⟩ :: s.calls }

def set (s : State) (i : Fin 16) (info : Info) : State := { s with table := Function.update s.table i info }

/-- A request up to the mutex; the header is none when it cannot be copied. -/
def enter (s : State) (headInfo : Option HeadInfo) : State :=
  let s := { s with curIndex := none }
  match headInfo with
  | none => s.done efault s.table
  | some headInfo =>
      if headInfo.length = 0 ∨ headInfo.length.toNat > sz1M then s.done einval s.table
      else { s with waiting := s.waiting ++ [headInfo] }

/-- The choice of an entry, and its new header. -/
def select (s : State) (headInfo : HeadInfo) : State :=
  match s.table.find headInfo.pid headInfo.tid with
  | some i =>
      let info := s.table i
      { s.set i { info with headInfo := { info.headInfo with length := headInfo.length } } with
        curIndex := some i
        holder := some { slot := some i, before := s.table } }
  | none =>
      match s.table.find 0 0 with
      | some i =>
          { s.set i { s.table i with headInfo } with
            curIndex := some i
            holder := some { slot := some i, before := s.table } }
      | none => { s with holder := some { slot := none, before := s.table } }

/-- The check that an entry was chosen. -/
def check (s : State) (pending : Pending) : State :=
  match s.curIndex with
  | none => { s.done efault pending.before with holder := none }
  | some _ => { s with holder := some { pending with checked := true } }

/-- The new data of the entry; what happens at index -1 is not described. -/
def fill (s : State) (pending : Pending) (allocated : Bool) (memory : ℕ → UInt8) (readable : ℕ) : State :=
  match s.curIndex with
  | none => { s with corrupt := true, holder := none }
  | some i =>
      let info := s.table i
      let length := info.headInfo.length.toNat
      if !allocated then { (s.set i { info with data := none }).done efault pending.before with holder := none }
      else
        let data := copyFromUser (vmalloc length) memory readable
        let ret := if readable < length then efault else 0
        { (s.set i { info with data := some data }).done ret pending.before with holder := none }

/-- `IOCTL_PROC_INFO_STOP` -/
def stop (s : State) (headInfo : Option HeadInfo) : State :=
  match headInfo with
  | none => s
  | some headInfo =>
      match s.table.find headInfo.pid headInfo.tid with
      | none => s
      | some i => s.set i {}

end State

inductive Event where
  | enter (headInfo : Option HeadInfo)
  | lock (n : ℕ)
  | check
  | fill (allocated : Bool) (memory : ℕ → UInt8) (readable : ℕ)
  | stop (headInfo : Option HeadInfo)

/-- One section; `none` when the mutex is not free, it is not the turn of the section, or memory is corrupt. -/
def step (s : State) (event : Event) : Option State :=
  if s.corrupt then none
  else
    match event with
    | .enter headInfo => some (s.enter headInfo)
    | .lock n =>
        match s.holder, s.waiting[n]? with
        | none, some headInfo => some ({ s with waiting := s.waiting.eraseIdx n }.select headInfo)
        | _, _ => none
    | .check =>
        match s.holder with
        | some pending => if pending.checked then none else some (s.check pending)
        | none => none
    | .fill allocated memory readable =>
        match s.holder with
        | some pending => if pending.checked then some (s.fill pending allocated memory readable) else none
        | none => none
    | .stop headInfo =>
        match s.holder with
        | none => some (s.stop headInfo)
        | some _ => none

/-- The line before the entries. -/
def title : String := "********* ve proc info **********\n"

/-- `memcpy` from a buffer, with what lies behind its end. -/
def memcpy (data : List Cell) (size : ℕ) : List Cell := (List.range size).map fun k => data.getD k .uninitialised

/-- The loop of `ve_info_show` over the rest of the table, with `count` bytes in the page. -/
def showEntries (table : Table) : List (Fin 16) → ℕ → List Cell
  | [], _ => []
  | i :: rest, count =>
      let headInfo := (table i).headInfo
      if headInfo.pid ≠ 0 ∧ headInfo.tid ≠ 0 then
        match (table i).data with
        | none => []
        | some data =>
            if headInfo.length.toNat > pageSize - count then []
            else memcpy data headInfo.length.toNat ++ showEntries table rest (count + headInfo.length.toNat)
      else showEntries table rest count

/-- `ve_info_show` after its first line. -/
def veInfoShow (table : Table) : List Cell := showEntries table (List.finRange 16) title.length

end H618Vpu.Legacy.DebugInfo
