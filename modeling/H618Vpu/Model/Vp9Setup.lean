import H618Vpu.Math.Align

/-! # The working buffers of a VP9 context

`cedrus_dec_vp9_setup` and `cedrus_dec_vp9_cleanup` with their caller
`cedrus_context_start_streaming`. The DMA allocator answers each request as it likes and keeps a
ledger of what it handed out and got back. The contents of the buffers after a successful setup are
`Store.initial`; here only their ownership counts.
-/

namespace H618Vpu.Vp9

open Math

/-- `-ENOMEM` and `-EOVERFLOW`. -/
def enomem : ℤ := -12
def eoverflow : ℤ := -75

/-- The build the driver runs on: the width of `size_t` in bits and the page size. -/
structure Platform where
  sizeBits : ℕ
  pageSize : ℕ

/-- A coherent buffer: its number and the size it was requested with. -/
structure Allocation where
  buffer : ℕ
  size : ℕ
deriving DecidableEq, Repr

/-- The allocator; `answers n` tells whether the request number `n` succeeds. -/
structure Dma where
  answers : ℕ → Bool
  requests : ℕ := 0
  allocated : List Allocation := []
  freed : List Allocation := []

def Dma.allocCoherent (dma : Dma) (size : ℕ) : Option ℕ × Dma :=
  if dma.answers dma.requests then
    (some dma.requests,
      { dma with requests := dma.requests + 1, allocated := ⟨dma.requests, size⟩ :: dma.allocated })
  else (none, { dma with requests := dma.requests + 1 })

/-- The `if (pointer) dma_free_coherent(...)` of the cleanup. -/
def Dma.freeCoherent (dma : Dma) (size : ℕ) : Option ℕ → Dma
  | some buffer => { dma with freed := ⟨buffer, size⟩ :: dma.freed }
  | none => dma

/-- The pointers and sizes of `struct cedrus_dec_vp9_context`. -/
structure Memory where
  mvCol : Option ℕ := none
  probCount : Option ℕ := none
  entryInfo : Option ℕ := none
  segmentMap0 : Option ℕ := none
  segmentMap1 : Option ℕ := none
  mvColSize : ℕ := 0
  segmentMapSize : ℕ := 0
deriving DecidableEq, Repr

def Memory.pointers (memory : Memory) : List (Option ℕ) :=
  [memory.mvCol, memory.probCount, memory.entryInfo, memory.segmentMap0, memory.segmentMap1]

structure Working where
  memory : Memory := {}
  dma : Dma

def probCountSize : ℕ := 0x88000
def entryInfoSize : ℕ := 0x1f4000

/-- `check_mul_overflow` on `size_t`. -/
def Platform.mul (platform : Platform) (a b : ℕ) : Option ℕ :=
  if a * b < 2 ^ platform.sizeBits then some (a * b) else none

/-- `check_add_overflow` on `size_t`. -/
def Platform.add (platform : Platform) (a b : ℕ) : Option ℕ :=
  if a + b < 2 ^ platform.sizeBits then some (a + b) else none

/-- `DIV_ROUND_UP` on `unsigned int`, where the addition wraps. -/
def divRoundUp32 (n d : UInt32) : UInt32 := (n + d - 1) / d

/-- `cedrus_dec_vp9_mv_col_size`, with `PAGE_ALIGN` wrapping in `size_t`. -/
def mvColSize (platform : Platform) (width height : UInt32) : Option ℕ :=
  let rows := (15 + divRoundUp32 height 8) >>> 3
  let cols := (15 + divRoundUp32 width 8) >>> 3
  match platform.mul rows.toNat cols.toNat with
  | none => none
  | some blocks =>
    match platform.mul blocks (5 * 128) with
    | none => none
    | some bytes =>
      match platform.add bytes 0x4000 with
      | none => none
      | some bytes => some (align bytes platform.pageSize % 2 ^ platform.sizeBits)

/-- The size of a segment map: 32 bytes for each superblock. -/
def segmentMapSize (platform : Platform) (width height : UInt32) : Option ℕ :=
  match platform.mul (divRoundUp32 width 64).toNat (divRoundUp32 height 64).toNat with
  | none => none
  | some superblocks => platform.mul superblocks 32

/-- `cedrus_dec_vp9_cleanup`. -/
def Working.cleanup (s : Working) : Working :=
  let memory := s.memory
  let dma := s.dma.freeCoherent memory.segmentMapSize memory.segmentMap0
  let dma := dma.freeCoherent memory.segmentMapSize memory.segmentMap1
  let dma := dma.freeCoherent entryInfoSize memory.entryInfo
  let dma := dma.freeCoherent probCountSize memory.probCount
  let dma := dma.freeCoherent memory.mvColSize memory.mvCol
  { memory := {}, dma }

/-- One `dma_alloc_coherent`, its result stored by `assign`. -/
def Working.alloc (s : Working) (size : ℕ) (assign : Memory → Option ℕ → Memory) : Working :=
  let (pointer, dma) := s.dma.allocCoherent size
  { memory := assign s.memory pointer, dma }

/-- `cedrus_dec_vp9_setup`: the returned code and the context afterwards. -/
def Working.setup (s : Working) (platform : Platform) (width height : UInt32) : ℤ × Working :=
  match mvColSize platform width height with
  | none => (eoverflow, s)
  | some mvColSize =>
    -- `ret` holds the success of `cedrus_dec_vp9_mv_col_size` from here on
    let ret : ℤ := 0
    let s := { s with memory := { s.memory with mvColSize } }.alloc mvColSize fun memory pointer =>
      { memory with mvCol := pointer }
    if s.memory.mvCol = none then (enomem, s)
    else
      let s := s.alloc probCountSize fun memory pointer => { memory with probCount := pointer }
      if s.memory.probCount = none then (ret, s.cleanup)
      else
        let s := s.alloc entryInfoSize fun memory pointer => { memory with entryInfo := pointer }
        if s.memory.entryInfo = none then (ret, s.cleanup)
        else
          match segmentMapSize platform width height with
          | none => (eoverflow, s.cleanup)
          | some segmentMapSize =>
            let s := { s with memory := { s.memory with segmentMapSize } }.alloc segmentMapSize
              fun memory pointer => { memory with segmentMap0 := pointer }
            if s.memory.segmentMap0 = none then (ret, s.cleanup)
            else
              let s := s.alloc segmentMapSize fun memory pointer => { memory with segmentMap1 := pointer }
              if s.memory.segmentMap1 = none then (ret, s.cleanup) else (0, s)

/-- What `cedrus_context_start_streaming` leaves: its result, and the engine context when it is still
allocated. -/
structure Started where
  ret : ℤ
  engineCtx : Option Memory
  dma : Dma

/-- `cedrus_context_start_streaming` on the coded queue of a VP9 context; `pm` is what
`pm_runtime_resume_and_get` returns, `ctxAlloc` and `jobAlloc` are the two `kzalloc` answers. -/
def startStreaming (platform : Platform) (width height : UInt32) (pm : ℤ) (ctxAlloc jobAlloc : Bool) (dma : Dma) :
    Started :=
  if pm ≠ 0 then ⟨pm, none, dma⟩
  else if !ctxAlloc then ⟨enomem, none, dma⟩
  else if !jobAlloc then ⟨enomem, none, dma⟩
  else
    let (ret, s) := Working.setup { dma } platform width height
    if ret ≠ 0 then ⟨ret, none, s.dma⟩ else ⟨0, some s.memory, s.dma⟩

end H618Vpu.Vp9
