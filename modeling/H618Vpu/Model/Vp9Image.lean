import H618Vpu.Bytes.Layout
import H618Vpu.Model.Vp9Controls

/-! # The VP9 probability image

`cedrus_vp9_pack_probs` of the driver, as the writes it makes through its running pointer, and the
two functions of `h618-vp9-probs.py` that convert between the image and a frame context serialised
in the order of its C structure.
-/

namespace H618Vpu.Vp9

open Bytes

/-- The parts of `struct v4l2_vp9_segmentation` that only the program of a frame reads. -/
structure SegmentationData where
  treeProbs : Fin 7 → UInt8
  predProbs : Fin 3 → UInt8
  featureData : Fin 8 → Fin 4 → Int16
  featureEnabled : Fin 8 → Fin 4 → Bool
  absOrDeltaUpdate : Bool

/-- `struct v4l2_vp9_segmentation`. -/
structure SegmentationParams extends Segmentation, SegmentationData

/-- `CEDRUS_DEC_VP9_PROBS_SIZE`. -/
def probsSize : ℕ := 0xafc

/-- The pointer `dst`, as an offset from `base`, and the writes made so far. -/
structure PackCursor where
  dst : ℕ
  writes : List (Patch UInt8)

namespace PackCursor

/-- `memcpy(dst, src, …); dst += advance`. -/
def copy (cursor : PackCursor) (src : List UInt8) (advance : ℕ) : PackCursor :=
  ⟨cursor.dst + advance, cursor.writes ++ [⟨cursor.dst, src⟩]⟩

/-- `cedrus_vp9_pack_word`. -/
def packWord (cursor : PackCursor) (src : List UInt8) : PackCursor := cursor.copy src 4

/-- A loop of `cedrus_vp9_pack_word` over the rows of an array. -/
def packWords {m n : ℕ} (cursor : PackCursor) (src : Fin m → Fin n → UInt8) : PackCursor :=
  (List.finRange m).foldl (fun cursor i => cursor.packWord (List.ofFn (src i))) cursor

/-- The five loops over the coefficient probabilities. -/
def packCoefs (cursor : PackCursor) (coef : Fin 4 → Fin 2 → Fin 2 → Fin 6 → Fin 6 → Fin 3 → UInt8) : PackCursor :=
  (List.finRange 4).foldl (fun cursor i => (List.finRange 2).foldl (fun cursor j =>
    (List.finRange 2).foldl (fun cursor k => (List.finRange 6).foldl (fun cursor l =>
      cursor.packWords (coef i j k l)) cursor) cursor) cursor) cursor

/-- `memcpy(dst, src[i], sizeof(src[i])); dst += 16` over the rows of an array. -/
def packModes {m n : ℕ} (cursor : PackCursor) (src : Fin m → Fin n → UInt8) : PackCursor :=
  (List.finRange m).foldl (fun cursor i => cursor.copy (List.ofFn (src i)) 16) cursor

end PackCursor

/-- The part of `cedrus_vp9_pack_probs` that advances `dst`. -/
def packWordImage (p : FrameContext) : PackCursor :=
  let dst : PackCursor := ⟨4, [⟨0, [p.tx8 0 0]⟩, ⟨1, [p.tx8 1 0]⟩]⟩
  let dst := dst.packWord (List.ofFn (p.tx16 0))
  let dst := dst.packWord (List.ofFn (p.tx16 1))
  let dst := dst.packWord (List.ofFn (p.tx32 0))
  let dst := dst.packWord (List.ofFn (p.tx32 1))
  let dst := dst.packCoefs p.coef
  let dst := dst.packWord (List.ofFn p.skip)
  let dst := dst.packWords p.interMode
  let dst := dst.packWords p.interpFilter
  let dst := dst.packWord (List.ofFn p.isInter)
  let dst := dst.copy (List.ofFn p.compMode) 8
  let dst := dst.copy (List.ofFn p.compRef) 8
  let dst := dst.packWords p.singleRef
  let dst := { dst with dst := dst.dst + 4 }
  let dst := dst.packModes p.yMode
  let dst := dst.packModes p.uvMode
  let dst := dst.packWords p.partition
  dst.packWord (List.ofFn p.mv.joint)

/-- The writes of one motion-vector component, at its address `mv`. -/
def packMvComponent (probs : MvProbs) (mv : ℕ) (i : Fin 2) : List (Patch UInt8) :=
  [⟨mv + 0, [probs.sign i]⟩,
    ⟨mv + 1, [probs.class0Bit i]⟩,
    ⟨mv + 2, [probs.class0Hp i]⟩,
    ⟨mv + 3, [probs.hp i]⟩,
    ⟨mv + 0x04, List.ofFn (probs.class0Fr i 0)⟩,
    ⟨mv + 0x08, List.ofFn (probs.class0Fr i 1)⟩,
    ⟨mv + 0x0c, List.ofFn (probs.classes i)⟩,
    ⟨mv + 0x1c, List.ofFn (probs.bits i)⟩,
    ⟨mv + 0x28, List.ofFn (probs.fr i)⟩]

/-- The segment trees, in the padding at the tail of the motion-vector image. -/
def packSegmentTrees (seg : SegmentationParams) : List (Patch UInt8) :=
  if seg.enabled then [⟨0xaf0, List.ofFn seg.treeProbs⟩, ⟨0xaf8, List.ofFn seg.predProbs⟩] else []

/-- What `cedrus_vp9_pack_probs` writes after its memset, in the order it writes it. -/
def packWrites (p : FrameContext) (seg : SegmentationParams) : List (Patch UInt8) :=
  (packWordImage p).writes ++
    ((List.finRange 2).flatMap fun i => packMvComponent p.mv (0xa94 + (1 - i.val) * 0x30) i) ++
      packSegmentTrees seg

/-- `cedrus_vp9_pack_probs` on the contents of the buffer from `base` on. -/
def packProbs (buffer : List UInt8) (p : FrameContext) (seg : SegmentationParams) : List UInt8 :=
  applyAll (store buffer 0 (blank probsSize)) (packWrites p seg)

def coefTable (coef : Fin 4 → Fin 2 → Fin 2 → Fin 6 → Fin 6 → Fin 3 → UInt8) : Table UInt8 :=
  .join (fun i => .join (fun j => .join (fun k => .join (fun l => .ofFn (coef i j k l))
    fun _ => rfl) fun _ => rfl) fun _ => rfl) fun _ => rfl

/-- The arrays of `struct v4l2_vp9_frame_context`, in the order of the structure. -/
def FrameContext.tables (p : FrameContext) : List (Table UInt8) :=
  [.ofFn p.tx8, .ofFn p.tx16, .ofFn p.tx32, coefTable p.coef, .row p.skip, .ofFn p.interMode, .ofFn p.interpFilter,
    .row p.isInter, .row p.compMode, .ofFn p.singleRef, .row p.compRef, .ofFn p.yMode, .ofFn p.uvMode,
    .ofFn p.partition, .row p.mv.joint, .column p.mv.sign, .ofFn p.mv.classes, .column p.mv.class0Bit,
    .ofFn p.mv.bits, .join (fun i => .ofFn (p.mv.class0Fr i)) fun _ => rfl, .ofFn p.mv.fr,
    .column p.mv.class0Hp, .column p.mv.hp]

/-- The bytes of a `struct v4l2_vp9_frame_context`. -/
def FrameContext.bytes (p : FrameContext) : List UInt8 := layout p.tables

namespace Tool

def ctxSize : ℕ := 2039

def hwSize : ℕ := 0xafc

def tx8 : ℕ := 0

def tx16 : ℕ := tx8 + 2

def tx32 : ℕ := tx16 + 4

def coef : ℕ := tx32 + 6

def skip : ℕ := coef + 4 * 2 * 2 * 6 * 6 * 3

def interMode : ℕ := skip + 3

def interpFilter : ℕ := interMode + 7 * 3

def isInter : ℕ := interpFilter + 4 * 2

def compMode : ℕ := isInter + 4

def singleRef : ℕ := compMode + 5

def compRef : ℕ := singleRef + 5 * 2

def yMode : ℕ := compRef + 5

def uvMode : ℕ := yMode + 4 * 9

def partition : ℕ := uvMode + 10 * 9

def mv : ℕ := partition + 16 * 3

def sign : ℕ := mv + 3

def classes : ℕ := sign + 2

def class0Bit : ℕ := classes + 20

def bits : ℕ := class0Bit + 2

def class0Fr : ℕ := bits + 20

def fr : ℕ := class0Fr + 12

def class0Hp : ℕ := fr + 6

def hp : ℕ := class0Hp + 2

/-- `range(start, stop, step)`. -/
def range (start stop step : ℕ) : List ℕ := List.range' start ((stop - start + (step - 1)) / step) step

/-- `bytes((xs[index],))`. -/
def byteAt (xs : List UInt8) (index : ℕ) : List UInt8 := slice xs index (index + 1)

/-- `put_word`. -/
def putWord (out values : List UInt8) : List UInt8 := out ++ (values ++ blank (4 - values.length))

/-- `for off in …: put_word(out, ctx[off:off + width])`. -/
def putWords (ctx : List UInt8) (width : ℕ) (offs : List ℕ) (out : List UInt8) : List UInt8 :=
  offs.foldl (fun out off => putWord out (slice ctx off (off + width))) out

/-- `for off in …: out.extend(ctx[off:off + width] + bytes(gap))`. -/
def putGapped (ctx : List UInt8) (width gap : ℕ) (offs : List ℕ) (out : List UInt8) : List UInt8 :=
  offs.foldl (fun out off => out ++ (slice ctx off (off + width) ++ blank gap)) out

/-- The part of `pack` before the motion vectors. -/
def packWordPart (ctx : List UInt8) : List UInt8 :=
  let out := putWord [] (byteAt ctx tx8 ++ byteAt ctx (tx8 + 1))
  let out := [tx16, tx16 + 2, tx32, tx32 + 3].foldl
    (fun out off => putWord out (slice ctx off (off + if off < tx32 then 2 else 3))) out
  let out := putWords ctx 3 (range coef skip 3) out
  let out := putWord out (slice ctx skip (skip + 3))
  let out := putWords ctx 3 (range interMode interpFilter 3) out
  let out := putWords ctx 2 (range interpFilter isInter 2) out
  let out := putWord out (slice ctx isInter (isInter + 4))
  let out := out ++ (slice ctx compMode (compMode + 5) ++ blank 3)
  let out := out ++ (slice ctx compRef (compRef + 5) ++ blank 3)
  let out := putWords ctx 2 (range singleRef compRef 2) out
  let out := out ++ blank 4
  let out := putGapped ctx 9 7 (range yMode uvMode 9) out
  let out := putGapped ctx 9 7 (range uvMode partition 9) out
  let out := putWords ctx 3 (range partition mv 3) out
  putWord out (slice ctx mv (mv + 3))

/-- One turn of the component loop of `pack`. -/
def packComponent (ctx out : List UInt8) (component : ℕ) : List UInt8 :=
  let base := 0xa94 + (1 - component) * 0x30
  let out := store out base (byteAt ctx (sign + component) ++ byteAt ctx (class0Bit + component) ++
    byteAt ctx (class0Hp + component) ++ byteAt ctx (hp + component))
  let out := store out (base + 4) (slice ctx (class0Fr + component * 6) (class0Fr + component * 6 + 3))
  let out := store out (base + 8) (slice ctx (class0Fr + component * 6 + 3) (class0Fr + component * 6 + 6))
  let out := store out (base + 0xc) (slice ctx (classes + component * 10) (classes + component * 10 + 10))
  let out := store out (base + 0x1c) (slice ctx (bits + component * 10) (bits + component * 10 + 10))
  store out (base + 0x28) (slice ctx (fr + component * 3) (fr + component * 3 + 3))

/-- `pack`; nothing where an assertion fails. -/
def pack (ctx : List UInt8) : Option (List UInt8) :=
  if ctx.length ≠ ctxSize then none
  else
    let out := packWordPart ctx
    if out.length ≠ 0xa94 then none
    else some ((List.range 2).foldl (packComponent ctx) (out ++ blank (hwSize - out.length)))

/-- The part of `unpack` before the motion vectors: the context so far and `pos`. -/
def unpackWordPart (hw ctx : List UInt8) : List UInt8 × ℕ :=
  let ctx := store ctx tx8 (slice hw 0 2)
  let ctx := store ctx tx16 (slice hw 4 6)
  let ctx := store ctx (tx16 + 2) (slice hw 8 10)
  let ctx := store ctx tx32 (slice hw 12 15)
  let ctx := store ctx (tx32 + 3) (slice hw 16 19)
  let state := (range coef skip 3).foldl (moveRow hw 3 4) (ctx, 0x14)
  let state := moveRow hw 3 4 state skip
  let state := (range interMode interpFilter 3).foldl (moveRow hw 3 4) state
  let state := (range interpFilter isInter 2).foldl (moveRow hw 2 4) state
  let state := moveRow hw 4 4 state isInter
  let state := moveRow hw 5 8 state compMode
  let state := moveRow hw 5 8 state compRef
  let state := (range singleRef compRef 2).foldl (moveRow hw 2 4) state
  let state := (state.1, state.2 + 4)
  let state := (range yMode uvMode 9).foldl (moveRow hw 9 16) state
  let state := (range uvMode partition 9).foldl (moveRow hw 9 16) state
  let state := (range partition mv 3).foldl (moveRow hw 3 4) state
  (store state.1 mv (slice hw state.2 (state.2 + 3)), state.2)

/-- One turn of the component loop of `unpack`. -/
def unpackComponent (hw ctx : List UInt8) (component : ℕ) : List UInt8 :=
  let base := 0xa94 + (1 - component) * 0x30
  let ctx := store ctx (sign + component) (byteAt hw base)
  let ctx := store ctx (class0Bit + component) (byteAt hw (base + 1))
  let ctx := store ctx (class0Hp + component) (byteAt hw (base + 2))
  let ctx := store ctx (hp + component) (byteAt hw (base + 3))
  let ctx := store ctx (class0Fr + component * 6) (slice hw (base + 4) (base + 7))
  let ctx := store ctx (class0Fr + component * 6 + 3) (slice hw (base + 8) (base + 11))
  let ctx := store ctx (classes + component * 10) (slice hw (base + 0xc) (base + 0x16))
  let ctx := store ctx (bits + component * 10) (slice hw (base + 0x1c) (base + 0x26))
  store ctx (fr + component * 3) (slice hw (base + 0x28) (base + 0x2b))

/-- `unpack`; nothing where an assertion fails. -/
def unpack (hw : List UInt8) : Option (List UInt8) :=
  if hw.length < hwSize then none
  else
    let hw := hw.take hwSize
    let state := unpackWordPart hw (blank ctxSize)
    if state.2 ≠ 0xa90 then none
    else some ((List.range 2).foldl (unpackComponent hw) state.1)

end Tool

end H618Vpu.Vp9
