import H618Vpu.Bytes.Memory
import H618Vpu.Model.Vp9Decoder

/-! # The reconstruction surface after a 10-bit job

The end of `cedrus_dec_vp9_job_finish` that touches the surface: the packed low bits of the chroma are moved and
the last visible rows are repeated below, with every access checked. A frame has at most 65536 rows and columns,
so no size wraps in `size_t`.
-/

namespace H618Vpu.Vp9

open Math Bytes

variable {α : Type}

/-- The branch for 10 bits on the contents of `buffer->recon`; nothing where an access leaves them. -/
def finishTenBit (base : List α) (reconSize width height : ℕ) : Option (List α) :=
  let alignedHeight := align height 16
  let extStride := align (align width 4 / 4) 32
  let highSize := align width 16 * alignedHeight * 3 / 2
  let src := highSize + extStride * align height 8
  let dst := highSize + extStride * alignedHeight
  let len := extStride * divRoundUp height 2
  if src ≠ dst ∧ dst + len ≤ reconSize then do
    let stride := align width 16
    let chromaHeight := divRoundUp height 2
    let alignedChromaHeight := alignedHeight / 2
    let highChroma := stride * alignedHeight
    let lowLuma := highSize
    let lowChroma := lowLuma + extStride * alignedHeight
    let base ← move base dst src len
    let base ← (List.range' height (alignedHeight - height)).foldlM (fun base row => do
      let base ← copy base (row * stride) ((height - 1) * stride) stride
      copy base (lowLuma + row * extStride) (lowLuma + (height - 1) * extStride) extStride) base
    (List.range' chromaHeight (alignedChromaHeight - chromaHeight)).foldlM (fun base row => do
      let base ← copy base (highChroma + row * stride) (highChroma + (chromaHeight - 1) * stride) stride
      copy base (lowChroma + row * extStride) (lowChroma + (chromaHeight - 1) * extStride) extStride) base
  else some base

/-- What `cedrus_dec_vp9_job_finish` does to the surface of the destination. -/
def Record.finishRecon (record : Record) (frame : Frame) (base : List α) : Option (List α) :=
  match record.recon with
  | some surface =>
      if frame.bitDepth = 10 then finishTenBit base surface.size frame.width frame.height else some base
  | none => some base

end H618Vpu.Vp9
