import H618Vpu.Machine.Touching
import H618Vpu.Model.DecH264

/-! # The arrays of an H.264 job

`cedrus_dec_h264.c` once more, with each access to an array of the controls noted by its index. The weight tables go
to the SRAM whole; which entries of the DPB are read is up to the reference lists of the slice.
-/

namespace H618Vpu.DecH264

open Machine Math Touching

inductive ListX where
  | l0
  | l1
deriving DecidableEq, Repr

/-- The arrays of the controls. `weight_factors` holds a table of weights and offsets for each list. -/
inductive ControlArray where
  | dpb
  | refPicList (list : ListX)
  | weightFactors
  | lumaWeight (factors : ℕ)
  | lumaOffset (factors : ℕ)
  | chromaWeight (factors : ℕ)
  | chromaOffset (factors : ℕ)
deriving DecidableEq, Repr

/-- How many elements an array has; the two chroma weights of a reference are counted one by one. -/
def ControlArray.length : ControlArray → ℕ
  | dpb => 16
  | refPicList _ | lumaWeight _ | lumaOffset _ => 32
  | weightFactors => 2
  | chromaWeight _ | chromaOffset _ => 64

structure Cell where
  array : ControlArray
  index : ℕ
deriving DecidableEq, Repr

abbrev Access := Touching Cell

/-- The value of an element, wherever it is. -/
def read {α : Type} (array : ControlArray) (table : ℕ → α) (index : ℕ) : Access α := touch ⟨array, index⟩ (table index)

/-- `struct v4l2_h264_weight_factors` -/
structure WeightFactors where
  lumaWeight : ℕ → Int16
  lumaOffset : ℕ → Int16
  chromaWeight : ℕ → ℕ → Int16
  chromaOffset : ℕ → ℕ → Int16

/-- A request with its weights. -/
structure WeightedJob extends Job where
  weightedPred : Bool
  weightedBipredIdc : UInt8
  weightFactors : ℕ → WeightFactors

/-- `V4L2_H264_CTRL_PRED_WEIGHTS_REQUIRED` -/
def WeightedJob.PredWeightsRequired (job : WeightedJob) : Prop :=
  (job.weightedPred ∧ (job.sliceType = .p ∨ job.sliceType = .sp)) ∨ (job.weightedBipredIdc = 1 ∧ job.sliceType = .b)
deriving Decidable

/-- A word of the weight table. -/
def weightWord (offset weight : Int16) : UInt32 :=
  ((offset.toInt32.toUInt32 &&& 0x1ff) <<< 16) ||| (weight.toInt32.toUInt32 &&& 0x1ff)

def lumaWrite (i : ℕ) (factors : WeightFactors) (j : ℕ) (sram : List UInt32) : Access (List UInt32) := do
  let offset ← read (.lumaOffset i) factors.lumaOffset j
  let weight ← read (.lumaWeight i) factors.lumaWeight j
  pure (sram ++ [weightWord offset weight])

def chromaWrite (i : ℕ) (factors : WeightFactors) (j k : ℕ) (sram : List UInt32) : Access (List UInt32) := do
  let offset ← touch ⟨.chromaOffset i, 2 * j + k⟩ (factors.chromaOffset j k)
  let weight ← touch ⟨.chromaWeight i, 2 * j + k⟩ (factors.chromaWeight j k)
  pure (sram ++ [weightWord offset weight])

/-- The weights of one list, of as many references as the tables have. -/
def factorsWrite (job : WeightedJob) (i : ℕ) (sram : List UInt32) : Access (List UInt32) := do
  let factors ← read .weightFactors job.weightFactors i
  let sram ← loop (lumaWrite i factors) sram 32
  loop (fun j sram => loop (chromaWrite i factors j) sram 2) sram 32

/-- `cedrus_write_pred_weight_table` -/
def WeightedJob.writePredWeightTable (job : WeightedJob) : Access (List UInt32) := loop (factorsWrite job) [] 2

namespace Decoder

/-- `cedrus_write_frame_list` -/
def writeFrameListAccess (dec : Decoder) (config : Config) (job : Job) :
    Access (Decoder × Except ℤ FrameListWrites) := do
  let list ← loop (fun i list => do
    let dpb ← read .dpb job.dpb i
    pure (dec.visit config job.timestamp list dpb)) {} 16
  let position := list.position
  let buffer := { (dec.picture job.destination).buffer with position }
  match buffer.attachMvCol (MvCol.h264MvColSize config.size job.sps) job.mvColAlloc with
  | none => pure (dec.setBuffer job.destination buffer, .error MvCol.enomem)
  | some buffer =>
      let buffer := { buffer with picType := job.picType }
      let own := config.fillRefPic job.destination buffer job.topFieldOrderCnt job.bottomFieldOrderCnt
      pure (dec.setBuffer job.destination buffer,
        .ok { picList := Function.update list.picList position own, outputFrameIdx := position })

/-- A round of `_cedrus_write_ref_list`. -/
def refWrite (dec : Decoder) (config : Config) (job : Job) (l : ListX) (list : RefList) (i : ℕ)
    (sramArray : ℕ → UInt8) : Access (ℕ → UInt8) := do
  let ref ← read (.refPicList l) list.refPicList i
  let dpb ← read .dpb job.dpb ref.index.toNat
  if !dpb.active then pure sramArray
  else
    match dec.pictureFind config dpb.referenceTs with
    | none => pure sramArray
    | some number => do
        let ref ← read (.refPicList l) list.refPicList i
        let byte := sramArray i ||| UInt8.ofNat ((dec.picture number).buffer.position <<< 1)
        pure (Function.update sramArray i (if ref.fields = bottomFieldRef then byte ||| 1 else byte))

/-- `_cedrus_write_ref_list` -/
def writeRefListAccess (dec : Decoder) (config : Config) (job : Job) (l : ListX) (list : RefList) :
    Access (List UInt8) := do
  let sramArray ← loop (dec.refWrite config job l list) (fun _ => 0) list.numRef
  pure (((List.range 32).map sramArray).take (min (align list.numRef 4) 32))

/-- The weights, if the slice has them. -/
def predWeights (job : WeightedJob) : Access (Option (List UInt32)) :=
  if job.PredWeightsRequired then do
    let table ← job.writePredWeightTable
    pure (some table)
  else pure none

def refList0 (dec : Decoder) (config : Config) (job : Job) : Access (Option (List UInt8)) :=
  if job.sliceType = .p ∨ job.sliceType = .sp ∨ job.sliceType = .b then do
    let bytes ← dec.writeRefListAccess config job .l0 job.refList0
    pure (some bytes)
  else pure none

def refList1 (dec : Decoder) (config : Config) (job : Job) : Access (Option (List UInt8)) :=
  if job.sliceType = .b then do
    let bytes ← dec.writeRefListAccess config job .l1 job.refList1
    pure (some bytes)
  else pure none

/-- The weights and the reference lists in `cedrus_set_params`. -/
def setParamsAccess (dec : Decoder) (config : Config) (job : WeightedJob) (frames : FrameListWrites) :
    Access (Program × Option (List UInt32)) := do
  let weights ← predWeights job
  let refList0 ← dec.refList0 config job.toJob
  let refList1 ← dec.refList1 config job.toJob
  pure (⟨frames, refList0, refList1⟩, weights)

/-- `cedrus_dec_h264_job_configure` -/
def jobConfigureAccess (dec : Decoder) (config : Config) (job : WeightedJob) :
    Access (Decoder × Except ℤ (Program × Option (List UInt32))) := do
  let (dec, frames) ← dec.writeFrameListAccess config job.toJob
  match frames with
  | .error error => pure (dec, .error error)
  | .ok frames => do
      let program ← dec.setParamsAccess config job frames
      pure (dec, .ok program)

end Decoder

end H618Vpu.DecH264
