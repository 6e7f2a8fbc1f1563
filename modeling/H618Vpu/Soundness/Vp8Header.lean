import H618Vpu.Model.DecVp8
import H618Vpu.Spec.Vp8Syntax

/-! # The header walk and the header syntax

The driver and the syntax are followed side by side on one stream. Each read of the driver is the element of the syntax
at that place, and the driver looks at the same flags.
-/

namespace H618Vpu.DecVp8

open Bits Machine
open Spec.Vp8

variable {σ : Type}

/-- The device is at a place of the stream, after the same reads. -/
def OnStream (device : Device σ) (stream : CodedStream σ) : Prop := device.stream = stream

/-- A reader whose value is not kept. -/
def discarding {α : Type} (reader : Reader σ α) : StateM (CodedStream σ) Unit := fun stream => ((), (reader stream).2)

/-- The fields of the trigger word of a read. -/
theorem getBits_fields : ∀ bits < 8, ∀ prob < 256,
    let word := vp8GetBits ||| binLens (.ofNat (bits + 1)) ||| probability (UInt8.ofNat prob).toUInt32
    wordField word 0 8 = vp8GetBits.toNat ∧ wordField word 16 3 = bits ∧ wordField word 24 8 = prob := by
  decide +kernel

namespace Hardware

variable (hw : Hardware σ)

theorem trigger_getBits {bits : ℕ} (small : bits < 8) (prob : UInt8) (device : Device σ) :
    ((hw.trigger (vp8GetBits ||| binLens (.ofNat (bits + 1)) ||| probability prob.toUInt32)).run device).2 =
      ⟨((hw.coder.read (bits + 1) prob).run device.stream).2,
        .ofNat ((hw.coder.read (bits + 1) prob).run device.stream).1⟩ := by
  obtain ⟨kind, lens, odds⟩ := getBits_fields bits small prob.toNat prob.toNat_lt
  rw [UInt8.ofNat_toNat] at kind lens odds
  rw [trigger, if_pos kind, lens, odds, UInt8.ofNat_toNat]
  rfl

/-- A read of the driver reads the number of the stream. -/
theorem related_readBits {bits : ℕ} (small : bits < 8) (prob : UInt8) :
    Related OnStream (fun value number => value.toNat = number) (hw.readBits (.ofNat (bits + 1)) prob)
      (hw.coder.read (bits + 1) prob) := by
  rintro device stream rfl
  have fits := hw.coder.read_lt (bits + 1) prob device.stream
  have byte : 2 ^ (bits + 1) ≤ 2 ^ 8 := Nat.pow_le_pow_right Nat.two_pos small
  constructor
  · change ((hw.trigger _).run device).2.basicBits.toUInt8.toNat = _
    rw [hw.trigger_getBits small, UInt32.toNat_toUInt8]
    dsimp only
    rw [UInt32.toNat_ofNat', Nat.mod_mod_of_dvd _ (by decide)]
    exact Nat.mod_eq_of_lt (fits.trans_le byte)
  · change ((hw.trigger _).run device).2.stream = _
    rw [hw.trigger_getBits small]

/-- An element that is skipped. -/
theorem related_skip {bits : ℕ} (small : bits < 8) :
    Related OnStream Any (hw.skip (.ofNat (bits + 1))) (literal hw.coder (bits + 1)) :=
  (hw.related_readBits small probHalf).mono fun _ _ _ => trivial

/-- A bit the driver looks at. -/
theorem related_bit (prob : UInt8) :
    Related OnStream (fun value flag => value ≠ 0 ↔ flag = true) (hw.readBits 1 prob) (bool hw.coder prob) :=
  (hw.related_readBits (by decide : 0 < 8) prob).returning fun value number same => by
    rw [decide_eq_true_iff, ← same, not_iff_not, ← UInt8.toNat_inj]
    rfl

theorem related_skipFlag : Related OnStream Any (hw.skip 1) (flag hw.coder) :=
  (hw.related_bit probHalf).mono fun _ _ _ => trivial

section Conditions

variable {α : Type} {body : StateM (Device σ) Unit} {reader : Reader σ α}

theorem related_given {p : Prop} [Decidable p] {condition : Bool} (agree : p ↔ condition = true)
    (present : Related OnStream Any body reader) :
    Related OnStream Any (if p then body else pure ()) (given condition reader) :=
  .ite agree (present.returning fun _ _ _ => trivial) (.pure trivial)

theorem related_when (condition : Bool) (present : Related OnStream Any body reader) :
    Related OnStream Any (when condition body) (given condition reader) :=
  related_given Iff.rfl present

/-- What a flag makes present, whatever the odds of the flag. -/
theorem related_ifSet (prob : UInt8) (present : Related OnStream Any body reader) :
    Related OnStream Any (hw.ifSet prob body) (bool hw.coder prob >>= fun flag => given flag reader) :=
  (hw.related_bit prob).bind fun _ _ agree => related_given agree present

theorem related_optionally (present : Related OnStream Any body reader) :
    Related OnStream Any (hw.ifSet probHalf body) (optionally hw.coder reader) :=
  hw.related_ifSet probHalf present

end Conditions

theorem related_skipSigned {bits : ℕ} (small : bits < 8) :
    Related OnStream Any (hw.skipSigned (.ofNat (bits + 1))) (signed hw.coder (bits + 1)) :=
  (hw.related_skip small).bind fun _ _ _ => hw.related_skipFlag.returning fun _ _ _ => trivial

/-- Deltas that are each present or not. -/
theorem related_deltas {bits : ℕ} (small : bits < 8) (count : ℕ) :
    Related OnStream Any (rounds (fun _ => hw.ifSet probHalf (hw.skipSigned (.ofNat (bits + 1)))) count)
      (collect (fun _ => optionally hw.coder (signed hw.coder (bits + 1))) count) :=
  .rounds (fun _ => hw.related_optionally (hw.related_skipSigned small)) count

theorem related_segmentation :
    Related OnStream Any hw.processSegmentationInfo (updateSegmentation hw.coder) := by
  have features : Related OnStream Any _ (segmentFeatureData hw.coder) :=
    hw.related_skipFlag.bind fun _ _ _ => (hw.related_deltas (by decide : 6 < 8) 4).bind fun _ _ _ =>
      (hw.related_deltas (by decide : 5 < 8) 4).returning fun _ _ _ => trivial
  refine (hw.related_bit probHalf).bind fun update flag agree => ?_
  refine (hw.related_optionally features).bind fun _ _ _ => ?_
  have probs := related_given agree (.rounds (fun _ => hw.related_optionally (hw.related_skip (by decide : 7 < 8))) 3)
  exact probs.returning fun _ _ _ => trivial

theorem related_lfDeltas : Related OnStream Any hw.processRefLfDeltaInfo (optionally hw.coder (lfDeltas hw.coder)) :=
  hw.related_optionally <| (hw.related_deltas (by decide : 5 < 8) 4).bind fun _ _ _ =>
    (hw.related_deltas (by decide : 5 < 8) 4).returning fun _ _ _ => trivial

theorem related_quantIndices :
    Related OnStream Any (do hw.skip 7; rounds (fun _ => hw.getDeltaQ) 5) (quantIndices hw.coder) := by
  have delta := hw.related_optionally (hw.related_skipSigned (by decide : 3 < 8))
  refine (hw.related_skip (by decide : 6 < 8)).bind fun _ _ _ => ?_
  change Related OnStream Any (do hw.getDeltaQ; hw.getDeltaQ; hw.getDeltaQ; hw.getDeltaQ; hw.getDeltaQ) _
  exact delta.bind fun _ _ _ => delta.bind fun _ _ _ => delta.bind fun _ _ _ => delta.bind fun _ _ _ =>
    delta.returning fun _ _ _ => trivial

/-- What an inter frame refreshes stands in three places of the walk. -/
theorem related_refresh (keyFrame : Bool) :
    Related OnStream Any
      (do when (!keyFrame) hw.processRefFrameInfo; hw.skip 1; when (!keyFrame) (hw.skip 1))
      (refresh hw.coder keyFrame) := by
  cases keyFrame with
  | true => exact hw.related_skipFlag.returning fun _ _ _ => trivial
  | false =>
    have copy {value : UInt8} {flag : Bool} (agree : value ≠ 0 ↔ flag = true) :
        Related OnStream Any (when (decide (value = 0)) (hw.skip 2)) (given (!flag) (literal hw.coder 2)) :=
      related_given (by rw [decide_eq_true_iff, Bool.not_eq_true', ← Bool.not_eq_true, ← agree, not_not])
        (hw.related_skip (by decide : 1 < 8))
    have inter : Related OnStream Any (do hw.processRefFrameInfo; hw.skip 1; hw.skip 1) (refreshInter hw.coder) := by
      refine .assoc ((hw.related_bit probHalf).bind fun _ _ golden => ?_)
      refine .assoc ((hw.related_bit probHalf).bind fun _ _ alternate => ?_)
      refine .assoc ((copy golden).bind fun _ _ _ => .assoc ((copy alternate).bind fun _ _ _ => ?_))
      refine .assoc (hw.related_skipFlag.bind fun _ _ _ => hw.related_skipFlag.bind fun _ _ _ => ?_)
      exact hw.related_skipFlag.bind fun _ _ _ => hw.related_skipFlag.returning fun _ _ _ => trivial
    exact inter.returning fun _ _ _ => trivial

/-- The probabilities of an inter frame. The flags of the motion vectors have the odds of the syntax. -/
theorem related_interProbs : Related OnStream Any hw.readInterProbs (interProbs hw.coder) := by
  have byte := hw.related_skip (by decide : 7 < 8)
  have luma : Related OnStream Any (do hw.skip 8; hw.skip 8; hw.skip 8; hw.skip 8)
      (collect (fun _ => literal hw.coder 8) 4) := Related.rounds (fun _ => byte) 4
  have chroma : Related OnStream Any (do hw.skip 8; hw.skip 8; hw.skip 8) (collect (fun _ => literal hw.coder 8) 3) :=
    Related.rounds (fun _ => byte) 3
  have vectors : Related OnStream Any
      (rounds (fun i => rounds (fun j => hw.ifSet ((kMvEntropyUpdateProbs.getD i []).getD j 0) (hw.skip 7)) 19) 2)
      (mvProbUpdate hw.coder) :=
    .rounds (fun _ => .rounds (fun _ => hw.related_ifSet _ (hw.related_skip (by decide : 6 < 8))) 19) 2
  refine byte.bind fun _ _ _ => byte.bind fun _ _ _ => byte.bind fun _ _ _ => ?_
  refine (hw.related_optionally luma).bind fun _ _ _ => (hw.related_optionally chroma).bind fun _ _ _ => ?_
  exact vectors.returning fun _ _ _ => trivial

/-- The trigger for the coefficient probabilities does what the hardware does for them. -/
theorem related_trigger {α : Type} {tokens : Reader σ α} (does : hw.updateCoef = discarding tokens) :
    Related OnStream Any (hw.trigger vp8UpdateCoef) tokens := by
  rintro device stream rfl
  change True ∧ (hw.updateCoef device.stream).2 = _
  rw [does]
  exact ⟨trivial, rfl⟩

/-- The walk goes through the header element by element. -/
theorem related_readHeader {coeffUpdateProbs : ℕ → ℕ → ℕ → ℕ → UInt8}
    (tokens : hw.updateCoef = discarding (tokenProbUpdate hw.coder coeffUpdateProbs)) (keyFrame : Bool) :
    Related OnStream Any (hw.readHeader keyFrame) (frameHeader hw.coder coeffUpdateProbs keyFrame) := by
  have color : Related OnStream Any (do hw.skip 1; hw.skip 1) (colorSpace hw.coder) :=
    hw.related_skipFlag.bind fun _ _ _ => hw.related_skipFlag.returning fun _ _ _ => trivial
  have opened : hw.readHeader keyFrame = (do
      when keyFrame do
        hw.skip 1
        hw.skip 1
      hw.ifSet probHalf hw.processSegmentationInfo
      hw.skip 1
      hw.skip 6
      hw.skip 3
      hw.ifSet probHalf hw.processRefLfDeltaInfo
      hw.skip 2
      (do hw.skip 7; rounds (fun _ => hw.getDeltaQ) 5)
      (do when (!keyFrame) hw.processRefFrameInfo; hw.skip 1; when (!keyFrame) (hw.skip 1))
      hw.trigger vp8UpdateCoef
      hw.ifSet probHalf (hw.skip 8)
      when (!keyFrame) hw.readInterProbs) := rfl
  rw [opened]
  refine (related_when keyFrame color).bind fun _ _ _ => ?_
  refine (hw.related_optionally hw.related_segmentation).bind fun _ _ _ => ?_
  refine hw.related_skipFlag.bind fun _ _ _ => (hw.related_skip (by decide : 5 < 8)).bind fun _ _ _ => ?_
  refine (hw.related_skip (by decide : 2 < 8)).bind fun _ _ _ => ?_
  refine (hw.related_optionally hw.related_lfDeltas).bind fun _ _ _ => ?_
  refine (hw.related_skip (by decide : 1 < 8)).bind fun _ _ _ => ?_
  refine hw.related_quantIndices.bind fun _ _ _ => (hw.related_refresh keyFrame).bind fun _ _ _ => ?_
  refine (hw.related_trigger tokens).bind fun _ _ _ => ?_
  refine (hw.related_optionally (hw.related_skip (by decide : 7 < 8))).bind fun _ _ _ => ?_
  exact (related_when (!keyFrame) hw.related_interProbs).returning fun _ _ _ => trivial

end Hardware

/-- Hardware that reads the token probabilities of the syntax for `VE_H264_TRIGGER_TYPE_VP8_UPDATE_COEF`. -/
def hardware (coder : BoolCoder σ) (coeffUpdateProbs : ℕ → ℕ → ℕ → ℕ → UInt8) : Hardware σ where
  coder
  updateCoef := discarding (tokenProbUpdate coder coeffUpdateProbs)

/-- After the walk the hardware is behind the header, and it has made the reads of the header. -/
theorem readHeader_eq (coder : BoolCoder σ) (coeffUpdateProbs : ℕ → ℕ → ℕ → ℕ → UInt8) (keyFrame : Bool)
    (device : Device σ) :
    (((hardware coder coeffUpdateProbs).readHeader keyFrame).run device).2.stream =
      ((frameHeader coder coeffUpdateProbs keyFrame).run device.stream).2 := by
  have tokens : (hardware coder coeffUpdateProbs).updateCoef =
      discarding (tokenProbUpdate (hardware coder coeffUpdateProbs).coder coeffUpdateProbs) := rfl
  exact ((hardware coder coeffUpdateProbs).related_readHeader tokens keyFrame device device.stream rfl).2

end H618Vpu.DecVp8
