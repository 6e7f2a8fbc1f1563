import Mathlib

/-! # Picture order count and frame number of a decoder

The derivation of a picture's order count from its least significant bits (H.264, 8.2.1.1) and the rule
for frame numbers (7.4.3), for progressive reference pictures.
-/

namespace H618Vpu.Spec

/-- `PicOrderCntMsb`: the bits wrap when they jump by half their range or more. -/
def picOrderCntMsb (maxLsb prevMsb prevLsb lsb : ℤ) : ℤ :=
  if lsb < prevLsb ∧ maxLsb / 2 ≤ prevLsb - lsb then prevMsb + maxLsb
  else if prevLsb < lsb ∧ maxLsb / 2 < lsb - prevLsb then prevMsb - maxLsb
  else prevMsb

/-- A number split at its least significant bits, and one less than half their range after it. -/
theorem picOrderCntMsb_advance (maxLsb n d : ℤ) (forward : 0 ≤ d) (short : d < maxLsb / 2) :
    picOrderCntMsb maxLsb (n - n % maxLsb) (n % maxLsb) ((n + d) % maxLsb) = n + d - (n + d) % maxLsb := by
  have positive : 0 < maxLsb := by omega
  have low := Int.emod_nonneg n positive.ne'
  have high := Int.emod_lt_of_pos n positive
  rw [Int.add_emod, Int.emod_eq_of_lt forward (by omega)]
  by_cases carries : n % maxLsb + d < maxLsb
  · rw [Int.emod_eq_of_lt (by omega) carries, picOrderCntMsb, if_neg (by omega), if_neg (by omega)]
    omega
  · have wrapped : (n % maxLsb + d) % maxLsb = n % maxLsb + d - maxLsb := by
      rw [← Int.sub_emod_right]
      exact Int.emod_eq_of_lt (by omega) (by omega)
    rw [wrapped, picOrderCntMsb, if_pos (by omega)]
    omega

/-- What a decoder keeps of a picture: its order count in two parts and its frame number. It also counts the
pictures since the last IDR picture, and notes whether the frame number followed without a gap. -/
structure Order where
  picOrderCntMsb : ℤ
  picOrderCntLsb : ℤ
  frameNum : ℕ
  sinceIdr : ℕ
  gapless : Bool
deriving DecidableEq, Repr

/-- The picture order count. -/
def Order.poc (order : Order) : ℤ := order.picOrderCntMsb + order.picOrderCntLsb

/-- What the slice header of a picture says for this, with the ranges its SPS gives. -/
structure Numbers where
  idr : Bool
  frameNum : ℕ
  picOrderCntLsb : ℤ
  maxFrameNum : ℕ
  maxPicOrderCntLsb : ℤ
deriving DecidableEq, Repr

/-- The derivation for one picture; an IDR picture starts over, another one needs a picture before it. -/
def Order.next (numbers : Numbers) (prev : Option Order) : Order :=
  match numbers.idr, prev with
  | false, some prev =>
      { picOrderCntMsb := Spec.picOrderCntMsb numbers.maxPicOrderCntLsb prev.picOrderCntMsb prev.picOrderCntLsb
          numbers.picOrderCntLsb
        picOrderCntLsb := numbers.picOrderCntLsb
        frameNum := numbers.frameNum
        sinceIdr := prev.sinceIdr + 1
        gapless := numbers.frameNum = (prev.frameNum + 1) % numbers.maxFrameNum }
  | idr, _ =>
      { picOrderCntMsb := Spec.picOrderCntMsb numbers.maxPicOrderCntLsb 0 0 numbers.picOrderCntLsb
        picOrderCntLsb := numbers.picOrderCntLsb
        frameNum := numbers.frameNum
        sinceIdr := 0
        gapless := idr && numbers.frameNum = 0 }

/-- The values of the header are kept as they are. -/
theorem Order.next_numbers (numbers : Numbers) (prev : Option Order) :
    (Order.next numbers prev).frameNum = numbers.frameNum ∧
      (Order.next numbers prev).picOrderCntLsb = numbers.picOrderCntLsb := by
  unfold Order.next
  split <;> exact ⟨rfl, rfl⟩

/-- The picture has order count `2 * k` and frame number `k`, at the distance `k` from the last IDR picture. -/
structure Order.InSequence (bits : ℕ) (order : Order) : Prop where
  poc : order.poc = 2 * order.sinceIdr
  frameNum : order.frameNum = order.sinceIdr % 2 ^ bits
  gapless : order.gapless = true

/-- The lowest bits of the order count are what the header had. -/
structure Order.Split (bits : ℕ) (order : Order) : Prop extends order.InSequence bits where
  lsb : order.picOrderCntLsb = order.poc % 2 ^ bits

/-- An IDR picture numbered zero starts a sequence. -/
theorem Order.split_idr {bits : ℕ} (numbers : Numbers) (prev : Option Order) (idr : numbers.idr = true)
    (frameNum : numbers.frameNum = 0) (lsb : numbers.picOrderCntLsb = 0) : (Order.next numbers prev).Split bits := by
  have derived : Spec.picOrderCntMsb numbers.maxPicOrderCntLsb 0 0 0 = 0 := by
    rw [Spec.picOrderCntMsb, if_neg (by simp), if_neg (by simp)]
  simp only [Order.next, idr]
  refine ⟨⟨?_, ?_, ?_⟩, ?_⟩ <;> simp [Order.poc, frameNum, lsb, derived]

/-- A picture numbered one further continues it. -/
theorem Order.split_next {bits : ℕ} {prev : Order} (numbers : Numbers) (split : prev.Split bits) (wide : 3 ≤ bits)
    (idr : numbers.idr = false) (maxFrameNum : numbers.maxFrameNum = 2 ^ bits)
    (maxLsb : numbers.maxPicOrderCntLsb = 2 ^ bits) (frameNum : numbers.frameNum = (prev.sinceIdr + 1) % 2 ^ bits)
    (lsb : numbers.picOrderCntLsb = (2 * prev.sinceIdr + 2) % 2 ^ bits) :
    (Order.next numbers (some prev)).Split bits := by
  have range : (8 : ℤ) ≤ 2 ^ bits := by exact_mod_cast Nat.pow_le_pow_right (show 0 < 2 by decide) wide
  have low : prev.picOrderCntLsb = 2 * prev.sinceIdr % 2 ^ bits := by rw [split.lsb, split.poc]
  have msb : prev.picOrderCntMsb = 2 * prev.sinceIdr - 2 * prev.sinceIdr % 2 ^ bits := by
    have poc := split.poc
    rw [Order.poc, low] at poc
    omega
  have derived := picOrderCntMsb_advance (2 ^ bits) (2 * prev.sinceIdr) 2 (by decide) (by omega)
  have poc : (Order.next numbers (some prev)).poc = 2 * ((prev.sinceIdr + 1 : ℕ) : ℤ) := by
    simp only [Order.next, idr, Order.poc, msb, low, lsb, maxLsb, derived]
    push_cast
    ring
  refine ⟨⟨?_, ?_, ?_⟩, ?_⟩
  · simpa only [Order.next, idr] using poc
  · simpa only [Order.next, idr] using frameNum
  · simp only [Order.next, idr, frameNum, maxFrameNum, split.frameNum, Nat.mod_add_mod, decide_true]
  · rw [poc]
    simp only [Order.next, idr, lsb]
    push_cast
    ring_nf

end H618Vpu.Spec
