import Mathlib

/-! # The header of a JPEG image

What a decoder reads before the entropy-coded data: the start of the image, then marker segments up to the
start of the scan. A segment has a marker, a length that counts its own two bytes, and a content. Of the
contents, the baseline frame header and the quantisation tables are read; a table lists 64 bytes by
increasing spatial frequency.
-/

namespace H618Vpu.Spec.Jpeg

def startOfImage : List UInt8 := [0xff, 0xd8]
def baselineFrame : UInt8 := 0xc0
def startOfScan : UInt8 := 0xda
def quantTables : UInt8 := 0xdb

structure Segment where
  marker : UInt8
  content : List UInt8
deriving DecidableEq, Repr

/-- Two bytes as a number, the high one first. -/
def word (high low : UInt8) : ℕ := high.toNat * 256 + low.toNat

/-- A number below 2 ^ 16 as two bytes. -/
def wordBytes (value : ℕ) : List UInt8 := [.ofNat (value / 256), .ofNat value]

def Segment.length (segment : Segment) : ℕ := segment.content.length + 2

def Segment.bytes (segment : Segment) : List UInt8 :=
  [0xff, segment.marker] ++ wordBytes segment.length ++ segment.content

/-- The first segment, and the bytes after it. -/
def readSegment : List UInt8 → Option (Segment × List UInt8)
  | 0xff :: marker :: high :: low :: rest =>
      let size := word high low - 2
      if size ≤ rest.length then some (⟨marker, rest.take size⟩, rest.drop size) else none
  | _ => none

/-- The segments up to the start of the scan, and the bytes after it. -/
def readSegments : ℕ → List UInt8 → Option (List Segment × List UInt8)
  | 0, _ => none
  | fuel + 1, bytes =>
      (readSegment bytes).bind fun (segment, rest) =>
        if segment.marker = startOfScan then some ([segment], rest)
        else (readSegments fuel rest).map fun (segments, rest) => (segment :: segments, rest)

/-- The header of an image, and the bytes after it. -/
def readHeader : List UInt8 → Option (List Segment × List UInt8)
  | 0xff :: 0xd8 :: bytes => readSegments bytes.length bytes
  | _ => none

/-- The tables of a segment: the identifier of a table, then its 64 bytes. -/
def readTables : ℕ → List UInt8 → List (UInt8 × List UInt8)
  | fuel + 1, id :: rest => (id, rest.take 64) :: readTables fuel (rest.drop 64)
  | _, _ => []

/-- What a header says of the image: its size, and its quantisation tables. -/
structure Description where
  width : ℕ
  height : ℕ
  tables : List (UInt8 × List UInt8)
deriving DecidableEq, Repr

/-- The size in a baseline frame header. -/
def frameSize : List UInt8 → Option (ℕ × ℕ)
  | _ :: high :: low :: highWidth :: lowWidth :: _ => some (word highWidth lowWidth, word high low)
  | _ => none

def describe (segments : List Segment) : Option Description :=
  ((segments.find? (·.marker = baselineFrame)).bind fun frame => frameSize frame.content).map fun (width, height) =>
    { width, height
      tables := (segments.filter (·.marker = quantTables)).flatMap fun segment =>
        readTables segment.content.length segment.content }

/-- The order of a table: by diagonals, up and down in turn, each coefficient as 8 times its row plus its
column. -/
def zigzag : List ℕ :=
  (List.range 15).flatMap fun diagonal =>
    let rows := (List.range 8).filter fun row => row ≤ diagonal ∧ diagonal - row < 8
    (if diagonal % 2 = 0 then rows.reverse else rows).map fun row => 8 * row + (diagonal - row)

/-- A table by rows, from its bytes by increasing frequency. -/
def unzigzag (entries : List UInt8) (i : ℕ) : UInt8 := entries.getD (zigzag.idxOf i) 0

theorem unzigzag_zigzag (table : ℕ → UInt8) {i : ℕ} (small : i < 64) : unzigzag (zigzag.map table) i = table i := by
  have all : ∀ j < 64, j ∈ zigzag := by decide
  have present := List.idxOf_lt_length_of_mem (all i small)
  rw [unzigzag, List.getD_eq_getElem?_getD, List.getElem?_map, List.getElem?_eq_getElem present,
    List.getElem_idxOf present]
  rfl

theorem word_wordBytes {value : ℕ} (small : value < 2 ^ 16) :
    word (.ofNat (value / 256)) (.ofNat value) = value := by
  simp only [word, UInt8.toNat_ofNat']
  omega

theorem readSegment_bytes {segment : Segment} (small : segment.length < 2 ^ 16) (rest : List UInt8) :
    readSegment (segment.bytes ++ rest) = some (segment, rest) := by
  have size : word (.ofNat (segment.length / 256)) (.ofNat segment.length) - 2 = segment.content.length := by
    rw [word_wordBytes small]
    rfl
  simp only [Segment.bytes, wordBytes, List.cons_append, List.nil_append, readSegment, size]
  rw [if_pos (List.length_append ▸ Nat.le_add_right ..), List.take_left, List.drop_left]

/-- Segments are read back if the last one starts the scan. -/
theorem readSegments_bytes {segments : List Segment} {scan : Segment} (small : scan.length < 2 ^ 16)
    (last : scan.marker = startOfScan)
    (before : ∀ segment ∈ segments, segment.length < 2 ^ 16 ∧ segment.marker ≠ startOfScan) (rest : List UInt8)
    {fuel : ℕ} (enough : segments.length < fuel) :
    readSegments fuel (segments.flatMap Segment.bytes ++ (scan.bytes ++ rest)) = some (segments ++ [scan], rest) := by
  induction segments generalizing fuel with
  | nil =>
    cases fuel with
    | zero => exact absurd enough (Nat.not_lt_zero _)
    | succ fuel =>
      simp only [List.flatMap_nil, List.nil_append, readSegments, readSegment_bytes small, Option.bind_some, last,
        if_true]
  | cons segment segments ih =>
    cases fuel with
    | zero => exact absurd enough (Nat.not_lt_zero _)
    | succ fuel =>
      obtain ⟨short, other⟩ := before segment List.mem_cons_self
      have later := ih (fun segment member => before segment (List.mem_cons_of_mem _ member))
        (Nat.lt_of_succ_lt_succ enough)
      simp only [List.flatMap_cons, List.append_assoc, readSegments, readSegment_bytes short, Option.bind_some, other,
        if_false, later, Option.map_some, List.cons_append]

end H618Vpu.Spec.Jpeg
