import H618Vpu.Model.JpegFile
import H618Vpu.Soundness.JpegHeaders

/-! # Whole JPEG files

The bytes that are put before a payload are those of the header, and a buffer that is given back with a payload is
a file: the header, what the hardware wrote, and the end of the image. No access leaves the plane.
-/

namespace H618Vpu.Jpeg

open Bytes
open Formats (PixFormat)
open Spec.Jpeg (Segment readHeader describe unzigzag)

namespace Header

theorem putArray_append (first second : List UInt8) :
    (putArray first >>= fun _ => putArray second) = putArray (first ++ second) :=
  (List.forM_append ..).symm

theorem putByte_eq (byte : UInt8) : putByte byte = putArray [byte] := by
  rw [putArray, List.forM_cons, List.forM_nil]
  exact bind_pure_unit.symm

theorem putU16_eq (value : ℕ) : putU16 value = putArray (Spec.Jpeg.wordBytes value) := by
  rw [putU16, putByte_eq, putByte_eq, putArray_append]
  rfl

theorem putTable_eq (id : UInt8) (table : Table) : putTable id table = putArray (tableSegment id table).bytes := by
  have entries : (forM zigzag fun i => putByte (table i)) = putArray (zigzag.map table) := (List.forM_map ..).symm
  rw [putTable, entries, putByte_eq, putArray_append, putArray_append, tableSegment_bytes]

/-- The header is put like one array. -/
theorem putHeader_eq (format : PixFormat) (quant : Quant) :
    putHeader format quant = putArray (headerBytes format.width format.height quant) := by
  have app : [0xff, 0xd8, 0xff, 0xe0, 0x00, 0x10, 0x4a, 0x46, 0x49, 0x46, 0x00, 0x01, 0x01, 0x00, 0x00, 0x01, 0x00,
      0x01, 0x00, 0x00] = Spec.Jpeg.startOfImage ++ appSegment.bytes := by decide
  have scan : [0xff, 0xda, 0x00, 0x0c, 0x03, 0x01, 0x00, 0x02, 0x11, 0x03, 0x11, 0x00, 0x3f, 0x00] =
      scanSegment.bytes := by decide
  rw [putHeader, app, scan]
  simp only [putTable_eq, putU16_eq, putArray_append, List.append_assoc]
  simp only [headerBytes, segments, List.flatMap_append, ← dht_segments, List.flatMap_cons, List.flatMap_nil,
    List.append_nil, frameSegment_bytes, List.append_assoc]

theorem run_bind (first second : Writer) (header : Header) :
    (first >>= fun _ => second).run header =
      (first.run header).bind fun answer => match answer with
        | (.ok (), next) => second.run next
        | (.error errno, next) => some (.error errno, next) := by
  change (first.run header).bind _ = _
  congr 1
  funext answer
  obtain ⟨errno | _, next⟩ := answer <;> rfl

/-- A writer after one that returned 0. -/
theorem run_bind_ok {first second : Writer} {header next : Header} (done : first.run header = some (.ok (), next)) :
    (first >>= fun _ => second).run header = second.run next := by
  rw [run_bind, done]
  rfl

/-- Nothing is written after an error. -/
theorem run_bind_error {first second : Writer} {header next : Header} {errno : ℤ}
    (failed : first.run header = some (.error errno, next)) :
    (first >>= fun _ => second).run header = some (.error errno, next) := by
  rw [run_bind, failed]
  rfl

/-- An array that fits is stored in the plane. -/
theorem run_putArray (bytes : List UInt8) (header : Header) (room : header.position + bytes.length ≤ header.size)
    (inside : header.size ≤ header.data.length) :
    (putArray bytes).run header = some (.ok (),
      ⟨store header.data header.position bytes, header.size, header.position + bytes.length⟩) := by
  induction bytes generalizing header with
  | nil =>
    rw [store_nil]
    rfl
  | cons byte bytes ih =>
    rw [List.length_cons] at room
    have free : ¬ header.size ≤ header.position := by omega
    have present : header.position < header.data.length := by omega
    have first : (putByte byte).run header =
        some (.ok (),
          { header with data := header.data.set header.position byte, position := header.position + 1 }) := by
      change (if header.size ≤ header.position then _ else _) = _
      rw [if_neg free, poke, if_pos present]
      rfl
    have rest := ih { header with data := header.data.set header.position byte, position := header.position + 1 }
      (by dsimp only; omega) (by rw [List.length_set]; exact inside)
    have step : (putArray (byte :: bytes)).run header = (putArray bytes).run
        { header with data := header.data.set header.position byte, position := header.position + 1 } := by
      rw [putArray, List.forM_cons, ← putArray]
      exact run_bind_ok first
    rw [step, rest]
    simp only [store_set_succ _ _ _ _ present, List.length_cons, Nat.add_assoc, Nat.add_comm 1]

/-- An array that does not fit is stored up to the end of the room. -/
theorem run_putArray_full (bytes : List UInt8) (header : Header) (tight : header.size < header.position + bytes.length)
    (start : header.position ≤ header.size) (inside : header.size ≤ header.data.length) :
    ∃ next, (putArray bytes).run header = some (.error enospc, next) := by
  have split := List.take_append_drop (header.size - header.position) bytes
  have front : (bytes.take (header.size - header.position)).length = header.size - header.position :=
    List.length_take_of_le (by omega)
  obtain ⟨byte, later, behind⟩ : ∃ byte later, bytes.drop (header.size - header.position) = byte :: later := by
    apply List.exists_cons_of_ne_nil
    rw [ne_eq, List.drop_eq_nil_iff]
    omega
  have stored := run_putArray (bytes.take (header.size - header.position)) header (by omega) inside
  have none : (putByte byte).run
      ⟨store header.data header.position (bytes.take (header.size - header.position)), header.size,
        header.position + (bytes.take (header.size - header.position)).length⟩ = some (.error enospc, _) :=
    if_pos (by rw [front]; dsimp only; omega)
  rw [← split, ← putArray_append, run_bind_ok stored, behind, putArray, List.forM_cons]
  exact ⟨_, run_bind_error none⟩

/-- The header takes the place of the room that was made for it. -/
theorem run_putHeader (format : PixFormat) (quant : Quant) {room : List UInt8} (rest : List UInt8)
    (size : room.length = headerSize) :
    (putHeader format quant).run ⟨room ++ rest, headerSize, 0⟩ =
      some (.ok (), ⟨headerBytes format.width format.height quant ++ rest, headerSize, headerSize⟩) := by
  have length := headerBytes_length format.width format.height quant
  have inside : headerSize ≤ (room ++ rest).length := by
    rw [List.length_append, size]
    exact Nat.le_add_right _ _
  rw [putHeader_eq, run_putArray _ _ (by dsimp only; omega) inside]
  simp only [store, List.take_zero, List.nil_append, Nat.zero_add, length, List.drop_left' size]

/-- In a room of any size, the writers that store the bytes and those that only collect them give the same answer and
the same bytes. -/
theorem run_putHeader_eq (format : PixFormat) (quant : Quant) (room rest : List UInt8) :
    ∃ answer header, (putHeader format quant).run ⟨room ++ rest, room.length, 0⟩ = some (answer, header) ∧
      (answer.map fun _ => header.data.take header.position) = Jpeg.putHeader room.length format quant := by
  have inside : room.length ≤ (room ++ rest).length := by
    rw [List.length_append]
    exact Nat.le_add_right _ _
  rw [putHeader_eq, putHeader_eq_putArray]
  generalize headerBytes format.width format.height quant = bytes
  by_cases fits : bytes.length ≤ room.length
  · refine ⟨_, _, run_putArray bytes _ (by dsimp only; omega) inside, ?_⟩
    rw [Jpeg.putArray, if_pos (by rwa [List.length_nil, Nat.zero_add])]
    simp only [Except.map, store, List.take_zero, List.nil_append, Nat.zero_add, List.take_left]
  · obtain ⟨next, failed⟩ := run_putArray_full bytes ⟨room ++ rest, room.length, 0⟩ (by dsimp only; omega)
      (Nat.zero_le _) inside
    refine ⟨_, _, failed, ?_⟩
    rw [Jpeg.putArray, if_neg (by rwa [List.length_nil, Nat.zero_add])]
    rfl

end Header

/-- The bytes `FF D9`. -/
def endOfImage : List UInt8 := [0xff, 0xd9]

namespace VbBuffer

variable {buffer : VbBuffer}

theorem room_eq (buffer : VbBuffer) (small : buffer.coded.length < 2 ^ 32)
    (large : headerSize + 2 ≤ buffer.coded.length) : buffer.room headerSize = buffer.coded.length - headerSize - 2 := by
  simp only [room, headerSize] at large ⊢
  omega

theorem exists_cons_cons {rest : List UInt8} (more : 2 ≤ rest.length) :
    ∃ first second tail, rest = first :: second :: tail := by
  cases rest with
  | nil => exact absurd more (Nat.not_succ_le_zero 1)
  | cons first rest =>
    cases rest with
    | nil => exact absurd more (Nat.not_succ_le_self 1)
    | cons second tail => exact ⟨first, second, tail, rfl⟩

/-- Two pokes behind a prefix. -/
theorem poke_endOfImage (front tail : List UInt8) (first second : UInt8) :
    ((poke (front ++ first :: second :: tail) front.length 0xff).bind fun coded =>
      poke coded (front.length + 1) 0xd9) = some (front ++ (endOfImage ++ tail)) := by
  have behind : front.length < (front ++ first :: second :: tail).length := by
    simp only [List.length_append, List.length_cons]
    omega
  have marked : (front ++ first :: second :: tail).set front.length 0xff = front ++ 0xff :: second :: tail := by
    rw [List.set_append_right _ _ le_rfl, Nat.sub_self]
    rfl
  have behind' : front.length + 1 < (front ++ 0xff :: second :: tail).length := by
    simp only [List.length_append, List.length_cons]
    omega
  rw [poke, if_pos behind, Option.bind_some, marked, poke, if_pos behind',
    List.set_append_right _ _ (Nat.le_add_right _ 1), Nat.add_sub_cancel_left]
  rfl

/-- A payload that leaves room becomes a file. -/
theorem bufferFinish_file (buffer : VbBuffer) (format : PixFormat) (quant : Quant)
    (small : buffer.coded.length < 2 ^ 32) (mapped : buffer.mapped = true) (state : buffer.state = true)
    (error : buffer.error = false) (engine : buffer.jpegBuffer = some { quant, headerSize })
    (fits : headerSize + buffer.payload + 2 ≤ buffer.coded.length) :
    ∃ coded : List UInt8, coded.length = buffer.coded.length ∧
      coded.take (buffer.payload + headerSize + 2) =
        headerBytes format.width format.height quant ++ (buffer.coded.take buffer.payload ++ endOfImage) ∧
      buffer.bufferFinish format = some { buffer with coded, payload := buffer.payload + headerSize + 2 } := by
  have size := headerBytes_length format.width format.height quant
  have room := buffer.room_eq small (by omega)
  have length : (buffer.coded.take buffer.payload).length = buffer.payload := List.length_take_of_le (by omega)
  have front : (buffer.coded.take headerSize).length = headerSize := List.length_take_of_le (by omega)
  -- The payload stands behind the room that is made, and two bytes at least stand behind it.
  have more : 2 ≤ (buffer.coded.drop (headerSize + buffer.payload)).length := by
    rw [List.length_drop]
    omega
  obtain ⟨first, second, tail, rest⟩ := exists_cons_cons more
  have moved := move_front (show headerSize + buffer.payload ≤ buffer.coded.length by omega)
  rw [rest] at moved
  have put := Header.run_putHeader format quant (buffer.coded.take buffer.payload ++ first :: second :: tail) front
  have prefixed : buffer.payload + headerSize =
      (headerBytes format.width format.height quant ++ buffer.coded.take buffer.payload).length := by
    rw [List.length_append, size, length, Nat.add_comm]
  have marked := poke_endOfImage (headerBytes format.width format.height quant ++ buffer.coded.take buffer.payload)
    tail first second
  rw [← prefixed, List.append_assoc] at marked
  have total : (headerBytes format.width format.height quant ++
      (buffer.coded.take buffer.payload ++ (endOfImage ++ tail))).length = buffer.coded.length := by
    have whole := congrArg List.length rest
    simp only [List.length_drop, List.length_cons] at whole
    simp only [List.length_append, size, length, endOfImage, List.length_cons, List.length_nil]
    omega
  have enough : ¬ (buffer.mapped = false ∨ buffer.room headerSize < buffer.payload) := by
    rw [mapped, room]
    simp only [Bool.true_eq_false, false_or]
    omega
  have whole : min (buffer.payload + headerSize + 2) buffer.coded.length = buffer.payload + headerSize + 2 :=
    min_eq_left (by omega)
  have taken : (headerBytes format.width format.height quant ++ (buffer.coded.take buffer.payload ++
      (endOfImage ++ tail))).take (buffer.payload + headerSize + 2) =
      headerBytes format.width format.height quant ++ (buffer.coded.take buffer.payload ++ endOfImage) := by
    rw [← List.append_assoc (buffer.coded.take buffer.payload), ← List.append_assoc]
    apply List.take_left'
    simp only [List.length_append, size, length, endOfImage, List.length_cons, List.length_nil]
    omega
  refine ⟨_, total, taken, ?_⟩
  simp only [bufferFinish, engine, state, error, if_neg enough, moved, put, Option.bind_eq_bind, Option.bind_some,
    ne_eq, not_true_eq_false, Bool.true_eq_false, Bool.false_eq_true, or_self, ↓reduceIte]
  rw [← Option.bind_assoc, marked, Option.bind_some]
  simp only [setPayload, List.append_assoc, total, whole]

/-- A buffer in error is left alone. -/
theorem bufferFinish_error (format : PixFormat) (error : buffer.error = true) :
    buffer.bufferFinish format = some buffer := by
  unfold bufferFinish
  split
  · rfl
  · rw [if_pos (Or.inr (Or.inr error))]

/-- A plane that cannot be mapped has no file. -/
theorem bufferFinish_unmapped (format : PixFormat) (quant : Quant) (mapped : buffer.mapped = false)
    (state : buffer.state = true) (error : buffer.error = false)
    (engine : buffer.jpegBuffer = some { quant, headerSize }) : buffer.bufferFinish format = some buffer.fail := by
  simp only [bufferFinish, engine, state, error, mapped, ne_eq, not_true_eq_false, Bool.true_eq_false,
    Bool.false_eq_true, or_self, true_or, ↓reduceIte]

/-- What user space finds in the plane. -/
def dequeued (buffer : VbBuffer) : List UInt8 := buffer.coded.take buffer.payload

end VbBuffer

/-- The length is no whole number of bytes, or leaves no room for the header and the end marker. -/
def Rejected (plane bits : ℕ) : Prop := bits % 8 ≠ 0 ∨ plane < bits / 8 + 625

/-- What the end of a job leaves in its buffer. -/
theorem jobFinish_eq {buffer : VbBuffer} {job : Job} (bits : ℕ) (engine : buffer.jpegBuffer.isSome = true)
    (configured : job.headerSize = headerSize) (plane : headerSize + 1024 ≤ buffer.coded.length)
    (small : buffer.coded.length < 2 ^ 32) :
    (Rejected buffer.coded.length bits → (buffer.jobFinish job true bits).payload = 0 ∧
        (buffer.jobFinish job true bits).error = true ∧ (buffer.jobFinish job true bits).coded = buffer.coded) ∧
      (¬ Rejected buffer.coded.length bits → buffer.jobFinish job true bits =
        { buffer with
          state := true
          jpegBuffer := some { quant := job.quant, headerSize }
          payload := bits / 8
          keyframe := true }) := by
  have present : buffer.jpegBuffer.isNone = false := by
    rw [← Option.not_isSome, engine, Bool.not_true]
  have room := buffer.room_eq small (by rw [headerSize] at plane ⊢; omega)
  have same : (bits % 8 ≠ 0 ∨ buffer.room headerSize < bits / 8) ↔ Rejected buffer.coded.length bits := by
    rw [room, Rejected, headerSize]
    rw [headerSize] at plane
    omega
  have unchanged (buffer' : VbBuffer) (equal : buffer'.coded = buffer.coded) :
      buffer'.room headerSize = buffer.room headerSize := by
    rw [VbBuffer.room, VbBuffer.room, equal]
  constructor
  · intro rejected
    have branch := same.mpr rejected
    rw [← unchanged { buffer with state := true, jpegBuffer := some { quant := job.quant, headerSize } } rfl] at branch
    simp only [VbBuffer.jobFinish, present, configured, Bool.not_true, Bool.or_self, Bool.false_eq_true, ↓reduceIte,
      if_pos branch, VbBuffer.fail, VbBuffer.setPayload, Nat.zero_min, and_self]
  · intro accepted
    have branch := mt same.mp accepted
    rw [← unchanged { buffer with state := true, jpegBuffer := some { quant := job.quant, headerSize } } rfl] at branch
    have fits : min (bits / 8) buffer.coded.length = bits / 8 := by
      rw [Rejected] at accepted
      omega
    simp only [VbBuffer.jobFinish, present, configured, Bool.not_true, Bool.or_self, Bool.false_eq_true, ↓reduceIte,
      if_neg branch, VbBuffer.setPayload, fits]

/-- APP0, two quantisation tables, the frame header, four Huffman tables, and the start of the scan. -/
def fileMarkers : List UInt8 := [0xe0, 0xdb, 0xdb, 0xc0, 0xc4, 0xc4, 0xc4, 0xc4, 0xda]

/-- A parser that goes from segment to segment stops with these bytes left, and has found the size and, each entry
at its place by rows, the tables. -/
def Parsed (file rest : List UInt8) (encoded : Encoded) : Prop :=
  ∃ segments description luma chroma, readHeader file = some (segments, rest) ∧
    segments.map Segment.marker = fileMarkers ∧ describe segments = some description ∧
    description.width = encoded.width ∧ description.height = encoded.height ∧
    description.tables = [(0, luma), (1, chroma)] ∧
    ∀ i < 64, unzigzag luma i = encoded.quant.luma i ∧ unzigzag chroma i = encoded.quant.chroma i

theorem parsed_headerBytes {width height : ℕ} (quant : Quant) (small : width < 2 ^ 16 ∧ height < 2 ^ 16)
    (rest : List UInt8) : Parsed (headerBytes width height quant ++ rest) rest ⟨width, height, quant⟩ := by
  refine ⟨_, _, _, _, readHeader_headerBytes width height quant rest, rfl, describe_segments quant small, rfl, rfl, rfl,
    ?_⟩
  exact fun i inside => ⟨Spec.Jpeg.unzigzag_zigzag _ inside, Spec.Jpeg.unzigzag_zigzag _ inside⟩

/-- A buffer that is given back is empty and in error when the length is rejected or the plane cannot be mapped, and
a file otherwise. -/
theorem file_well_formed (buffer : VbBuffer) (job : Job) (format : PixFormat) (bits : ℕ)
    (engine : buffer.jpegBuffer.isSome = true) (fresh : buffer.error = false) (configured : job.headerSize = headerSize)
    (plane : headerSize + 1024 ≤ buffer.coded.length) (small : buffer.coded.length < 2 ^ 32)
    (size : format.width < 2 ^ 16 ∧ format.height < 2 ^ 16) :
    ∃ file, (buffer.jobFinish job true bits).bufferFinish format = some file ∧
      file.coded.length = buffer.coded.length ∧
      (Rejected buffer.coded.length bits → file.payload = 0 ∧ file.error = true) ∧
      (buffer.mapped = false → file.payload = 0 ∧ file.error = true) ∧
      (¬ Rejected buffer.coded.length bits → buffer.mapped = true →
        file.error = false ∧ file.payload ≤ buffer.coded.length ∧
        ∃ header : List UInt8, header.length = 623 ∧
          file.dequeued = header ++ (buffer.coded.take (bits / 8) ++ endOfImage) ∧
          Parsed file.dequeued (buffer.coded.take (bits / 8) ++ endOfImage)
            ⟨format.width, format.height, job.quant⟩) := by
  obtain ⟨refused, taken⟩ := jobFinish_eq bits engine configured plane small
  by_cases rejected : Rejected buffer.coded.length bits
  · obtain ⟨payload, error, same⟩ := refused rejected
    exact ⟨_, VbBuffer.bufferFinish_error format error, congrArg List.length same, fun _ => ⟨payload, error⟩,
      fun _ => ⟨payload, error⟩, fun accepted => absurd rejected accepted⟩
  · rw [taken rejected]
    cases mapped : buffer.mapped with
    | false =>
      refine ⟨_, VbBuffer.bufferFinish_unmapped format job.quant rfl rfl fresh rfl, rfl,
        fun refused => absurd refused rejected, fun _ => ⟨Nat.zero_min _, rfl⟩,
        fun _ absent => absurd absent Bool.false_ne_true⟩
    | true =>
      rw [Rejected, not_or, not_lt] at rejected
      obtain ⟨coded, length, file, finished⟩ := VbBuffer.bufferFinish_file
        { buffer with
          mapped := true
          state := true
          jpegBuffer := some { quant := job.quant, headerSize }
          payload := bits / 8
          keyframe := true } format job.quant small rfl rfl fresh rfl (by simp only [headerSize]; omega)
      refine ⟨_, finished, length, fun refused => absurd refused (by rw [Rejected]; omega),
        fun absent => absurd absent.symm Bool.false_ne_true, fun _ _ =>
          ⟨fresh, ?_, headerBytes format.width format.height job.quant, headerBytes_length .., file, ?_⟩⟩
      · simp only [headerSize]
        omega
      · rw [VbBuffer.dequeued, file]
        exact parsed_headerBytes job.quant size _

/-- A thousand bytes of a picture of 640 by 480, in a plane of 4096. -/
theorem file_well_formed_vga :
    ∃ file, (({ coded := List.replicate 4096 0x55 } : VbBuffer).jobFinish { jobPrepare 90 with headerSize } true
        8000).bufferFinish { width := 640, height := 480 } = some file ∧
      file.coded.length = 4096 ∧ file.error = false ∧ file.payload = 1625 ∧
        Parsed file.dequeued (List.replicate 1000 0x55 ++ endOfImage) ⟨640, 480, (jobPrepare 90).quant⟩ := by
  obtain ⟨file, finished, length, -, -, accepted⟩ := file_well_formed { coded := List.replicate 4096 0x55 }
    { jobPrepare 90 with headerSize } { width := 640, height := 480 } 8000 rfl rfl rfl
    (by rw [List.length_replicate]; decide) (by rw [List.length_replicate]; decide) ⟨by decide, by decide⟩
  rw [List.length_replicate] at length accepted
  obtain ⟨error, inside, header, size, whole, parsed⟩ := accepted (by rw [Rejected]; omega) rfl
  have payload : file.dequeued.length = file.payload := by
    rw [VbBuffer.dequeued, List.length_take, length]
    exact min_eq_left inside
  have taken : (List.replicate 4096 (0x55 : UInt8)).take (8000 / 8) = List.replicate 1000 0x55 := List.take_replicate ..
  rw [taken] at whole parsed
  rw [whole, List.length_append, List.length_append, size, List.length_replicate] at payload
  exact ⟨file, finished, length, error, payload.symm, parsed⟩

/-- A plane that the processor cannot map gets no file, whatever the length. -/
theorem file_not_always_well_formed :
    ¬ ∀ (buffer : VbBuffer) (job : Job) (format : PixFormat) (bits : ℕ), buffer.jpegBuffer.isSome = true →
      buffer.error = false → job.headerSize = headerSize → headerSize + 1024 ≤ buffer.coded.length →
      buffer.coded.length < 2 ^ 32 → format.width < 2 ^ 16 ∧ format.height < 2 ^ 16 →
      ∃ file, (buffer.jobFinish job true bits).bufferFinish format = some file ∧
        (Rejected buffer.coded.length bits ∧ file.payload = 0 ∧ file.error = true ∨
          ∃ header : List UInt8, header.length = 623 ∧
            file.dequeued = header ++ (buffer.coded.take (bits / 8) ++ endOfImage)) := by
  intro always
  have plane : headerSize + 1024 ≤ (List.replicate 4096 (0x55 : UInt8)).length := by
    rw [List.length_replicate]
    decide
  have small : (List.replicate 4096 (0x55 : UInt8)).length < 2 ^ 32 := by
    rw [List.length_replicate]
    decide
  have accepted : ¬ Rejected (List.replicate 4096 (0x55 : UInt8)).length 8000 := by
    rw [Rejected, List.length_replicate]
    omega
  obtain ⟨file, finished, outcome⟩ := always { coded := List.replicate 4096 0x55, mapped := false }
    { jobPrepare 90 with headerSize } { width := 640, height := 480 } 8000 rfl rfl rfl plane small (by decide)
  rw [(jobFinish_eq 8000 rfl rfl plane small).2 accepted,
    VbBuffer.bufferFinish_unmapped _ (jobPrepare 90).quant rfl rfl rfl rfl] at finished
  obtain rfl := Option.some.inj finished
  rcases outcome with ⟨rejected, -⟩ | ⟨header, size, whole⟩
  · exact accepted rejected
  · have empty := congrArg List.length whole
    simp only [VbBuffer.dequeued, VbBuffer.fail, VbBuffer.setPayload, Nat.zero_min, List.take_zero, List.length_nil,
      List.length_append, size] at empty
    omega

end H618Vpu.Jpeg
