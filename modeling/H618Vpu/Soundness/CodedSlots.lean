import H618Vpu.Soundness.FormatConstraints

/-! # The slots of the coded queue

An encoder keeps private data with a coded buffer that its engine sets up when the slot gets memory. The
engine cannot change while there are coded buffers, so a slot with memory has what the current engine needs,
and a slot that is queued has memory.
-/

namespace H618Vpu.Formats

/-- The slot has memory. -/
def State.HasMemory (s : State) (slot : ℕ) : Prop :=
  ∃ buffer, s.coded.buffers[slot]? = some buffer ∧ buffer.memPriv.isSome = true

/-- A slot with memory has the private data the engine keeps with coded buffers. -/
def Buffer.SetUp (engine : Engine) (buffer : Buffer) : Prop :=
  buffer.memPriv.isSome = true → engine.codedBufferSize ≠ 0 → buffer.engineBuffer ≠ none

/-- The slots of the coded queue are set up, those that are queued have memory and are queued once, and a
queue that streams has buffers. -/
structure State.Slotted (s : State) : Prop where
  setUp : ∀ buffer ∈ s.coded.buffers, buffer.SetUp s.engine
  mmap : s.coded.memory = .mmap → ∀ buffer ∈ s.coded.buffers, buffer.memPriv.isSome = true
  ready : ∀ slot ∈ s.coded.ready, s.HasMemory slot
  nodup : s.coded.ready.Nodup
  busy : ∀ type, (s.queue type).streaming = true → (s.queue type).buffers ≠ []

section

variable {s : State} {type : FormatType}

theorem reqbufs_of_streaming (streaming : (s.queue type).streaming = true) (memory : Memory) (count allocated : ℕ) :
    s.reqbufs type memory count allocated = s := by
  rw [State.reqbufs, if_pos streaming]

/-- The other queue is left as it is. -/
theorem reqbufs_other {other : FormatType} (apart : other ≠ type) (memory : Memory) (count allocated : ℕ) :
    (s.reqbufs type memory count allocated).queue other = s.queue other := by
  unfold State.reqbufs
  split
  · rfl
  · dsimp only
    split <;> (cases type <;> cases other <;> first | rfl | exact absurd rfl apart)

theorem reqbufs_streaming (other : FormatType) (memory : Memory) (count allocated : ℕ) :
    ((s.reqbufs type memory count allocated).queue other).streaming = (s.queue other).streaming := by
  unfold State.reqbufs
  split
  · rfl
  · dsimp only
    split <;> (cases type <;> cases other <;> rfl)

theorem qbuf_streaming (other : FormatType) (index : ℕ) (dmabuf : DmaBuf) :
    ((s.qbuf type index dmabuf).queue other).streaming = (s.queue other).streaming := by
  unfold State.qbuf
  dsimp only
  split
  · rfl
  split
  · rfl
  · cases type <;> cases other <;> rfl

theorem qbuf_picture_coded (index : ℕ) (dmabuf : DmaBuf) : (s.qbuf .picture index dmabuf).coded = s.coded := by
  unfold State.qbuf
  dsimp only
  split
  · rfl
  split <;> rfl

/-- `STREAMON` stops no queue, and changes no slot. -/
theorem streamOn_queue (type other : FormatType) (started : Bool) :
    ((s.queue other).streaming = true → ((s.streamOn type started).queue other).streaming = true) ∧
      ((s.streamOn type started).queue other).buffers = (s.queue other).buffers ∧
        ((s.streamOn type started).queue other).ready = (s.queue other).ready := by
  unfold State.streamOn
  dsimp only
  split
  · exact ⟨id, rfl, rfl⟩
  split
  · exact ⟨id, rfl, rfl⟩
  · cases type <;> cases other <;> exact ⟨fun streaming => by first | rfl | exact streaming, rfl, rfl⟩

end

namespace State.Slotted

variable {s : State} {type : FormatType}

theorem engineBuffer (slotted : s.Slotted) {slot : ℕ} {buffer : Buffer} (memory : s.HasMemory slot)
    (found : s.coded.buffers[slot]? = some buffer) (kept : s.engine.codedBufferSize ≠ 0) :
    buffer.engineBuffer ≠ none := by
  obtain ⟨same, also, attached⟩ := memory
  obtain rfl := Option.some.inj (also.symm.trans found)
  exact slotted.setUp same (List.mem_of_getElem? found) attached kept

/-- Nothing about the slots changes; a queue may stop. -/
theorem frame {next : State} (slotted : s.Slotted) (buffers : next.coded.buffers = s.coded.buffers)
    (memory : next.coded.memory = s.coded.memory) (ready : next.coded.ready.Sublist s.coded.ready)
    (engine : next.engine = s.engine ∨ s.coded.buffers = [])
    (busy : ∀ type, (next.queue type).streaming = true → (next.queue type).buffers ≠ []) : next.Slotted where
  setUp buffer member := by
    rw [buffers] at member
    rcases engine with same | empty
    · rw [same]
      exact slotted.setUp buffer member
    · rw [empty] at member
      cases member
  mmap mmap buffer member := slotted.mmap (memory ▸ mmap) buffer (buffers ▸ member)
  ready slot member := by
    rw [HasMemory, buffers]
    exact slotted.ready slot (ready.subset member)
  nodup := slotted.nodup.sublist ready
  busy := busy

theorem sFmt (slotted : s.Slotted) (role : s.proc.role = .encoder) (buffers : BufferType) (request : PixFormat) :
    (s.sFmt buffers request).1.Slotted := by
  obtain ⟨⟨-, coded, picture⟩, engine, -⟩ := sFmt_encoder role buffers request
  refine slotted.frame (by rw [coded]) (by rw [coded]) (coded ▸ .refl _) engine fun type => ?_
  have kept : (s.sFmt buffers request).1.queue type = s.queue type := by
    cases type with
    | coded => exact coded
    | picture => exact picture
  rw [kept]
  exact slotted.busy type

/-- The picture queue is replaced by one that has buffers if it streams. -/
theorem setPicture (slotted : s.Slotted) {queue : Queue} (cleanups : List Cleanup)
    (busy : queue.streaming = true → queue.buffers ≠ []) :
    ({ s with cleanups }.setQueue .picture queue).Slotted := by
  refine slotted.frame rfl rfl (.refl _) (.inl rfl) fun type => ?_
  cases type with
  | coded => exact slotted.busy .coded
  | picture => exact busy

/-- A slot that gets memory is set up. -/
theorem bufferInit {buffer : Buffer} (memory : buffer.memPriv.isSome = true) :
    (s.bufferInit .coded buffer).SetUp s.engine ∧ (s.bufferInit .coded buffer).memPriv.isSome = true := by
  unfold State.bufferInit
  split
  case isTrue empty => exact ⟨fun _ kept => absurd empty kept, memory⟩
  case isFalse => exact ⟨fun _ _ => nofun, memory⟩

/-- A new slot is set up, and has memory if it is an MMAP slot. -/
theorem newBuffer (memory : Memory) :
    (s.newBuffer .coded memory).SetUp s.engine ∧
      (memory = .mmap → (s.newBuffer .coded memory).memPriv.isSome = true) := by
  cases memory with
  | dmabuf => exact ⟨nofun, nofun⟩
  | mmap =>
    let size := (s.format .coded).sizeimage
    let fresh : Buffer := { planeSize := size, minLength := size, memPriv := some 0 }
    obtain ⟨setUp, memory⟩ := bufferInit (s := s) (rfl : fresh.memPriv.isSome = true)
    exact ⟨setUp, fun _ => memory⟩

theorem reqbufs (slotted : s.Slotted) (memory : Memory) (count allocated : ℕ) :
    (s.reqbufs type memory count allocated).Slotted := by
  unfold State.reqbufs
  split
  case isTrue => exact slotted
  case isFalse stopped =>
    cases type with
    | picture =>
      dsimp only
      split
      · exact slotted.setPicture _ fun streaming => absurd streaming stopped
      · exact (slotted.setPicture _ fun streaming => absurd streaming stopped).setPicture _ fun streaming =>
          absurd streaming stopped
    | coded =>
      have busy (queue : Queue) (same : queue.streaming = s.coded.streaming) (type : FormatType) :
          ((s.setQueue .coded queue).queue type).streaming = true →
            ((s.setQueue .coded queue).queue type).buffers ≠ [] := by
        cases type with
        | coded => exact fun streaming => absurd (same.symm.trans streaming) stopped
        | picture => exact slotted.busy .picture
      dsimp only
      split
      · exact ⟨nofun, nofun, nofun, .nil, busy _ rfl⟩
      · obtain ⟨setUp, mmap⟩ := newBuffer (s := s) memory
        refine ⟨fun buffer member => ?_, fun mapped buffer member => ?_, nofun, .nil, busy _ rfl⟩
        · exact List.eq_of_mem_replicate member ▸ setUp
        · exact List.eq_of_mem_replicate member ▸ mmap mapped

/-- Preparing a coded slot leaves it set up; one that is prepared, and an MMAP slot, has memory. -/
theorem prepare {buffer : Buffer} (slotted : s.Slotted) (member : buffer ∈ s.coded.buffers) (dmabuf : DmaBuf) :
    (s.prepare .coded buffer dmabuf).1.SetUp s.engine ∧
      (((s.prepare .coded buffer dmabuf).2.2 = true ∨ s.coded.memory = .mmap) →
        (s.prepare .coded buffer dmabuf).1.memPriv.isSome = true) := by
  have attached {buffer : Buffer} (setUp : buffer.SetUp s.engine) (memory : buffer.memPriv.isSome = true) :
      (s.prepareAttached .coded buffer).1.SetUp s.engine ∧
        ((s.prepareAttached .coded buffer).2.2 = true → (s.prepareAttached .coded buffer).1.memPriv.isSome = true) := by
    unfold State.prepareAttached
    split
    · exact ⟨setUp, fun _ => memory⟩
    · constructor <;> rintro ⟨⟩
  have setUp := slotted.setUp buffer member
  rw [State.prepare]
  split
  case h_1 memory => exact ⟨setUp, fun _ => slotted.mmap memory buffer member⟩
  case h_2 memory =>
    have dmabufs {prepared : Prop} : prepared ∨ s.coded.memory = .mmap → prepared := by
      rintro (prepared | mapped)
      · exact prepared
      · cases mapped.symm.trans memory
    rw [State.prepareDmabuf]
    split
    case isTrue => exact ⟨setUp, fun prepared => absurd (dmabufs prepared) Bool.false_ne_true⟩
    split
    case isTrue same =>
      obtain ⟨kept, memory⟩ := attached setUp (same.1 ▸ rfl)
      exact ⟨kept, fun prepared => memory (dmabufs prepared)⟩
    dsimp only
    split
    case isTrue => exact ⟨by rintro ⟨⟩, fun prepared => absurd (dmabufs prepared) Bool.false_ne_true⟩
    case isFalse =>
      let fresh : Buffer :=
        { (s.release .coded buffer).1 with planeSize := dmabuf.planeLength, memPriv := some dmabuf.id }
      obtain ⟨initialised, present⟩ := bufferInit (s := s) (rfl : fresh.memPriv.isSome = true)
      obtain ⟨kept, memory⟩ := attached initialised present
      exact ⟨kept, fun prepared => memory (dmabufs prepared)⟩

/-- What `QBUF` on the coded queue does: nothing, or it prepares a slot that was not queued. -/
theorem qbuf_coded (s : State) (index : ℕ) (dmabuf : DmaBuf) :
    s.qbuf .coded index dmabuf = s ∨
      ∃ buffer ready, s.coded.buffers[index]? = some buffer ∧ index ∉ s.coded.ready ∧
        (ready = s.coded.ready ∨ (s.prepare .coded buffer dmabuf).2.2 = true ∧ ready = s.coded.ready ++ [index]) ∧
        s.qbuf .coded index dmabuf =
          { s with
            coded :=
              { s.coded with buffers := s.coded.buffers.set index (s.prepare .coded buffer dmabuf).1, ready } } := by
  unfold State.qbuf
  dsimp only
  split
  case h_1 => exact .inl rfl
  case h_2 buffer found =>
    split
    case isTrue => exact .inl rfl
    case isFalse free =>
      let ready :=
        if (s.prepare .coded buffer dmabuf).2.2 = true then s.coded.ready ++ [index] else s.coded.ready
      refine .inr ⟨buffer, ready, found, free, ?_, ?_⟩
      · exact if prepared : (s.prepare .coded buffer dmabuf).2.2 = true then .inr ⟨prepared, if_pos prepared⟩
          else .inl (if_neg prepared)
      · rw [Compatible.prepare_coded, List.append_nil]
        rfl

/-- A slot that is not the one of a `QBUF` keeps its memory. -/
theorem hasMemory_qbuf {index slot : ℕ} (memory : s.HasMemory slot) (other : index ≠ slot) (dmabuf : DmaBuf) :
    (s.qbuf .coded index dmabuf).HasMemory slot := by
  obtain same | ⟨buffer, ready, -, -, -, queued⟩ := qbuf_coded s index dmabuf
  · rwa [same]
  · rw [queued, HasMemory]
    dsimp only
    rwa [List.getElem?_set_ne other]

/-- Only the slot of a `QBUF` is queued by it. -/
theorem ready_qbuf {index slot : ℕ} {dmabuf : DmaBuf} (queued : slot ∈ (s.qbuf .coded index dmabuf).coded.ready) :
    slot ∈ s.coded.ready ∨ slot = index := by
  obtain same | ⟨buffer, ready, -, -, chosen, set⟩ := qbuf_coded s index dmabuf
  · exact .inl (same ▸ queued)
  · rw [set] at queued
    rcases chosen with rfl | ⟨-, rfl⟩
    · exact .inl queued
    · exact (List.mem_append.mp queued).imp_right List.mem_singleton.mp

theorem qbuf (slotted : s.Slotted) (index : ℕ) (dmabuf : DmaBuf) : (s.qbuf type index dmabuf).Slotted := by
  cases type with
  | picture =>
    unfold State.qbuf
    dsimp only
    split
    · exact slotted
    split
    · exact slotted
    · refine slotted.setPicture _ fun streaming empty => ?_
      exact slotted.busy .picture streaming (List.length_eq_zero_iff.mp (List.length_set.symm.trans
        (List.length_eq_zero_iff.mpr empty)))
  | coded =>
    obtain same | ⟨buffer, ready, found, free, chosen, queued⟩ := qbuf_coded s index dmabuf
    · rw [same]
      exact slotted
    have member := List.mem_of_getElem? found
    obtain ⟨setUp, memory⟩ := slotted.prepare member dmabuf
    have kept : ∀ slot ∈ s.coded.ready, (s.qbuf .coded index dmabuf).HasMemory slot := fun slot queued =>
      hasMemory_qbuf (slotted.ready slot queued) (ne_of_mem_of_not_mem queued free).symm dmabuf
    rw [queued] at kept ⊢
    refine ⟨fun other member => ?_, fun mapped other member => ?_, fun slot member => ?_, ?_, fun type => ?_⟩
    · rcases List.mem_or_eq_of_mem_set member with old | rfl
      · exact slotted.setUp other old
      · exact setUp
    · rcases List.mem_or_eq_of_mem_set member with old | rfl
      · exact slotted.mmap mapped other old
      · exact memory (.inr mapped)
    · rcases chosen with rfl | ⟨prepared, rfl⟩
      · exact kept slot member
      rcases List.mem_append.mp member with old | new
      · exact kept slot old
      · obtain rfl := List.mem_singleton.mp new
        have inside : slot < s.coded.buffers.length := (List.getElem?_eq_some_iff.mp found).1
        exact ⟨_, List.getElem?_set_self inside, memory (.inl prepared)⟩
    · rcases chosen with rfl | ⟨-, rfl⟩
      · exact slotted.nodup
      · refine slotted.nodup.append (List.nodup_singleton _) fun slot old new => free ?_
        exact List.mem_singleton.mp new ▸ old
    · cases type with
      | picture => exact slotted.busy .picture
      | coded =>
        exact fun streaming empty => slotted.busy .coded streaming (List.length_eq_zero_iff.mp
          (List.length_set.symm.trans (List.length_eq_zero_iff.mpr empty)))

theorem streamOn (slotted : s.Slotted) (started : Bool) : (s.streamOn type started).Slotted := by
  unfold State.streamOn
  dsimp only
  split
  · exact slotted
  case isFalse full =>
    split
    · exact slotted
    have busy : (s.queue type).buffers ≠ [] := by simpa [Queue.busy] using full
    cases type with
    | picture => exact slotted.setPicture _ fun _ => busy
    | coded =>
      refine slotted.frame rfl rfl (.refl _) (.inl rfl) fun type => ?_
      cases type with
      | coded => exact fun _ => busy
      | picture => exact slotted.busy .picture

theorem streamOff (slotted : s.Slotted) (type : FormatType) : (s.streamOff type).Slotted := by
  cases type with
  | picture => exact slotted.setPicture _ nofun
  | coded =>
    refine slotted.frame rfl rfl (List.nil_sublist _) (.inl rfl) fun type => ?_
    cases type with
    | coded => exact nofun
    | picture => exact slotted.busy .picture

theorem jobDone (slotted : s.Slotted) (held : Bool) : (s.jobDone held).Slotted :=
  slotted.frame rfl rfl (List.tail_sublist _) (.inl rfl) fun type => by
    cases type with
    | coded => exact slotted.busy .coded
    | picture => exact slotted.busy .picture

/-- A file that was just opened has no buffers. -/
theorem setup {proc : Proc} (role : proc.role = .encoder) (opened : State.setup proc = .ok s) : s.Slotted := by
  simp only [State.setup, role] at opened
  split at opened
  · cases opened
  · simp only [State.formatPropagate, role] at opened
    obtain rfl := Except.ok.inj opened
    refine ⟨?_, ?_, ?_, .nil, ?_⟩
    · rintro _ ⟨⟩
    · rintro - _ ⟨⟩
    · rintro _ ⟨⟩
    · intro type streaming
      cases type <;> cases streaming

end State.Slotted

end H618Vpu.Formats
