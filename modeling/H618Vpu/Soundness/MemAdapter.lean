import H618Vpu.Machine.Run
import H618Vpu.Math.Search
import H618Vpu.Model.MemAdapter

/-! # Translation and ownership in the memory-adapter bridge

The buffers of the bridge lie apart in both address spaces, so at most one of them contains an address and the
two translations are inverse to each other. The list has the handles that were not freed yet, and is empty when
nobody has the bridge open. The open count is 32 bits wide and wraps.
-/

namespace H618Vpu.MemAdapter

open Machine Math

/-- The address is in the range of `size` bytes from `base` on. -/
def Inside (base size address : ℕ) : Prop := base ≤ address ∧ address < base + size

instance (base size address : ℕ) : Decidable (Inside base size address) := inferInstanceAs (Decidable (_ ∧ _))

namespace Buffer

/-- Mapping and DMA range end inside their address spaces. -/
def Fits (build : Build) (buffer : Buffer) : Prop :=
  buffer.virt + buffer.size < 2 ^ build.width ∧ buffer.dmaAddr + buffer.size < 2 ^ 64

/-- A pointer can hold each DMA address of the buffer. -/
def Pointed (build : Build) (buffer : Buffer) : Prop := buffer.dmaAddr + buffer.size ≤ 2 ^ build.width

/-- The two buffers share neither mapped nor DMA memory. -/
def Apart (one other : Buffer) : Prop :=
  (one.virt + one.size ≤ other.virt ∨ other.virt + other.size ≤ one.virt) ∧
    (one.dmaAddr + one.size ≤ other.dmaAddr ∨ other.dmaAddr + other.size ≤ one.dmaAddr)

instance (build : Build) (buffer : Buffer) : Decidable (buffer.Fits build) := inferInstanceAs (Decidable (_ ∧ _))

instance (build : Build) (buffer : Buffer) : Decidable (buffer.Pointed build) := inferInstanceAs (Decidable (_ ≤ _))

instance (one other : Buffer) : Decidable (one.Apart other) := inferInstanceAs (Decidable (_ ∧ _))

instance : Std.Symm Apart where
  symm _ _ apart := ⟨apart.1.symm, apart.2.symm⟩

end Buffer

/-- The buffers fit and lie apart. -/
structure Placed (build : Build) (buffers : List Buffer) : Prop where
  fits : ∀ buffer ∈ buffers, buffer.Fits build
  pointed : ∀ buffer ∈ buffers, buffer.Pointed build
  apart : buffers.Pairwise Buffer.Apart

namespace Placed

variable {build : Build} {s : State} {buffer : Buffer} {address : ℕ}

theorem mono {buffers others : List Buffer} (placed : Placed build buffers) (fewer : others.Sublist buffers) :
    Placed build others :=
  ⟨fun buffer member => placed.fits buffer (fewer.subset member),
    fun buffer member => placed.pointed buffer (fewer.subset member), placed.apart.sublist fewer⟩

/-- No end of a range wraps, so the search is for a buffer that has the address. -/
theorem findVirt (placed : Placed build s.buffers) :
    s.findVirt build address = s.buffers.find? fun buffer => decide (Inside buffer.virt buffer.size address) :=
  List.find?_congr fun buffer member => by
    rw [Nat.mod_eq_of_lt (placed.fits buffer member).1]
    rfl

theorem findDma (placed : Placed build s.buffers) :
    s.findDma address = s.buffers.find? fun buffer => decide (Inside buffer.dmaAddr buffer.size address) :=
  List.find?_congr fun buffer member => by
    rw [Nat.mod_eq_of_lt (placed.fits buffer member).2]
    rfl

theorem findVirt_eq_some (placed : Placed build s.buffers) (member : buffer ∈ s.buffers)
    (inside : Inside buffer.virt buffer.size address) : s.findVirt build address = some buffer := by
  rw [placed.findVirt]
  refine find_eq_some_of_pairwise placed.apart (fun one other apart first second => ?_) member (by simpa using inside)
  have disjoint := apart.1
  have fromOne : Inside one.virt one.size address := of_decide_eq_true first
  have fromOther : Inside other.virt other.size address := of_decide_eq_true second
  simp only [Inside] at fromOne fromOther
  omega

theorem findDma_eq_some (placed : Placed build s.buffers) (member : buffer ∈ s.buffers)
    (inside : Inside buffer.dmaAddr buffer.size address) : s.findDma address = some buffer := by
  rw [placed.findDma]
  refine find_eq_some_of_pairwise placed.apart (fun one other apart first second => ?_) member (by simpa using inside)
  have disjoint := apart.2
  have fromOne : Inside one.dmaAddr one.size address := of_decide_eq_true first
  have fromOther : Inside other.dmaAddr other.size address := of_decide_eq_true second
  simp only [Inside] at fromOne fromOther
  omega

/-- An address of a mapping has the DMA address as far into the DMA range. -/
theorem getPhyaddr_eq (placed : Placed build s.buffers) (member : buffer ∈ s.buffers)
    (inside : Inside buffer.virt buffer.size address) :
    s.bridgeGetPhyaddr build address = buffer.dmaAddr + (address - buffer.virt) := by
  have fits := placed.fits buffer member
  have pointed := placed.pointed buffer member
  simp only [Buffer.Fits, Buffer.Pointed, Inside] at fits pointed inside
  have offset : (address + 2 ^ build.width - buffer.virt) % 2 ^ build.width = address - buffer.virt := by
    rw [show address + 2 ^ build.width - buffer.virt = address - buffer.virt + 2 ^ build.width by omega,
      Nat.add_mod_right, Nat.mod_eq_of_lt (by omega)]
  simp only [State.bridgeGetPhyaddr, placed.findVirt_eq_some member inside, offset]
  rw [Nat.mod_eq_of_lt (by omega : buffer.dmaAddr + (address - buffer.virt) < 2 ^ 64), Nat.mod_eq_of_lt (by omega)]

/-- A DMA address has the address as far into the mapping. -/
theorem getViraddr_eq (placed : Placed build s.buffers) (member : buffer ∈ s.buffers)
    (inside : Inside buffer.dmaAddr buffer.size address) :
    s.bridgeGetViraddr build address = buffer.virt + (address - buffer.dmaAddr) := by
  have fits := placed.fits buffer member
  have pointed := placed.pointed buffer member
  simp only [Buffer.Fits, Buffer.Pointed, Inside] at fits pointed inside
  have offset :
      (address + 2 ^ build.width - buffer.dmaAddr % 2 ^ build.width) % 2 ^ build.width = address - buffer.dmaAddr := by
    rw [Nat.mod_eq_of_lt (by omega : buffer.dmaAddr < 2 ^ build.width),
      show address + 2 ^ build.width - buffer.dmaAddr = address - buffer.dmaAddr + 2 ^ build.width by omega,
      Nat.add_mod_right, Nat.mod_eq_of_lt (by omega)]
  simp only [State.bridgeGetViraddr, placed.findDma_eq_some member inside, offset]
  exact Nat.mod_eq_of_lt (by omega)

end Placed

/-- Live addresses go to physical ones and back, different ones to different ones; all others go to zero. -/
structure Translated (build : Build) (s : State) : Prop where
  roundTrip : ∀ virt, (∃ buffer ∈ s.buffers, Inside buffer.virt buffer.size virt) →
    s.bridgeGetViraddr build (s.bridgeGetPhyaddr build virt) = virt
  injective : ∀ one other, (∃ buffer ∈ s.buffers, Inside buffer.virt buffer.size one) →
    (∃ buffer ∈ s.buffers, Inside buffer.virt buffer.size other) →
    s.bridgeGetPhyaddr build one = s.bridgeGetPhyaddr build other → one = other
  unknownVirt : ∀ virt, (∀ buffer ∈ s.buffers, ¬ Inside buffer.virt buffer.size virt) →
    s.bridgeGetPhyaddr build virt = 0
  unknownDma : ∀ dmaAddr, (∀ buffer ∈ s.buffers, ¬ Inside buffer.dmaAddr buffer.size dmaAddr) →
    s.bridgeGetViraddr build dmaAddr = 0

theorem Placed.translated {build : Build} {s : State} (placed : Placed build s.buffers) : Translated build s := by
  have roundTrip : ∀ virt, (∃ buffer ∈ s.buffers, Inside buffer.virt buffer.size virt) →
      s.bridgeGetViraddr build (s.bridgeGetPhyaddr build virt) = virt := by
    rintro virt ⟨buffer, member, inside⟩
    have between := inside
    simp only [Inside] at between
    rw [placed.getPhyaddr_eq member inside,
      placed.getViraddr_eq member (show Inside _ _ _ from ⟨Nat.le_add_right _ _, by omega⟩)]
    omega
  constructor
  case roundTrip => exact roundTrip
  case injective =>
    intro one other live alive same
    rw [← roundTrip one live, same, roundTrip other alive]
  case unknownVirt =>
    intro virt outside
    have missed : s.findVirt build virt = none := by
      rw [placed.findVirt]
      exact List.find?_eq_none.mpr fun buffer member => by simpa using outside buffer member
    rw [State.bridgeGetPhyaddr, missed]
  case unknownDma =>
    intro dmaAddr outside
    have missed : s.findDma dmaAddr = none := by
      rw [placed.findDma]
      exact List.find?_eq_none.mpr fun buffer member => by simpa using outside buffer member
    rw [State.bridgeGetViraddr, missed]

/-- The open file and the handle of a buffer. -/
def Buffer.owner (buffer : Buffer) : ℕ × ℕ := (buffer.device, buffer.handle)

/-- Each handle is live or was freed, and that once; the device is open while the bridge is. -/
structure Owned (s : State) : Prop where
  accounted : (s.buffers.map Buffer.owner ++ s.freed).Perm s.obtained
  opened : s.fd.isSome ↔ 0 < s.refcount
  idle : s.refcount = 0 → s.buffers = []

/-- What the steps keep. -/
structure Valid (build : Build) (s : State) : Prop extends Owned s where
  placed : Placed build s.buffers
  device : ∀ buffer ∈ s.buffers, s.fd = some buffer.device

/-- The buffer that `bridge_palloc` makes of an answer. -/
def Reply.buffer (reply : Reply) (size : ℤ) (fd : ℕ) : Option Buffer :=
  reply.alloc.bind fun (handle, dmaAddr) =>
    reply.virt.map fun virt => ⟨virt, handle, mappedSize size, dmaAddr, fd⟩

/-- The kernel gives nonzero handles, and ranges that fit and are not those of a live buffer. -/
def KernelHonest (build : Build) (s : State) : Event → Prop
  | .palloc size reply =>
      (∀ alloc ∈ reply.alloc, alloc.1 ≠ 0) ∧
        ∀ buffer ∈ reply.buffer size 0, buffer.Fits build ∧ ∀ other ∈ s.buffers, buffer.Apart other
  | _ => True

/-- The open count does not wrap, and a pointer can hold the DMA addresses. -/
def Countable (build : Build) (s : State) : Event → Prop
  | .open _ | .open2 _ => s.refcount + 1 < 2 ^ 32
  | .palloc size reply => ∀ buffer ∈ reply.buffer size 0, buffer.Pointed build
  | .close | .pfree _ => True

variable {build : Build} {s next : State} {event : Event}

theorem Valid.initial : Valid build {} where
  accounted := .nil
  opened := by decide
  idle _ := rfl
  placed := ⟨nofun, nofun, .nil⟩
  device := nofun

/-- The last close asks to free every buffer in the list. -/
theorem closeLoop_eq (buffers : List Buffer) {fd : ℕ} (opened : s.fd = some fd) :
    State.closeLoop buffers s =
      { s with buffers := [], freed := s.freed ++ buffers.map fun buffer => (fd, buffer.handle) } := by
  induction buffers generalizing s with
  | nil => rw [State.closeLoop, List.map_nil, List.append_nil]
  | cons buffer rest ih =>
    simp only [State.closeLoop, State.bridgeFreeBuffer, opened, State.freeCoherent, ih, List.map_cons,
      List.append_assoc, List.singleton_append]

/-- A free buffer's handle moves to the freed ones. -/
theorem freeBuffer_eq {buffer : Buffer} (opened : s.fd = some buffer.device) :
    s.bridgeFreeBuffer buffer = { s with freed := s.freed ++ [buffer.owner] } := by
  obtain ⟨fd, refcount, buffers, files, obtained, freed⟩ := s
  obtain rfl : fd = some buffer.device := opened
  rfl

/-- An allocation does nothing, frees its handle again, or adds a buffer to the list. -/
theorem palloc_cases (s : State) (size : ℤ) (reply : Reply) :
    (s.bridgePalloc size reply).1 = s ∨
      (∃ fd handle, (s.bridgePalloc size reply).1 =
        { s with obtained := s.obtained ++ [(fd, handle)] }.freeCoherent fd handle) ∨
      ∃ buffer, s.fd = some buffer.device ∧ { buffer with device := 0 } ∈ reply.buffer size 0 ∧
        (s.bridgePalloc size reply).1 =
          { s with obtained := s.obtained ++ [buffer.owner], buffers := buffer :: s.buffers } := by
  obtain ⟨fd, refcount, buffers, files, obtained, freed⟩ := s
  obtain ⟨alloc, virt, calloc⟩ := reply
  unfold State.bridgePalloc
  split
  · exact .inl rfl
  split
  · exact .inl rfl
  rcases fd with _ | fd
  · exact .inl rfl
  rcases alloc with _ | ⟨handle, dmaAddr⟩
  · exact .inl rfl
  rcases virt with _ | virt
  · exact .inr (.inl ⟨fd, handle, rfl⟩)
  cases calloc with
  | false => exact .inr (.inl ⟨fd, handle, rfl⟩)
  | true => exact .inr (.inr ⟨⟨virt, handle, mappedSize size, dmaAddr, fd⟩, rfl, rfl, rfl⟩)

namespace Valid

theorem bridgeOpen (valid : Valid build s) (room : s.refcount + 1 < 2 ^ 32) (device : Bool) :
    Valid build (s.bridgeOpen device).1 := by
  unfold State.bridgeOpen
  dsimp only
  split
  · rename_i first
    have empty := valid.idle first
    cases device with
    | true =>
      refine ⟨⟨valid.accounted, ?_, ?_⟩, valid.placed, ?_⟩
      · simp [first]
      · exact fun _ => empty
      · simp [empty]
    | false =>
      refine ⟨⟨valid.accounted, ?_, ?_⟩, valid.placed, ?_⟩
      · simp
      · exact fun _ => empty
      · simp [empty]
  · rename_i again
    have counted : (s.refcount + 1) % 2 ^ 32 = s.refcount + 1 := Nat.mod_eq_of_lt room
    refine ⟨⟨valid.accounted, ?_, ?_⟩, valid.placed, valid.device⟩
    · dsimp only
      rw [counted, valid.opened]
      omega
    · dsimp only
      rw [counted]
      exact fun zero => absurd zero (Nat.succ_ne_zero _)

theorem bridgeClose (valid : Valid build s) : Valid build s.bridgeClose := by
  unfold State.bridgeClose
  split
  · exact valid
  · rename_i positive
    obtain ⟨fd, opened⟩ := Option.isSome_iff_exists.mp (valid.opened.mpr (Nat.pos_of_ne_zero positive))
    dsimp only
    split
    · rename_i more
      refine ⟨⟨valid.accounted, ?_, fun zero => absurd zero more⟩, valid.placed, valid.device⟩
      dsimp only at more ⊢
      rw [valid.opened]
      omega
    · rename_i last
      rw [closeLoop_eq (s := { s with refcount := s.refcount - 1 }) s.buffers opened]
      have owners : s.buffers.map (fun buffer => (fd, buffer.handle)) = s.buffers.map Buffer.owner :=
        List.map_congr_left fun buffer member => by
          rw [Buffer.owner, ← Option.some.inj (opened.symm.trans (valid.device buffer member))]
      refine ⟨⟨?_, ?_, fun _ => rfl⟩, ⟨nofun, nofun, .nil⟩, nofun⟩
      · dsimp only
        rw [owners, List.map_nil, List.nil_append]
        exact List.perm_append_comm.trans valid.accounted
      · dsimp only
        simp only [Option.isSome_none, Bool.false_eq_true, false_iff]
        omega

theorem bridgePfree (valid : Valid build s) (virt : ℕ) : Valid build (s.bridgePfree virt) := by
  unfold State.bridgePfree
  cases found : s.buffers.find? (·.virt = virt) with
  | none => exact valid
  | some buffer =>
    have member := List.mem_of_find?_eq_some found
    have fewer : (s.buffers.eraseP (·.virt = virt)).Sublist s.buffers := List.eraseP_sublist
    have moved := (perm_of_find_eq_some found).map Buffer.owner
    dsimp only
    rw [freeBuffer_eq (s := { s with buffers := s.buffers.eraseP (·.virt = virt) }) (valid.device buffer member)]
    refine ⟨⟨?_, valid.opened, ?_⟩, valid.placed.mono fewer, fun other live => valid.device other (fewer.subset live)⟩
    · dsimp only
      rw [← List.append_assoc]
      exact List.perm_append_comm.trans ((moved.append_right s.freed).symm.trans valid.accounted)
    · intro zero
      dsimp only
      rw [valid.idle zero, List.eraseP_nil]

/-- An allocation that fails after the kernel gave a handle asks to free it at once. -/
theorem freeObtained (valid : Valid build s) (fd handle : ℕ) :
    Valid build ({ s with obtained := s.obtained ++ [(fd, handle)] }.freeCoherent fd handle) where
  accounted := by
    dsimp only [State.freeCoherent]
    rw [← List.append_assoc]
    exact valid.accounted.append_right _
  opened := valid.opened
  idle := valid.idle
  placed := valid.placed
  device := valid.device

theorem addBuffer (valid : Valid build s) {buffer : Buffer} (opened : s.fd = some buffer.device)
    (fits : buffer.Fits build) (pointed : buffer.Pointed build) (apart : ∀ other ∈ s.buffers, buffer.Apart other) :
    Valid build { s with obtained := s.obtained ++ [buffer.owner], buffers := buffer :: s.buffers } where
  accounted := by
    dsimp only
    rw [List.map_cons, List.cons_append]
    exact (valid.accounted.cons _).trans (List.perm_append_singleton _ _).symm
  opened := valid.opened
  idle zero := by
    have closed := valid.opened.mp (by rw [opened]; rfl)
    dsimp only at zero
    omega
  placed :=
    ⟨List.forall_mem_cons.mpr ⟨fits, valid.placed.fits⟩, List.forall_mem_cons.mpr ⟨pointed, valid.placed.pointed⟩,
      List.pairwise_cons.mpr ⟨apart, valid.placed.apart⟩⟩
  device := List.forall_mem_cons.mpr ⟨opened, valid.device⟩

theorem bridgePalloc (valid : Valid build s) {size : ℤ} {reply : Reply}
    (honest : KernelHonest build s (.palloc size reply)) (pointed : Countable build s (.palloc size reply)) :
    Valid build (s.bridgePalloc size reply).1 := by
  obtain same | ⟨fd, handle, freed⟩ | ⟨buffer, opened, made, added⟩ := palloc_cases s size reply
  · rw [same]
    exact valid
  · rw [freed]
    exact valid.freeObtained fd handle
  · rw [added]
    obtain ⟨fits, apart⟩ := honest.2 _ made
    have pointed := pointed _ made
    exact valid.addBuffer opened fits pointed apart

theorem step (valid : Valid build s) (honest : KernelHonest build s event) (countable : Countable build s event)
    (taken : MemAdapter.step s event = some next) : Valid build next := by
  cases event with
  | «open» device =>
    obtain rfl := Option.some.inj taken
    exact valid.bridgeOpen countable device
  | open2 device =>
    obtain rfl := Option.some.inj taken
    exact valid.bridgeOpen countable device
  | close =>
    obtain rfl := Option.some.inj taken
    exact valid.bridgeClose
  | palloc size reply =>
    obtain rfl := Option.some.inj taken
    exact valid.bridgePalloc honest countable
  | pfree virt =>
    obtain rfl := Option.some.inj taken
    exact valid.bridgePfree virt

end Valid

/-- While the open count does not wrap, translation and ownership are right after every run. -/
theorem bridge_sound {build : Build} {events : List Event} {final : State}
    (guarded : Guarded MemAdapter.step (fun s event => KernelHonest build s event ∧ Countable build s event) {} events)
    (reached : run MemAdapter.step {} events = some final) : Translated build final ∧ Owned final := by
  have valid := guarded.run_preserves (Valid build)
    (fun valid allowed taken => valid.step allowed.1 allowed.2 taken) Valid.initial reached
  exact ⟨valid.placed.translated, valid.toOwned⟩

instance (build : Build) (s : State) (event : Event) : Decidable (KernelHonest build s event) :=
  match event with
  | .palloc _ _ => inferInstanceAs (Decidable (_ ∧ _))
  | .open _ | .open2 _ | .close | .pfree _ => instDecidableTrue

instance (build : Build) (s : State) (event : Event) : Decidable (Countable build s event) :=
  match event with
  | .palloc _ _ => by dsimp only [Countable]; infer_instance
  | .open _ | .open2 _ => inferInstanceAs (Decidable (_ < _))
  | .close | .pfree _ => instDecidableTrue

/-- A buffer is freed, one cannot be mapped, and one is left while the bridge is still open. -/
def oneLeft : List Event :=
  [.open true, .open2 true, .palloc 5000 ⟨some (1, 0x40000000), some 0x10000, true⟩,
    .palloc 100 ⟨some (2, 0x40002000), none, true⟩, .palloc 100 ⟨some (3, 0x40002000), some 0x20000, true⟩,
    .close, .pfree 0x10000]

theorem bridge_sound_two :
    ∃ final, run MemAdapter.step {} oneLeft = some final ∧ final.buffers.map Buffer.virt = [0x20000] ∧
      Translated .android final ∧ Owned final :=
  ⟨_, rfl, by decide, @bridge_sound .android oneLeft _ (by decide) rfl⟩

/-- Opening an open bridge only counts. -/
theorem run_opens (count : ℕ) (positive : 0 < s.refcount) (room : s.refcount + count < 2 ^ 32) :
    run MemAdapter.step s (List.replicate count (.open true)) = some { s with refcount := s.refcount + count } := by
  induction count generalizing s with
  | zero => rfl
  | succ count ih =>
    have counted : (s.bridgeOpen true).1 = { s with refcount := s.refcount + 1 } := by
      have small : s.refcount + 1 < 2 ^ 32 := by omega
      simp only [State.bridgeOpen, Nat.ne_of_gt positive, if_false, Nat.mod_eq_of_lt small]
    have rest := ih (s := { s with refcount := s.refcount + 1 }) (Nat.succ_pos _) (by dsimp only; omega)
    refine run_cons_iff.mpr ⟨_, congrArg some counted, rest.trans ?_⟩
    rw [Nat.add_right_comm, Nat.add_assoc]

/-- After `2^32` opens the count is zero and the device is open. -/
theorem bridge_unsound :
    ¬ ∀ (build : Build) (events : List Event) (final : State),
      Guarded MemAdapter.step (KernelHonest build) {} events → run MemAdapter.step {} events = some final →
      Translated build final ∧ Owned final := by
  intro always
  obtain ⟨count, total⟩ : ∃ count, 1 + count = 2 ^ 32 - 1 := ⟨2 ^ 32 - 2, by norm_num⟩
  let first : State := { fd := some 0, refcount := 1, opened := 1 }
  have counted := run_opens (s := first) count Nat.one_pos (by dsimp only [first]; omega)
  let full : State := { fd := some 0, refcount := 1 + count, opened := 1 }
  have wrapped : (full.bridgeOpen true).1 = { fd := some 0, opened := 1 } := by
    simp only [State.bridgeOpen, full, total]
    rfl
  have reached : run MemAdapter.step {} (.open true :: (List.replicate count (.open true) ++ [.open true])) =
      some { fd := some 0, opened := 1 } :=
    run_cons_iff.mpr ⟨first, rfl, run_append.mpr ⟨full, counted, run_cons_iff.mpr ⟨_, congrArg some wrapped, rfl⟩⟩⟩
  have guarded : Guarded MemAdapter.step (KernelHonest .native) {}
      (.open true :: (List.replicate count (.open true) ++ [.open true])) := by
    apply Guarded.of_forall
    intro event member state
    simp only [List.mem_cons, List.mem_append, List.mem_replicate, List.not_mem_nil, or_false] at member
    obtain rfl | ⟨-, rfl⟩ | rfl := member <;> trivial
  have positive := (always .native _ _ guarded reached).2.opened.mp rfl
  exact absurd positive (lt_irrefl 0)

end H618Vpu.MemAdapter
