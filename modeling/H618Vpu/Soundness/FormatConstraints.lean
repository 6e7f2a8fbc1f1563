import H618Vpu.Machine.History
import H618Vpu.Soundness.FormatBuffers

/-! # Formats within the constraints of their engine

`S_FMT` clamps the size a request asks for with the engine in force, and only then takes the engine of
the format it selects. The stored sizes are those of the new engine as long as both engines clamp the
request alike; an encoder, whose coded size follows the picture, does not clamp again at all.
-/

namespace H618Vpu.Formats

open Machine Math Device

/-- A dimension between the bounds, a multiple of the step. -/
def Admitted (x min max step : ℕ) : Prop := min ≤ x ∧ x ≤ max ∧ step ∣ x

instance (x min max step : ℕ) : Decidable (Admitted x min max step) := by
  dsimp only [Admitted]
  infer_instance

/-- The size meets the constraints in both dimensions. -/
def Frmsize.Admits (frmsize : Frmsize) (width height : ℕ) : Prop :=
  Admitted width frmsize.minWidth frmsize.maxWidth frmsize.stepWidth ∧
    Admitted height frmsize.minHeight frmsize.maxHeight frmsize.stepHeight

instance (frmsize : Frmsize) (width height : ℕ) : Decidable (frmsize.Admits width height) := by
  dsimp only [Frmsize.Admits]
  infer_instance

/-- The last `S_FMT` that succeeded: the queue and the request. -/
abbrev LastRequest := Option (BufferType × PixFormat)

def lastRequest (s : State) (event : Event) (_ : State) (last : LastRequest) : LastRequest :=
  match event with
  | .sFmt type request => if (s.sFmt type request).2 = 0 then some (type, request) else last
  | _ => last

/-- The stored sizes meet the constraints of the engine of the stored coded format, and the last successful
request, made again, changes neither format. -/
def FormatsHold (s : Recorded State LastRequest) : Prop :=
  (∃ engine, s.state.proc.engineFindFormat s.state.formatCoded.pixelformat = some engine ∧
    engine.frmsize.Admits s.state.formatCoded.width s.state.formatCoded.height ∧
    engine.frmsize.Admits s.state.formatPicture.width s.state.formatPicture.height) ∧
  ∀ last ∈ s.history, (s.state.sFmt last.1 last.2).1.formatCoded = s.state.formatCoded ∧
    (s.state.sFmt last.1 last.2).1.formatPicture = s.state.formatPicture

/-- The size that goes with a coded request suits the engine it selects: a decoder's two engines clamp it
alike, an encoder's new engine takes the picture as it is. -/
def State.CarriesOver (s : State) (request : PixFormat) : Prop :=
  match s.proc.role with
  | .decoder =>
      applyFrmsizeConstraints request.width request.height s.engine.frmsize =
        applyFrmsizeConstraints request.width request.height (s.requestedEngine request).frmsize
  | .encoder => (s.requestedEngine request).frmsize.Admits s.formatPicture.width s.formatPicture.height

instance (s : State) (request : PixFormat) : Decidable (s.CarriesOver request) := by
  unfold State.CarriesOver
  split <;> infer_instance

/-- An `S_FMT` that gets past the busy check of the coded queue has a size that carries over. -/
def SizesCarryOver (s : Recorded State LastRequest) : Event → Prop
  | .sFmt type request =>
      s.state.proc.formatType type = .coded → s.state.formatAccepted type request = true → s.state.CarriesOver request
  | _ => True

instance (s : Recorded State LastRequest) (event : Event) : Decidable (SizesCarryOver s event) :=
  match event with
  | .sFmt _ _ => inferInstanceAs (Decidable (_ → _ → _))
  | .reqbufs .. | .qbuf .. | .streamOn .. | .streamOff .. | .job .. => instDecidableTrue

/-- The node of a role with the engines and the picture formats of every capability. -/
def full : Role → Proc
  | .decoder => decProc
  | .encoder => encProc

/-- A node has those engines and picture formats of its role that the device is capable of. -/
def Proc.Supported (proc : Proc) : Prop :=
  proc.engines ⊆ (full proc.role).engines ∧ proc.pictureFormats ⊆ (full proc.role).pictureFormats

section

variable {x min max step : ℕ}

theorem clampRoundup_admitted (x : ℕ) (positive : 0 < step) (ordered : min ≤ max) (whole : step ∣ max) :
    Admitted (clampRoundup x min max step) min max step := by
  have bounded : ∀ clamped, min ≤ clamped → clamped ≤ max → Admitted (align clamped step) min max step :=
    fun clamped above below => ⟨above.trans (le_align clamped positive), align_le positive below whole, dvd_align ..⟩
  rw [clampRoundup, if_neg positive.ne']
  split
  case isTrue => exact bounded min le_rfl ordered
  case isFalse above =>
    split
    case isTrue => exact bounded max ordered le_rfl
    case isFalse below => exact bounded x (not_lt.mp above) (not_lt.mp below)

/-- Tiles of 32 samples do not leave bounds that are made of them. -/
theorem Admitted.align32 (admitted : Admitted x min max step) (tiles : 32 ∣ max) (steps : step ∣ 32) :
    Admitted (align x 32) min max step :=
  ⟨admitted.1.trans (le_align x (by decide)), align_le (by decide) admitted.2.1 tiles, steps.trans (dvd_align ..)⟩

end

namespace Engine

/-- The bounds of every engine are ordered, and multiples of its steps. -/
theorem frmsize_sound (engine : Engine) :
    (0 < engine.frmsize.stepWidth ∧ engine.frmsize.minWidth ≤ engine.frmsize.maxWidth ∧
        engine.frmsize.stepWidth ∣ engine.frmsize.maxWidth) ∧
      0 < engine.frmsize.stepHeight ∧ engine.frmsize.minHeight ≤ engine.frmsize.maxHeight ∧
        engine.frmsize.stepHeight ∣ engine.frmsize.maxHeight := by
  cases engine <;> decide

theorem clamped_admitted (engine : Engine) (width height : ℕ) :
    engine.frmsize.Admits (applyFrmsizeConstraints width height engine.frmsize).1
      (applyFrmsizeConstraints width height engine.frmsize).2 := by
  obtain ⟨⟨stepWidth, orderedWidth, wholeWidth⟩, stepHeight, orderedHeight, wholeHeight⟩ := engine.frmsize_sound
  exact ⟨clampRoundup_admitted width stepWidth orderedWidth wholeWidth,
    clampRoundup_admitted height stepHeight orderedHeight wholeHeight⟩

/-- No engine takes more than 4096 samples in a dimension, or fewer than 16. -/
theorem admitted_bounds {engine : Engine} {width height : ℕ} (admitted : engine.frmsize.Admits width height) :
    (16 ≤ width ∧ width ≤ 4096) ∧ 16 ≤ height ∧ height ≤ 4096 := by
  have bounds : (16 ≤ engine.frmsize.minWidth ∧ engine.frmsize.maxWidth ≤ 4096) ∧
      16 ≤ engine.frmsize.minHeight ∧ engine.frmsize.maxHeight ≤ 4096 := by
    cases engine <;> decide
  obtain ⟨⟨minWidth, maxWidth⟩, minHeight, maxHeight⟩ := bounds
  obtain ⟨⟨width, widths, -⟩, height, heights, -⟩ := admitted
  exact ⟨⟨minWidth.trans width, widths.trans maxWidth⟩, minHeight.trans height, heights.trans maxHeight⟩

/-- The picture layout of a decoder keeps to the constraints the coded size keeps to. -/
theorem layout_admitted {engine : Engine} (decoder : engine ∈ decProc.engines) {pixelformat : PixelFormat}
    {width height : ℕ} {layout : ℕ × ℕ × ℕ × ℕ} (admitted : engine.frmsize.Admits width height)
    (prepared : decPictureLayout pixelformat width height = some layout) :
    engine.frmsize.Admits layout.1 layout.2.1 := by
  have tiles : (32 ∣ engine.frmsize.maxWidth ∧ engine.frmsize.stepWidth ∣ 32) ∧
      32 ∣ engine.frmsize.maxHeight ∧ engine.frmsize.stepHeight ∣ 32 := by
    revert decoder
    cases engine <;> decide
  cases pixelformat with
  | nv12 =>
    obtain rfl := Option.some.inj prepared
    exact admitted
  | nv12_32L32 =>
    obtain rfl := Option.some.inj prepared
    exact ⟨admitted.1.align32 tiles.1.1 tiles.1.2, admitted.2.align32 tiles.2.1 tiles.2.2⟩
  | _ => cases prepared

end Engine

namespace Proc

variable (proc : Proc)

theorem formatSelect_idem (pixelformat : PixelFormat) (type : FormatType) :
    proc.formatSelect (proc.formatSelect pixelformat type) type = proc.formatSelect pixelformat type := by
  by_cases checked : proc.formatCheck pixelformat type = true
  · simp only [formatSelect, checked, if_true]
  · simp only [formatSelect, checked, Bool.false_eq_true, if_false, ite_self]

theorem formatFindFirst_coded : proc.formatFindFirst .coded = (proc.engines.head proc.engines_ne).pixelformat := by
  obtain ⟨role, engines, pictureFormats, engines_ne⟩ := proc
  cases engines with
  | nil => exact absurd rfl engines_ne
  | cons engine rest => rfl

/-- A coded format that is checked is that of an engine. -/
theorem formatCheck_coded {pixelformat : PixelFormat} (checked : proc.formatCheck pixelformat .coded = true) :
    ∃ engine ∈ proc.engines, engine.pixelformat = pixelformat := by
  have listed : (pixelformat, FormatType.coded) ∈ proc.formats := of_decide_eq_true checked
  rcases List.mem_append.mp listed with coded | picture
  · obtain ⟨engine, member, same⟩ := List.mem_map.mp coded
    exact ⟨engine, member, congrArg Prod.fst same⟩
  · obtain ⟨_, _, same⟩ := List.mem_map.mp picture
    cases congrArg Prod.snd same

/-- A coded format that is selected has an engine. -/
theorem engineFindFormat_select (pixelformat : PixelFormat) :
    ∃ engine ∈ proc.engines, proc.engineFindFormat (proc.formatSelect pixelformat .coded) = some engine := by
  have known : ∃ engine ∈ proc.engines, engine.pixelformat = proc.formatSelect pixelformat .coded := by
    by_cases checked : proc.formatCheck pixelformat .coded = true
    · rw [formatSelect, if_pos checked]
      exact proc.formatCheck_coded checked
    · refine ⟨proc.engines.head proc.engines_ne, List.head_mem _, ?_⟩
      rw [formatSelect, if_neg checked, formatFindFirst_coded]
  obtain ⟨engine, member, same⟩ := known
  have found : (proc.engineFindFormat (proc.formatSelect pixelformat .coded)).isSome = true :=
    List.find?_isSome.mpr ⟨engine, member, decide_eq_true same⟩
  obtain ⟨selected, found⟩ := Option.isSome_iff_exists.mp found
  exact ⟨selected, List.mem_of_find?_eq_some found, found⟩

/-- The first engine is that of its own format, and of one no engine has. -/
theorem engineFindFormat_first {pixelformat : PixelFormat}
    (first : pixelformat = (proc.engines.head proc.engines_ne).pixelformat ∨
      ∀ engine ∈ proc.engines, engine.pixelformat ≠ pixelformat) :
    proc.engineFindFormat (proc.formatSelect pixelformat .coded) = some (proc.engines.head proc.engines_ne) := by
  have selected : proc.formatSelect pixelformat .coded = (proc.engines.head proc.engines_ne).pixelformat := by
    by_cases checked : proc.formatCheck pixelformat .coded = true
    · rw [formatSelect, if_pos checked]
      refine first.resolve_right fun others => ?_
      obtain ⟨engine, member, same⟩ := proc.formatCheck_coded checked
      exact others engine member same
    · rw [formatSelect, if_neg checked, formatFindFirst_coded]
  rw [selected]
  obtain ⟨role, engines, pictureFormats, engines_ne⟩ := proc
  cases engines with
  | nil => exact absurd rfl engines_ne
  | cons engine rest => exact List.find?_cons_of_pos (decide_eq_true rfl)

end Proc

/-- The node, the engine and both formats are the same. -/
structure FormatsKept (s next : State) : Prop where
  proc : next.proc = s.proc
  engine : next.engine = s.engine
  formatCoded : next.formatCoded = s.formatCoded
  formatPicture : next.formatPicture = s.formatPicture

namespace FormatsKept

variable {s next : State}

theorem setQueue (kept : FormatsKept s next) (type : FormatType) (queue : Queue) :
    FormatsKept s (next.setQueue type queue) := by
  cases type <;> exact ⟨kept.proc, kept.engine, kept.formatCoded, kept.formatPicture⟩

theorem refl (s : State) : FormatsKept s s := ⟨rfl, rfl, rfl, rfl⟩

theorem cleanups (s : State) (made : List Cleanup) : FormatsKept s { s with cleanups := made } := ⟨rfl, rfl, rfl, rfl⟩

theorem freeBuffers (s : State) (type : FormatType) : FormatsKept s (s.freeBuffers type) :=
  (cleanups s _).setQueue _ _

theorem reqbufs (s : State) (type : FormatType) (memory : Memory) (count allocated : ℕ) :
    FormatsKept s (s.reqbufs type memory count allocated) := by
  unfold State.reqbufs
  split
  · exact .refl s
  · dsimp only
    split
    · exact .freeBuffers s type
    · exact (freeBuffers s type).setQueue _ _

theorem qbuf (s : State) (type : FormatType) (index : ℕ) (dmabuf : DmaBuf) :
    FormatsKept s (s.qbuf type index dmabuf) := by
  unfold State.qbuf
  dsimp only
  split
  · exact .refl s
  split
  · exact .refl s
  · exact (cleanups s _).setQueue _ _

theorem streamOn (s : State) (type : FormatType) (started : Bool) : FormatsKept s (s.streamOn type started) := by
  unfold State.streamOn
  dsimp only
  split
  · exact .refl s
  split
  · exact .refl s
  · exact (refl s).setQueue _ _

/-- Only `S_FMT` changes the formats. -/
theorem of_step {event : Event} (other : ∀ type request, event ≠ .sFmt type request)
    (taken : step s event = some next) : FormatsKept s next := by
  cases event with
  | sFmt type request => exact absurd rfl (other type request)
  | reqbufs type memory count allocated => exact Option.some.inj taken ▸ reqbufs ..
  | qbuf type index dmabuf => exact Option.some.inj taken ▸ qbuf ..
  | streamOn type started => exact Option.some.inj taken ▸ streamOn ..
  | streamOff type => exact Option.some.inj taken ▸ (refl s).setQueue _ _
  | job held =>
    simp only [step] at taken
    split at taken
    case isTrue => exact Option.some.inj taken ▸ ⟨rfl, rfl, rfl, rfl⟩
    case isFalse => cases taken

theorem formatCodedPrepare (kept : FormatsKept s next) (request : PixFormat) :
    next.formatCodedPrepare request = s.formatCodedPrepare request := by
  simp only [State.formatCodedPrepare, kept.proc, kept.engine, kept.formatPicture]

theorem formatPicturePrepare (kept : FormatsKept s next) (request : PixFormat) :
    next.formatPicturePrepare request = s.formatPicturePrepare request := by
  simp only [State.formatPicturePrepare, kept.proc, kept.engine, kept.formatCoded]

end FormatsKept

/-- A request prepared now gives the format that is stored. -/
def State.Repeats (s : State) (type : FormatType) (request : PixFormat) : Prop :=
  match type with
  | .coded => s.formatCodedPrepare request = s.formatCoded
  | .picture => s.formatPicturePrepare request = .ok s.formatPicture

/-- The format that follows the other one on a node of this role. -/
def following : Role → FormatType
  | .decoder => .picture
  | .encoder => .coded

/-- The engine is that of the coded format, both sizes meet its constraints, and propagation has nothing
left to do. -/
structure State.Settled (s : State) : Prop where
  supported : s.proc.Supported
  selected : s.proc.engineFindFormat s.formatCoded.pixelformat = some s.engine
  coded : s.engine.frmsize.Admits s.formatCoded.width s.formatCoded.height
  picture : s.engine.frmsize.Admits s.formatPicture.width s.formatPicture.height
  propagated : s.Repeats (following s.proc.role) (s.format (following s.proc.role))

theorem FormatsKept.repeats {s next : State} (kept : FormatsKept s next) {type : FormatType} {request : PixFormat}
    (repeats : s.Repeats type request) : next.Repeats type request := by
  cases type with
  | coded => exact (kept.formatCodedPrepare request).trans (repeats.trans kept.formatCoded.symm)
  | picture =>
    exact (kept.formatPicturePrepare request).trans (repeats.trans (congrArg Except.ok kept.formatPicture.symm))

theorem FormatsKept.settled {s next : State} (kept : FormatsKept s next) (settled : s.Settled) : next.Settled where
  supported := by
    rw [kept.proc]
    exact settled.supported
  selected := by
    rw [kept.proc, kept.formatCoded, kept.engine]
    exact settled.selected
  coded := by
    rw [kept.engine, kept.formatCoded]
    exact settled.coded
  picture := by
    rw [kept.engine, kept.formatPicture]
    exact settled.picture
  propagated := by
    have same : next.format (following s.proc.role) = s.format (following s.proc.role) := by
      cases following s.proc.role with
      | coded => exact kept.formatCoded
      | picture => exact kept.formatPicture
    rw [kept.proc, same]
    exact kept.repeats settled.propagated

/-- A request with its pixel format replaced by one the node has. -/
def Proc.supportedRequest (proc : Proc) (type : FormatType) (request : PixFormat) : PixFormat :=
  { request with pixelformat := proc.formatSelect request.pixelformat type }

section

variable {s : State} {request : PixFormat}

theorem formatCodedPrepare_decoder (role : s.proc.role = .decoder) (request : PixFormat) :
    s.formatCodedPrepare request = decCodedPrepare s.engine (s.proc.supportedRequest .coded request) := by
  simp only [State.formatCodedPrepare, role, Proc.supportedRequest]

theorem formatCodedPrepare_encoder (role : s.proc.role = .encoder) (request : PixFormat) :
    s.formatCodedPrepare request = encCodedPrepare s.formatPicture (s.proc.supportedRequest .coded request) := by
  simp only [State.formatCodedPrepare, role, Proc.supportedRequest]

theorem formatPicturePrepare_decoder (role : s.proc.role = .decoder) (request : PixFormat) :
    s.formatPicturePrepare request = decPicturePrepare s.formatCoded (s.proc.supportedRequest .picture request) := by
  simp only [State.formatPicturePrepare, role, Proc.supportedRequest]

theorem formatPicturePrepare_encoder (role : s.proc.role = .encoder) (request : PixFormat) :
    s.formatPicturePrepare request = encPicturePrepare s.engine (s.proc.supportedRequest .picture request) := by
  simp only [State.formatPicturePrepare, role, Proc.supportedRequest]

/-- Whatever it is prepared with, a coded format has the pixel format the node has for the request. -/
theorem formatCodedPrepare_pixelformat (s : State) (request : PixFormat) :
    (s.formatCodedPrepare request).pixelformat = s.proc.formatSelect request.pixelformat .coded := by
  cases role : s.proc.role with
  | decoder => rw [formatCodedPrepare_decoder role]; rfl
  | encoder => rw [formatCodedPrepare_encoder role]; rfl

/-- A decoder's picture format is made of its pixel format and the coded format alone. -/
theorem decPicturePrepare_ok {coded picture : PixFormat} (prepared : decPicturePrepare coded request = .ok picture) :
    picture.pixelformat = request.pixelformat ∧
      ∃ layout, decPictureLayout request.pixelformat coded.width coded.height = some layout ∧
        picture.width = layout.1 ∧ picture.height = layout.2.1 := by
  rw [decPicturePrepare] at prepared
  split at prepared
  case h_1 => cases prepared
  case h_2 layout =>
    obtain rfl := Except.ok.inj prepared
    exact ⟨rfl, _, layout, rfl, rfl⟩

theorem decPicturePrepare_congr (coded : PixFormat) {other : PixFormat}
    (same : other.pixelformat = request.pixelformat) :
    decPicturePrepare coded other = decPicturePrepare coded request := by
  simp only [decPicturePrepare, same]

/-- A layout exists for the pixel format, not for the size. -/
theorem decPicturePrepare_other {coded picture : PixFormat} (prepared : decPicturePrepare coded request = .ok picture)
    (other : PixFormat) : ∃ picture, decPicturePrepare other request = .ok picture := by
  obtain ⟨-, layout, laid, -⟩ := decPicturePrepare_ok prepared
  obtain ⟨pixelformat, width, height, bytesperline, sizeimage, field, colour⟩ := request
  cases pixelformat with
  | nv12 | nv12_32L32 => exact ⟨_, rfl⟩
  | _ => cases laid

theorem encPicturePrepare_ok {engine : Engine} {picture : PixFormat}
    (prepared : encPicturePrepare engine request = .ok picture) :
    (picture.width, picture.height) = applyFrmsizeConstraints request.width request.height engine.frmsize := by
  obtain ⟨pixelformat, width, height, bytesperline, sizeimage, field, colour⟩ := request
  cases pixelformat with
  | nv12 => exact Except.ok.inj prepared ▸ rfl
  | _ => cases prepared

theorem admits_of_encPicturePrepare {engine : Engine} {picture : PixFormat}
    (prepared : encPicturePrepare engine request = .ok picture) :
    engine.frmsize.Admits picture.width picture.height := by
  have clamped := engine.clamped_admitted request.width request.height
  rwa [← encPicturePrepare_ok prepared] at clamped

/-- An encoder's coded format, prepared again, stays as it is. -/
theorem encCodedPrepare_again (picture : PixFormat) {other : PixFormat}
    (pixelformat : other.pixelformat = request.pixelformat) (sizeimage : other.sizeimage = max 1024 request.sizeimage) :
    encCodedPrepare picture other = encCodedPrepare picture request := by
  simp only [encCodedPrepare, pixelformat, sizeimage, le_max_left, max_eq_right]

end

/-- The formats and the engine a successful `S_FMT` leaves, by role and queue. -/
inductive Stored (s : State) (request : PixFormat) (next : State) : Role → FormatType → Prop
  | decCoded (engine : next.engine = s.requestedEngine request)
      (coded : next.formatCoded = s.formatCodedPrepare request)
      (picture : next.formatPicturePrepare s.formatPicture = .ok next.formatPicture) :
      Stored s request next .decoder .coded
  | decPicture (engine : next.engine = s.engine) (coded : next.formatCoded = s.formatCoded)
      (picture : s.formatPicturePrepare request = .ok next.formatPicture) : Stored s request next .decoder .picture
  | encCoded (engine : next.engine = s.requestedEngine request)
      (coded : next.formatCoded = s.formatCodedPrepare request) (picture : next.formatPicture = s.formatPicture) :
      Stored s request next .encoder .coded
  | encPicture (engine : next.engine = s.engine) (picture : s.formatPicturePrepare request = .ok next.formatPicture)
      (coded : next.formatCoded = next.formatCodedPrepare s.formatCoded) : Stored s request next .encoder .picture

/-- The formats of a successful `S_FMT`. -/
structure Success (s : State) (type : BufferType) (request : PixFormat) (next : State) : Prop where
  accepted : s.formatAccepted type request = true
  proc : next.proc = s.proc
  stored : Stored s request next s.proc.role (s.proc.formatType type)

section

variable {s : State} {type : BufferType} {request : PixFormat}

theorem requestedEngine_found (s : State) (request : PixFormat) :
    s.proc.engineFindFormat (s.proc.formatSelect request.pixelformat .coded) = some (s.requestedEngine request) ∧
      s.requestedEngine request ∈ s.proc.engines := by
  obtain ⟨engine, member, found⟩ := s.proc.engineFindFormat_select request.pixelformat
  rw [State.requestedEngine, found]
  exact ⟨rfl, member⟩

/-- An engine is found for the coded format just stored. -/
theorem engineUpdate_stored (s : State) (request formatPicture : PixFormat) :
    { s with formatCoded := s.formatCodedPrepare request, formatPicture }.engineUpdate =
      ({ s with
          formatCoded := s.formatCodedPrepare request, formatPicture, engine := s.requestedEngine request
          holdCaptureBuf := (s.requestedEngine request).sliceBased }, 0) := by
  simp only [State.engineUpdate, formatCodedPrepare_pixelformat, (requestedEngine_found s request).1]

/-- The formats and the engine after `S_FMT` on the coded queue. -/
def State.codedStored (s : State) (request formatPicture : PixFormat) : State :=
  { s with
    formatCoded := s.formatCodedPrepare request, formatPicture, engine := s.requestedEngine request
    holdCaptureBuf := (s.requestedEngine request).sliceBased }

theorem sFmt_decCoded (settled : s.Settled) (role : s.proc.role = .decoder) (named : s.proc.formatType type = .coded)
    (accepted : s.formatAccepted type request = true) :
    ∃ picture, decPicturePrepare (s.formatCodedPrepare request) (s.proc.supportedRequest .picture s.formatPicture) =
        .ok picture ∧ s.sFmt type request = (s.codedStored request picture, 0) := by
  have settles := settled.propagated
  simp only [role, following, State.Repeats, State.format] at settles
  rw [formatPicturePrepare_decoder role] at settles
  obtain ⟨picture, prepared⟩ := decPicturePrepare_other settles (s.formatCodedPrepare request)
  have propagated : { s with formatCoded := s.formatCodedPrepare request }.formatPropagate .coded =
      .ok { s with formatCoded := s.formatCodedPrepare request, formatPicture := picture } := by
    simp only [State.formatPropagate, State.formatPicturePrepare, role]
    simp only [Proc.supportedRequest] at prepared
    rw [prepared]
  refine ⟨picture, prepared, ?_⟩
  simp only [State.sFmt, accepted, named, Bool.not_true, Bool.false_eq_true, if_false, propagated]
  exact engineUpdate_stored s request picture

theorem sFmt_encCoded (role : s.proc.role = .encoder) (named : s.proc.formatType type = .coded)
    (accepted : s.formatAccepted type request = true) :
    s.sFmt type request = (s.codedStored request s.formatPicture, 0) := by
  have propagated : { s with formatCoded := s.formatCodedPrepare request }.formatPropagate .coded =
      .ok { s with formatCoded := s.formatCodedPrepare request } := by
    simp only [State.formatPropagate, role]
  simp only [State.sFmt, accepted, named, Bool.not_true, Bool.false_eq_true, if_false, propagated]
  exact engineUpdate_stored s request s.formatPicture

/-- The picture format and, on an encoder, the coded format that follows it. -/
def State.pictureStored (s : State) (formatPicture : PixFormat) : State :=
  let s := { s with formatPicture }
  match s.proc.role with
  | .decoder => s
  | .encoder =>
      let s := s.selectionPictureReset
      { s with formatCoded := s.formatCodedPrepare s.formatCoded }

theorem sFmt_onPicture (named : s.proc.formatType type = .picture) (accepted : s.formatAccepted type request = true) :
    s.sFmt type request =
      match s.formatPicturePrepare request with
      | .error errno => (s, errno)
      | .ok formatPicture => (s.pictureStored formatPicture, 0) := by
  simp only [State.sFmt, accepted, named, Bool.not_true, Bool.false_eq_true, if_false]
  cases s.formatPicturePrepare request with
  | error errno => rfl
  | ok formatPicture => cases role : s.proc.role <;> simp only [State.formatPropagate, State.pictureStored, role]

/-- What `S_FMT` does to an encoder: the engine changes only without coded buffers, the picture format only
without picture buffers. -/
theorem sFmt_encoder (role : s.proc.role = .encoder) (type : BufferType) (request : PixFormat) :
    ((s.sFmt type request).1.proc = s.proc ∧ (s.sFmt type request).1.coded = s.coded ∧
        (s.sFmt type request).1.picture = s.picture) ∧
      ((s.sFmt type request).1.engine = s.engine ∨ s.coded.buffers = []) ∧
        ((s.sFmt type request).1.formatPicture = s.formatPicture ∨
          (s.proc.formatType type = .picture ∧ s.formatAccepted type request = true ∧ s.picture.buffers = []) ∧
            ((s.sFmt type request).1.formatPicture.width, (s.sFmt type request).1.formatPicture.height) =
              applyFrmsizeConstraints request.width request.height s.engine.frmsize) := by
  cases accepted : s.formatAccepted type request with
  | false =>
    have refused : s.sFmt type request = (s, einval) := by
      simp only [State.sFmt, accepted, Bool.not_false, if_true]
    rw [refused]
    exact ⟨⟨rfl, rfl, rfl⟩, .inl rfl, .inl rfl⟩
  | true =>
    cases named : s.proc.formatType type with
    | coded =>
      have idle : s.coded.busy = false := by
        cases type with
        | output => simp [Proc.formatType, role] at named
        | capture =>
          simp only [State.formatAccepted, State.formatDynamicCheck, State.queueBusy, named, Bool.false_or] at accepted
          exact Bool.not_eq_true' _ ▸ accepted
      rw [sFmt_encCoded role named accepted]
      exact ⟨⟨rfl, rfl, rfl⟩, .inr (by simpa [Queue.busy] using idle), .inl rfl⟩
    | picture =>
      rw [sFmt_onPicture named accepted]
      cases prepared : s.formatPicturePrepare request with
      | error errno => exact ⟨⟨rfl, rfl, rfl⟩, .inl rfl, .inl rfl⟩
      | ok formatPicture =>
        have empty := State.Compatible.picture_empty named accepted
        have size := encPicturePrepare_ok ((formatPicturePrepare_encoder role request).symm.trans prepared)
        unfold State.pictureStored
        dsimp only
        rw [role]
        exact ⟨⟨rfl, rfl, rfl⟩, .inl rfl, .inr ⟨⟨rfl, rfl, empty⟩, size⟩⟩

/-- The only error of preparing a picture format. -/
theorem formatPicturePrepare_error {errno : ℤ} (failed : s.formatPicturePrepare request = .error errno) :
    errno ≠ 0 := by
  have refused : einval ≠ 0 := by decide
  cases role : s.proc.role with
  | decoder =>
    rw [formatPicturePrepare_decoder role, decPicturePrepare] at failed
    split at failed
    · exact Except.error.inj failed ▸ refused
    · cases failed
  | encoder =>
    rw [formatPicturePrepare_encoder role, encPicturePrepare] at failed
    dsimp only at failed
    split at failed
    · cases failed
    · exact Except.error.inj failed ▸ refused

/-- `S_FMT` on settled formats fails and changes nothing, or succeeds. -/
theorem sFmt_stored (settled : s.Settled) (type : BufferType) (request : PixFormat) :
    ((s.sFmt type request).1 = s ∧ (s.sFmt type request).2 ≠ 0) ∨
      ((s.sFmt type request).2 = 0 ∧ Success s type request (s.sFmt type request).1) := by
  cases accepted : s.formatAccepted type request with
  | false =>
    simp only [State.sFmt, accepted]
    exact .inl ⟨rfl, show einval ≠ 0 by decide⟩
  | true =>
    cases named : s.proc.formatType type with
    | coded =>
      right
      cases role : s.proc.role with
      | decoder =>
        obtain ⟨picture, prepared, stored⟩ := sFmt_decCoded settled role named accepted
        rw [stored]
        refine ⟨rfl, accepted, rfl, ?_⟩
        rw [role, named]
        exact .decCoded rfl rfl
          ((formatPicturePrepare_decoder (s := s.codedStored request picture) role _).trans prepared)
      | encoder =>
        rw [sFmt_encCoded role named accepted]
        refine ⟨rfl, accepted, rfl, ?_⟩
        rw [role, named]
        exact .encCoded rfl rfl rfl
    | picture =>
      rw [sFmt_onPicture named accepted]
      cases prepared : s.formatPicturePrepare request with
      | error errno => exact .inl ⟨rfl, formatPicturePrepare_error prepared⟩
      | ok formatPicture =>
        right
        dsimp only
        rw [State.pictureStored]
        cases role : s.proc.role with
        | decoder =>
          refine ⟨rfl, accepted, rfl, ?_⟩
          rw [role, named]
          exact .decPicture rfl rfl prepared
        | encoder =>
          refine ⟨rfl, accepted, rfl, ?_⟩
          rw [role, named]
          exact .encPicture rfl prepared rfl

/-- The engine of a coded format is one of the node's. -/
theorem engine_supported {engine : Engine} {pixelformat : PixelFormat} (supported : s.proc.Supported)
    (role : s.proc.role = .decoder) (found : s.proc.engineFindFormat pixelformat = some engine) :
    engine ∈ decProc.engines := by
  have member := supported.1 (List.mem_of_find?_eq_some found)
  rwa [role] at member

/-- The pixel format of settled formats is one that its type has. -/
theorem State.Settled.pixelformat (settled : s.Settled) (role : s.proc.role = .encoder) :
    s.proc.formatSelect s.formatCoded.pixelformat .coded = s.formatCoded.pixelformat := by
  have propagated := settled.propagated
  rw [role] at propagated
  rw [← formatCodedPrepare_pixelformat]
  exact congrArg PixFormat.pixelformat propagated

/-- A picture format made from a coded size that meets the constraints meets them, and is made again. -/
theorem picture_settles {engine : Engine} {picture : PixFormat} (role : s.proc.role = .decoder)
    (supported : engine ∈ decProc.engines)
    (admitted : engine.frmsize.Admits s.formatCoded.width s.formatCoded.height)
    (prepared : s.formatPicturePrepare request = .ok picture) :
    engine.frmsize.Admits picture.width picture.height ∧ s.formatPicturePrepare picture = .ok picture := by
  have made := prepared
  rw [formatPicturePrepare_decoder role] at made
  obtain ⟨pixelformat, layout, laid, width, height⟩ := decPicturePrepare_ok made
  constructor
  · rw [width, height]
    exact Engine.layout_admitted supported admitted laid
  · have selected : (s.proc.supportedRequest .picture picture).pixelformat =
        (s.proc.supportedRequest .picture request).pixelformat := by
      simp only [Proc.supportedRequest, pixelformat, Proc.formatSelect_idem]
    rw [formatPicturePrepare_decoder role, decPicturePrepare_congr _ selected]
    exact made

/-- A coded format that follows the picture is made again. -/
theorem coded_settles (role : s.proc.role = .encoder) (stored : s.formatCoded = s.formatCodedPrepare request) :
    s.formatCodedPrepare s.formatCoded = s.formatCoded := by
  rw [stored, formatCodedPrepare_encoder role, formatCodedPrepare_encoder role]
  apply encCodedPrepare_again
  · simp only [Proc.supportedRequest, encCodedPrepare, Proc.formatSelect_idem]
  · rfl

/-- A coded format that follows the picture has its size. -/
theorem coded_size (role : s.proc.role = .encoder) (stored : s.formatCoded = s.formatCodedPrepare request) :
    s.formatCoded.width = s.formatPicture.width ∧ s.formatCoded.height = s.formatPicture.height := by
  rw [stored, formatCodedPrepare_encoder role]
  exact ⟨rfl, rfl⟩

/-- A decoder is settled if its engine is that of the coded format, and the picture was prepared from a coded size
that the engine admits. -/
theorem State.Settled.of_decoder (role : s.proc.role = .decoder) (supported : s.proc.Supported)
    (selected : s.proc.engineFindFormat s.formatCoded.pixelformat = some s.engine)
    (admitted : s.engine.frmsize.Admits s.formatCoded.width s.formatCoded.height)
    (prepared : s.formatPicturePrepare request = .ok s.formatPicture) : s.Settled := by
  obtain ⟨pictureAdmitted, again⟩ :=
    picture_settles role (engine_supported supported role selected) admitted prepared
  refine ⟨supported, selected, admitted, pictureAdmitted, ?_⟩
  rw [role]
  exact again

/-- An encoder is settled if its engine is that of the coded format and admits the picture size, and the coded
format was prepared from the picture. -/
theorem State.Settled.of_encoder (role : s.proc.role = .encoder) (supported : s.proc.Supported)
    (selected : s.proc.engineFindFormat s.formatCoded.pixelformat = some s.engine)
    (admitted : s.engine.frmsize.Admits s.formatPicture.width s.formatPicture.height)
    (stored : s.formatCoded = s.formatCodedPrepare request) : s.Settled := by
  obtain ⟨width, height⟩ := coded_size role stored
  refine ⟨supported, selected, ?_, admitted, ?_⟩
  · rw [width, height]
    exact admitted
  · rw [role]
    exact coded_settles role stored

/-- A successful `S_FMT` whose size carries over leaves formats settled, as the request has them. -/
theorem Success.settled {next : State} (settled : s.Settled) (success : Success s type request next)
    (carries : s.proc.formatType type = .coded → s.CarriesOver request) :
    next.Settled ∧ next.Repeats (s.proc.formatType type) request := by
  obtain ⟨accepted, proc, stored⟩ := success
  have supported : next.proc.Supported := by
    rw [proc]
    exact settled.supported
  have found := (requestedEngine_found s request).1
  rw [← formatCodedPrepare_pixelformat] at found
  cases role : s.proc.role <;> cases named : s.proc.formatType type <;> rw [role, named] at stored <;>
    have nextRole : next.proc.role = _ := (congrArg Proc.role proc).trans role
  case decoder.coded =>
    cases stored with | decCoded engine coded picture =>
    have alike := carries named
    simp only [State.CarriesOver, role] at alike
    have clamped : next.formatCodedPrepare request = next.formatCoded := by
      rw [coded, formatCodedPrepare_decoder nextRole, formatCodedPrepare_decoder role, proc, engine]
      simp only [decCodedPrepare, Proc.supportedRequest, alike]
    have admitted : next.engine.frmsize.Admits next.formatCoded.width next.formatCoded.height := by
      rw [← clamped, formatCodedPrepare_decoder nextRole]
      exact next.engine.clamped_admitted ..
    refine ⟨.of_decoder nextRole supported ?_ admitted picture, clamped⟩
    rw [proc, coded, engine]
    exact found
  case decoder.picture =>
    cases stored with | decPicture engine coded picture =>
    have kept : next.formatPicturePrepare request = .ok next.formatPicture := by
      rw [← picture]
      simp only [State.formatPicturePrepare, proc, coded, engine]
    have admitted : next.engine.frmsize.Admits next.formatCoded.width next.formatCoded.height := by
      rw [engine, coded]
      exact settled.coded
    refine ⟨.of_decoder nextRole supported ?_ admitted kept, kept⟩
    rw [proc, coded, engine]
    exact settled.selected
  case encoder.coded =>
    cases stored with | encCoded engine coded picture =>
    have admitted := carries named
    simp only [State.CarriesOver, role] at admitted
    rw [← engine, ← picture] at admitted
    have again : next.formatCoded = next.formatCodedPrepare request := by
      rw [coded, formatCodedPrepare_encoder nextRole, formatCodedPrepare_encoder role, proc, picture]
    refine ⟨.of_encoder nextRole supported ?_ admitted again, again.symm⟩
    rw [proc, coded, engine]
    exact found
  case encoder.picture =>
    cases stored with | encPicture engine picture coded =>
    have kept : next.formatPicturePrepare request = .ok next.formatPicture := by
      rw [← picture, formatPicturePrepare_encoder nextRole, formatPicturePrepare_encoder role, proc, engine]
    have admitted : next.engine.frmsize.Admits next.formatPicture.width next.formatPicture.height :=
      admits_of_encPicturePrepare ((formatPicturePrepare_encoder nextRole request).symm.trans kept)
    refine ⟨.of_encoder nextRole supported ?_ admitted coded, kept⟩
    rw [coded, formatCodedPrepare_pixelformat, proc, settled.pixelformat role, engine]
    exact settled.selected

/-- A request that settled formats already have changes neither of them. -/
theorem sFmt_again (settled : s.Settled) (repeats : s.Repeats (s.proc.formatType type) request) :
    (s.sFmt type request).1.formatCoded = s.formatCoded ∧ (s.sFmt type request).1.formatPicture = s.formatPicture := by
  rcases sFmt_stored settled type request with ⟨same, -⟩ | ⟨-, accepted, proc, stored⟩
  · rw [same]
    exact ⟨rfl, rfl⟩
  generalize (s.sFmt type request).1 = next at proc stored
  have propagated := settled.propagated
  cases role : s.proc.role <;> cases named : s.proc.formatType type <;>
    rw [role, named] at stored <;> rw [named] at repeats <;> rw [role] at propagated <;>
    have nextRole : next.proc.role = _ := (congrArg Proc.role proc).trans role
  case decoder.coded =>
    cases stored with | decCoded engine coded picture =>
    have sameCoded : next.formatCoded = s.formatCoded := coded.trans repeats
    have samePicture : next.formatPicturePrepare s.formatPicture = s.formatPicturePrepare s.formatPicture := by
      rw [formatPicturePrepare_decoder nextRole, formatPicturePrepare_decoder role, proc, sameCoded]
    exact ⟨sameCoded, Except.ok.inj (picture.symm.trans (samePicture.trans propagated))⟩
  case decoder.picture =>
    cases stored with | decPicture engine coded picture =>
    exact ⟨coded, Except.ok.inj (picture.symm.trans repeats)⟩
  case encoder.coded =>
    cases stored with | encCoded engine coded picture =>
    exact ⟨coded.trans repeats, picture⟩
  case encoder.picture =>
    cases stored with | encPicture engine picture coded =>
    have samePicture : next.formatPicture = s.formatPicture := Except.ok.inj (picture.symm.trans repeats)
    have sameCoded : next.formatCodedPrepare s.formatCoded = s.formatCodedPrepare s.formatCoded := by
      rw [formatCodedPrepare_encoder nextRole, formatCodedPrepare_encoder role, proc, samePicture]
    exact ⟨coded.trans (sameCoded.trans propagated), samePicture⟩

end

/-- The formats are settled and already as the last successful request has them. -/
structure FormatsSettled (s : Recorded State LastRequest) : Prop where
  settled : s.state.Settled
  repeats : ∀ last ∈ s.history, s.state.Repeats (s.state.proc.formatType last.1) last.2

theorem FormatsSettled.hold {s : Recorded State LastRequest} (settled : FormatsSettled s) : FormatsHold s :=
  ⟨⟨s.state.engine, settled.settled.selected, settled.settled.coded, settled.settled.picture⟩,
    fun last member => sFmt_again settled.settled (settled.repeats last member)⟩

theorem FormatsSettled.step {s : Recorded State LastRequest} {event : Event} {next : State} (settled : FormatsSettled s)
    (carries : SizesCarryOver s event) (taken : Formats.step s.state event = some next) :
    FormatsSettled ⟨next, lastRequest s.state event next s.history⟩ := by
  have others (other : ∀ type request, event ≠ .sFmt type request)
      (unwritten : lastRequest s.state event next s.history = s.history) :
      FormatsSettled ⟨next, lastRequest s.state event next s.history⟩ := by
    have kept := FormatsKept.of_step other taken
    refine ⟨kept.settled settled.settled, fun last member => ?_⟩
    rw [kept.proc]
    exact kept.repeats (settled.repeats last (unwritten ▸ member))
  cases event with
  | sFmt type request =>
    obtain rfl := Option.some.inj taken
    simp only [lastRequest]
    rcases sFmt_stored settled.settled type request with ⟨same, failed⟩ | ⟨succeeded, success⟩
    · rw [same, if_neg failed]
      exact settled
    · obtain ⟨after, repeats⟩ :=
        success.settled settled.settled fun coded => carries coded success.accepted
      rw [if_pos succeeded]
      refine ⟨after, fun last member => ?_⟩
      obtain rfl := Option.some.inj member
      rw [success.proc]
      exact repeats
  | reqbufs | qbuf | streamOn | streamOff | job => exact others (fun _ _ same => nomatch same) rfl

theorem setup_decoder {proc : Proc} {s : State} (role : proc.role = .decoder) (opened : State.setup proc = .ok s) :
    s.proc = proc ∧ s.engine = proc.engines.head proc.engines_ne ∧
      (∃ width height, s.formatCoded = s.formatCodedPrepare { pixelformat := s.engine.pixelformat, width, height }) ∧
      ∃ request, s.formatPicturePrepare request = .ok s.formatPicture := by
  simp only [State.setup, role, State.formatPropagate] at opened
  split at opened
  case h_1 => cases opened
  case h_2 picture prepared =>
    obtain rfl := Except.ok.inj opened
    refine ⟨rfl, rfl, ⟨1280, 720, ?_⟩, _, prepared⟩
    simp only [State.formatCodedPrepare, role]

theorem setup_encoder {proc : Proc} {s : State} (role : proc.role = .encoder) (opened : State.setup proc = .ok s) :
    s.proc = proc ∧ s.engine = proc.engines.head proc.engines_ne ∧
      (∃ request, s.formatPicturePrepare request = .ok s.formatPicture) ∧ s.formatCoded = s.formatCodedPrepare {} := by
  simp only [State.setup, role] at opened
  split at opened
  case h_1 => cases opened
  case h_2 picture prepared =>
    simp only [State.formatPropagate, role] at opened
    obtain rfl := Except.ok.inj opened
    refine ⟨rfl, rfl, ⟨{ pixelformat := proc.formatFindFirst .picture, width := 1280, height := 720 }, ?_⟩, rfl⟩
    simp only [State.formatPicturePrepare, State.selectionPictureReset, role] at prepared ⊢
    exact prepared

/-- The formats of a file that was just opened are settled. -/
theorem State.Settled.setup {proc : Proc} {s : State} (supported : proc.Supported) (opened : State.setup proc = .ok s) :
    s.Settled := by
  cases role : proc.role with
  | decoder =>
    obtain ⟨rfl, engine, ⟨width, height, coded⟩, request, picture⟩ := setup_decoder role opened
    have found := s.proc.engineFindFormat_first (.inl rfl)
    rw [← engine, ← formatCodedPrepare_pixelformat s { pixelformat := s.engine.pixelformat, width, height },
      ← coded] at found
    have admitted : s.engine.frmsize.Admits s.formatCoded.width s.formatCoded.height := by
      rw [coded, formatCodedPrepare_decoder role]
      exact s.engine.clamped_admitted ..
    exact .of_decoder role supported found admitted picture
  | encoder =>
    obtain ⟨rfl, engine, ⟨request, picture⟩, coded⟩ := setup_encoder role opened
    have nameless : ∀ engine ∈ s.proc.engines, engine.pixelformat ≠ .other 0 := by
      intro engine _
      cases engine <;> decide
    have found := s.proc.engineFindFormat_first (.inr nameless)
    rw [← engine, ← formatCodedPrepare_pixelformat s {}, ← coded] at found
    have admitted : s.engine.frmsize.Admits s.formatPicture.width s.formatPicture.height :=
      admits_of_encPicturePrepare ((formatPicturePrepare_encoder role request).symm.trans picture)
    exact .of_encoder role supported found admitted coded

/-- As long as every size carries over to the engine that is selected with it, the formats hold after every
run of a file. -/
theorem formats_hold_of_sizes_carry_over (proc : Proc) (opened : State) (events : List Event)
    (final : Recorded State LastRequest) (supported : proc.Supported) (setup : State.setup proc = .ok opened)
    (carryOver : Guarded (record step lastRequest) SizesCarryOver ⟨opened, none⟩ events)
    (reached : run (record step lastRequest) ⟨opened, none⟩ events = some final) : FormatsHold final := by
  have start : FormatsSettled ⟨opened, none⟩ := ⟨.setup supported setup, fun _ member => nomatch member⟩
  refine (carryOver.run_preserves FormatsSettled ?_ start reached).hold
  intro s event next settled carries taken
  obtain ⟨state, stepped, rfl⟩ := record_iff.mp taken
  exact settled.step carries stepped

/-- H.264 at a size that the engine of MPEG-2 clamps alike, then the other picture format. -/
def alike : List Event :=
  [codedRequest .h264Slice 1919 1080, .sFmt .capture { pixelformat := .nv12_32L32 }]

theorem formats_hold_alike :
    ∃ opened final, State.setup decProc = .ok opened ∧
      run (record step lastRequest) ⟨opened, none⟩ alike = some final ∧ FormatsHold final :=
  ⟨_, _, rfl, rfl, formats_hold_of_sizes_carry_over decProc _ alike _ ⟨by decide, by decide⟩ rfl (by decide) rfl⟩

/-- VP9 is selected with a size that MPEG-2, the engine in force, takes as it is. -/
def tooSmall : List Event := [codedRequest .vp9Frame 16 16]

/-- JPEG is selected for a picture that only H.264 takes. -/
def tooLarge : List Event :=
  [.sFmt .output { pixelformat := .nv12, width := 3840, height := 2160 }, .sFmt .capture { pixelformat := .jpeg }]

/-- On neither node do the formats always hold. -/
theorem formats_not_always_hold :
    ¬ ∃ proc ∈ [decProc, encProc], ∀ (opened : State) (events : List Event) (final : Recorded State LastRequest),
      State.setup proc = .ok opened → run (record step lastRequest) ⟨opened, none⟩ events = some final →
        FormatsHold final := by
  rintro ⟨proc, member, always⟩
  rcases List.mem_pair.mp member with rfl | rfl
  · obtain ⟨⟨engine, found, coded, -⟩, -⟩ := always _ tooSmall _ rfl rfl
    obtain rfl : Engine.decVp9 = engine := Option.some.inj found
    exact absurd coded (by decide)
  · obtain ⟨⟨engine, found, coded, -⟩, -⟩ := always _ tooLarge _ rfl rfl
    obtain rfl : Engine.encJpeg = engine := Option.some.inj found
    exact absurd coded (by decide)

end H618Vpu.Formats
