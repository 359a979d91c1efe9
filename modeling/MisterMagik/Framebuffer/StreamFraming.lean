/-
  File:      MisterMagik/Framebuffer/StreamFraming.lean
  Subject:   Frames on the wire (`crates/framebuffer-stream`): `write_frame`, `read_frame`.

  A frame is a header of 72 bytes and the payload it declares. The header is written field by field
  into a zeroed block, so that seven of its bytes belong to no field; the reader does not look at
  them.

  * `decode_encode` -- a header that was written is read;
  * `encode_decode` -- a header that was read is written back, up to the seven bytes;
  * `stream_framing` -- what both mean for a stream of frames.
-/
import MisterMagik.Framebuffer.StreamPixels

namespace MisterMagik.Framebuffer.StreamFraming

open MisterMagik.Base (slice slice_eq_some slice_of_le length_of_slice leBytes leValue leValue_lt
  leBytes_leValue leValue_leBytes
  length_leBytes overwriteAll length_overwriteAll slice_overwriteAll getElem?_overwriteAll Apart)

/-! ## 1. The header -/

/-- `b"MMFSv1\0\0"`. -/
def MAGIC : List UInt8 := [77, 77, 70, 83, 118, 49, 0, 0]

def HEADER_LEN : Nat := 72

def MAX_FRAME_SURFACE_BYTES : Nat := 16 * 1024 * 1024

def MAX_FRAME_PAYLOAD_BYTES : Nat := 17 * 1024 * 1024

inductive FrameStreamError where
  | badMagic
  | badHeaderLen (len : Nat)
  | unknownKind (kind : Nat)
  | badGeometry
  | badRect
  | payloadTooLarge
  | badPayloadLen (expected actual : Nat)
  deriving DecidableEq, Repr

inductive FrameKind where
  | hello
  | keyframe
  | rectDelta
  | heartbeat
  | end
  | error
  deriving DecidableEq, Repr

namespace FrameKind

/-- `self.kind as u8`. -/
def asU8 : FrameKind → Nat
  | hello => 1
  | keyframe => 2
  | rectDelta => 3
  | heartbeat => 4
  | «end» => 5
  | error => 6

def fromU8 : Nat → Except FrameStreamError FrameKind
  | 1 => .ok hello
  | 2 => .ok keyframe
  | 3 => .ok rectDelta
  | 4 => .ok heartbeat
  | 5 => .ok «end»
  | 6 => .ok error
  | other => .error (.unknownKind other)

theorem fromU8_asU8 (kind : FrameKind) : fromU8 kind.asU8 = .ok kind := by
  cases kind <;> rfl

theorem asU8_lt (kind : FrameKind) : kind.asU8 < 256 ^ 1 := by
  cases kind <;> decide

theorem asU8_of_fromU8 {value : Nat} {kind : FrameKind} (h : fromU8 value = .ok kind) :
    kind.asU8 = value := by
  unfold fromU8 at h
  split at h
  all_goals first
    | cases h
      rfl
    | cases h

end FrameKind

/-- Every word of the geometry and the rectangle is a `u32`. -/
structure U32Words (geometry : FrameGeometry) (rect : FrameRect) : Prop where
  width : geometry.width < 256 ^ 4
  height : geometry.height < 256 ^ 4
  stridePixels : geometry.stridePixels < 256 ^ 4
  x : rect.x < 256 ^ 4
  y : rect.y < 256 ^ 4
  rectWidth : rect.width < 256 ^ 4
  rectHeight : rect.height < 256 ^ 4

/-- A header, each number within its width. -/
@[ext]
structure FrameHeader where
  kind : FrameKind
  flags : Nat
  sequence : Nat
  timestampUs : Nat
  geometry : FrameGeometry
  rect : FrameRect
  rawBytes : Nat
  payloadBytes : Nat
  flags_lt : flags < 256 ^ 2
  sequence_lt : sequence < 256 ^ 8
  timestampUs_lt : timestampUs < 256 ^ 8
  words : U32Words geometry rect
  rawBytes_lt : rawBytes < 256 ^ 4
  payloadBytes_lt : payloadBytes < 256 ^ 4
  deriving DecidableEq

namespace FrameHeader

/-- Where `encode` writes what. -/
def fields (self : FrameHeader) : List (Nat × List UInt8) :=
  [(0, MAGIC),
    (8, leBytes 1 self.kind.asU8),
    (10, leBytes 2 self.flags),
    (12, leBytes 2 HEADER_LEN),
    (16, leBytes 8 self.sequence),
    (24, leBytes 8 self.timestampUs),
    (32, leBytes 4 self.geometry.width),
    (36, leBytes 4 self.geometry.height),
    (40, leBytes 4 self.geometry.stridePixels),
    (44, leBytes 4 self.rect.x),
    (48, leBytes 4 self.rect.y),
    (52, leBytes 4 self.rect.width),
    (56, leBytes 4 self.rect.height),
    (60, leBytes 4 self.rawBytes),
    (64, leBytes 4 self.payloadBytes)]

def encode (self : FrameHeader) : List UInt8 :=
  overwriteAll (List.replicate HEADER_LEN 0) self.fields

end FrameHeader

/-- `read_u16`, `read_u32`, `read_u64` of a part of the header. -/
def word (bytes : List UInt8) (start length : Nat) : Nat :=
  leValue ((bytes.drop start).take length)

theorem word_lt (bytes : List UInt8) (start length : Nat) :
    word bytes start length < 256 ^ length := by
  refine Nat.lt_of_lt_of_le (leValue_lt _) (Nat.pow_le_pow_right (by decide) ?_)
  rw [List.length_take]
  exact Nat.min_le_left _ _

theorem word_words (bytes : List UInt8) : U32Words
    ⟨word bytes 32 4, word bytes 36 4, word bytes 40 4⟩
    ⟨word bytes 44 4, word bytes 48 4, word bytes 52 4, word bytes 56 4⟩ :=
  ⟨word_lt _ _ _, word_lt _ _ _, word_lt _ _ _, word_lt _ _ _, word_lt _ _ _, word_lt _ _ _,
    word_lt _ _ _⟩

namespace FrameHeader

/-- The header that 72 bytes hold, for its kind. -/
def ofWords (bytes : List UInt8) (kind : FrameKind) : FrameHeader where
  kind
  flags := word bytes 10 2
  sequence := word bytes 16 8
  timestampUs := word bytes 24 8
  geometry := ⟨word bytes 32 4, word bytes 36 4, word bytes 40 4⟩
  rect := ⟨word bytes 44 4, word bytes 48 4, word bytes 52 4, word bytes 56 4⟩
  rawBytes := word bytes 60 4
  payloadBytes := word bytes 64 4
  flags_lt := word_lt bytes 10 2
  sequence_lt := word_lt bytes 16 8
  timestampUs_lt := word_lt bytes 24 8
  words := word_words bytes
  rawBytes_lt := word_lt bytes 60 4
  payloadBytes_lt := word_lt bytes 64 4

def decode (bytes : List UInt8) : Except FrameStreamError FrameHeader :=
  if bytes.length ≠ HEADER_LEN then .error (.badHeaderLen bytes.length)
  else if bytes.take 8 ≠ MAGIC then .error .badMagic
  else if word bytes 12 2 ≠ HEADER_LEN then .error (.badHeaderLen (word bytes 12 2))
  else (FrameKind.fromU8 (word bytes 8 1)).map (ofWords bytes)

end FrameHeader

/-! ## 2. The checks -/

/-- `u32::checked_add`. -/
def checkedAdd (a b : Nat) : Option Nat :=
  if a + b < 256 ^ 4 then some (a + b) else none

/-- `u32::checked_mul`. -/
def checkedMul (a b : Nat) : Option Nat :=
  if a * b < 256 ^ 4 then some (a * b) else none

/-- `ok_or`. -/
def okOr {α : Type} (value : Option α) (error : FrameStreamError) : Except FrameStreamError α :=
  match value with
  | some value => .ok value
  | none => .error error

/-- `usizeMax` is `usize::MAX`. -/
def FrameHeader.validateShape (usizeMax : Nat) (self : FrameHeader) :
    Except FrameStreamError Unit := do
  if self.geometry.width = 0 ∨ self.geometry.height = 0 ∨
      self.geometry.stridePixels < self.geometry.width then
    throw .badGeometry
  if self.rect.width = 0 ∨ self.rect.height = 0 then
    throw .badRect
  let rectRight ← okOr (checkedAdd self.rect.x self.rect.width) .badRect
  let rectBottom ← okOr (checkedAdd self.rect.y self.rect.height) .badRect
  if rectRight > self.geometry.width ∨ rectBottom > self.geometry.height then
    throw .badRect
  if self.kind = .keyframe ∧ self.rect ≠ .full self.geometry then
    throw .badRect
  let expectedRaw ←
    okOr ((checkedMul self.rect.width self.rect.height).bind (checkedMul · 2)) .payloadTooLarge
  let surfaceBytes ←
    okOr ((checkedMul self.geometry.stridePixels self.geometry.height).bind (checkedMul · 2))
      .payloadTooLarge
  -- `surface_bytes as usize`
  if surfaceBytes % (usizeMax + 1) > MAX_FRAME_SURFACE_BYTES then
    throw .payloadTooLarge
  if self.rawBytes ≠ expectedRaw then
    throw (.badPayloadLen expectedRaw self.rawBytes)

/-- The `std::io::Error`s of a frame. -/
inductive IoError where
  | unexpectedEof
  | invalidFrame (error : FrameStreamError)
  | invalidData (message : String)
  deriving DecidableEq, Repr

/-- An `Err` of the header, as `InvalidData`. -/
def invalid {α : Type} : Except FrameStreamError α → Except IoError α
  | .ok value => .ok value
  | .error error => .error (.invalidFrame error)

def validateFrameShapeForTransport (usizeMax : Nat) (header : FrameHeader) : Except IoError Unit :=
  if header.kind = .keyframe ∨ header.kind = .rectDelta then
    invalid (header.validateShape usizeMax)
  else .ok ()

def declaredPayloadLen (usizeMax : Nat) (header : FrameHeader) : Except IoError Nat :=
  if usizeMax < header.payloadBytes then
    .error (.invalidData "framebuffer stream payload length overflows usize")
  else if MAX_FRAME_PAYLOAD_BYTES < header.payloadBytes then
    .error (.invalidFrame .payloadTooLarge)
  else .ok header.payloadBytes

def validateFramePayloadLen (usizeMax : Nat) (header : FrameHeader) (payloadLen : Nat) :
    Except IoError Unit := do
  let declared ← declaredPayloadLen usizeMax header
  if declared ≠ payloadLen then
    let expected := header.payloadBytes
    throw (.invalidData
      s!"framebuffer stream payload length mismatch expected={expected} actual={payloadLen}")

def validateFrameForTransport (usizeMax : Nat) (header : FrameHeader) (payloadLen : Nat) :
    Except IoError Unit := do
  validateFrameShapeForTransport usizeMax header
  validateFramePayloadLen usizeMax header payloadLen

/-! ## 3. Streams -/

/-- What is done with a writer that takes all bytes, or with a reader of bytes in memory: the bytes
    written so far, or those still to be read, and a result. -/
abbrev Streams (α : Type) := ExceptT IoError (StateM (List UInt8)) α

/-- `?` on a result that touches no stream. -/
def ofResult {α : Type} (result : Except IoError α) : Streams α := fun bytes => (result, bytes)

def writeAll (block : List UInt8) : Streams Unit := fun written => (.ok (), written ++ block)

/-- `read_exact`; a reader with too few bytes is left empty. -/
def readExact (count : Nat) : Streams (List UInt8) := fun bytes =>
  if count ≤ bytes.length then (.ok (bytes.take count), bytes.drop count)
  else (.error .unexpectedEof, [])

abbrev Frame := FrameHeader × List UInt8

def writeFrame (usizeMax : Nat) (header : FrameHeader) (payload : List UInt8) : Streams Unit := do
  ofResult (validateFrameForTransport usizeMax header payload.length)
  writeAll header.encode
  writeAll payload

/-- The memory for a payload, at most 17 MiB, is taken to be there. -/
def readFrame (usizeMax : Nat) : Streams Frame := do
  let headerBytes ← readExact HEADER_LEN
  let header ← ofResult (invalid (FrameHeader.decode headerBytes))
  ofResult (validateFrameShapeForTransport usizeMax header)
  let payloadLen ← ofResult (declaredPayloadLen usizeMax header)
  let payload ← readExact payloadLen
  ofResult (validateFramePayloadLen usizeMax header payload.length)
  pure (header, payload)

/-- `read_frame`, so many times. -/
def readFrames (usizeMax : Nat) : Nat → Streams (List Frame)
  | 0 => pure []
  | count + 1 => do
    let frame ← readFrame usizeMax
    let frames ← readFrames usizeMax count
    pure (frame :: frames)

/-- What `write_frame` writes for a frame. -/
def written (usizeMax : Nat) (frame : Frame) : List UInt8 :=
  (writeFrame usizeMax frame.1 frame.2 []).2

/-- `write_frame` takes the frame. -/
def Accepted (usizeMax : Nat) (frame : Frame) : Prop :=
  (writeFrame usizeMax frame.1 frame.2 []).1 = .ok ()

instance (usizeMax : Nat) (frame : Frame) : Decidable (Accepted usizeMax frame) :=
  inferInstanceAs (Decidable ((writeFrame usizeMax frame.1 frame.2 []).1 = .ok ()))

/-- The bytes of a header that no field covers. -/
def UNUSED : List Nat := [9, 14, 15, 68, 69, 70, 71]

/-- The bytes of a frame, those that no field covers set to zero. -/
def clearUnused (bytes : List UInt8) : List UInt8 :=
  bytes.mapIdx fun i byte => if i ∈ UNUSED then 0 else byte

/-! ## 4. A header and its bytes -/

section Header

variable {header : FrameHeader} {bytes : List UInt8} {kind : FrameKind}

theorem length_fields {field : Nat × List UInt8} (h : field ∈ header.fields) :
    field.1 + field.2.length ≤ HEADER_LEN := by
  simp only [FrameHeader.fields, List.mem_cons, List.not_mem_nil, or_false] at h
  rcases h with rfl | rfl | rfl | rfl | rfl | rfl | rfl | rfl | rfl | rfl | rfl | rfl | rfl | rfl |
    rfl
  all_goals
    simp only [length_leBytes]
    decide

theorem apart_fields (header : FrameHeader) : header.fields.Pairwise Apart := by
  simp [FrameHeader.fields, Apart, length_leBytes, MAGIC]

theorem fits_fields {field : Nat × List UInt8} (h : field ∈ header.fields) :
    field.1 + field.2.length ≤ (List.replicate HEADER_LEN (0 : UInt8)).length := by
  rw [List.length_replicate]
  exact length_fields h

theorem length_encode (header : FrameHeader) : header.encode.length = HEADER_LEN := by
  unfold FrameHeader.encode
  rw [length_overwriteAll fun _ hfield => fits_fields hfield, List.length_replicate]

theorem slice_encode {field : Nat × List UInt8} (h : field ∈ header.fields) :
    slice header.encode field.1 field.2.length = some field.2 :=
  slice_overwriteAll (fun _ hfield => fits_fields hfield) (apart_fields header) h

/-- A number that is a field is read. -/
theorem word_encode {start length value : Nat} (h : (start, leBytes length value) ∈ header.fields)
    (hlt : value < 256 ^ length) : word header.encode start length = value := by
  have hslice := slice_encode h
  rw [length_leBytes] at hslice
  unfold word
  rw [(slice_eq_some.1 hslice).2, leValue_leBytes hlt]

theorem ofWords_encode (header : FrameHeader) :
    FrameHeader.ofWords header.encode header.kind = header := by
  have hwidth : word header.encode 32 4 = header.geometry.width :=
    word_encode (List.mem_of_getElem? (i := 6) rfl) header.words.width
  have hheight : word header.encode 36 4 = header.geometry.height :=
    word_encode (List.mem_of_getElem? (i := 7) rfl) header.words.height
  have hstride : word header.encode 40 4 = header.geometry.stridePixels :=
    word_encode (List.mem_of_getElem? (i := 8) rfl) header.words.stridePixels
  have hx : word header.encode 44 4 = header.rect.x :=
    word_encode (List.mem_of_getElem? (i := 9) rfl) header.words.x
  have hy : word header.encode 48 4 = header.rect.y :=
    word_encode (List.mem_of_getElem? (i := 10) rfl) header.words.y
  have hrectWidth : word header.encode 52 4 = header.rect.width :=
    word_encode (List.mem_of_getElem? (i := 11) rfl) header.words.rectWidth
  have hrectHeight : word header.encode 56 4 = header.rect.height :=
    word_encode (List.mem_of_getElem? (i := 12) rfl) header.words.rectHeight
  have hflags : word header.encode 10 2 = header.flags :=
    word_encode (List.mem_of_getElem? (i := 2) rfl) header.flags_lt
  have hsequence : word header.encode 16 8 = header.sequence :=
    word_encode (List.mem_of_getElem? (i := 4) rfl) header.sequence_lt
  have htimestamp : word header.encode 24 8 = header.timestampUs :=
    word_encode (List.mem_of_getElem? (i := 5) rfl) header.timestampUs_lt
  have hraw : word header.encode 60 4 = header.rawBytes :=
    word_encode (List.mem_of_getElem? (i := 13) rfl) header.rawBytes_lt
  have hpayload : word header.encode 64 4 = header.payloadBytes :=
    word_encode (List.mem_of_getElem? (i := 14) rfl) header.payloadBytes_lt
  rw [FrameHeader.ext_iff]
  dsimp only [FrameHeader.ofWords]
  rw [hwidth, hheight, hstride, hx, hy, hrectWidth, hrectHeight]
  exact ⟨rfl, hflags, hsequence, htimestamp, rfl, rfl, hraw, hpayload⟩

/-- **A header that was written is read.** -/
theorem decode_encode (header : FrameHeader) : FrameHeader.decode header.encode = .ok header := by
  have hmagic : header.encode.take 8 = MAGIC :=
    (slice_eq_some.1 (slice_encode (List.mem_of_getElem? (i := 0) rfl))).2
  have hlen : word header.encode 12 2 = HEADER_LEN :=
    word_encode (List.mem_of_getElem? (i := 3) rfl) (by decide)
  have hkind : word header.encode 8 1 = header.kind.asU8 :=
    word_encode (List.mem_of_getElem? (i := 1) rfl) header.kind.asU8_lt
  unfold FrameHeader.decode
  rw [if_neg (not_not_intro (length_encode header)), if_neg (not_not_intro hmagic),
    if_neg (not_not_intro hlen), hkind, FrameKind.fromU8_asU8]
  exact congrArg Except.ok (ofWords_encode header)

/-- What is read is the fields of the header read. -/
theorem decode_ok (h : FrameHeader.decode bytes = .ok header) :
    bytes.length = HEADER_LEN ∧ bytes.take 8 = MAGIC ∧ word bytes 12 2 = HEADER_LEN ∧
      header.kind.asU8 = word bytes 8 1 ∧ header = .ofWords bytes header.kind := by
  unfold FrameHeader.decode at h
  split at h
  · cases h
  rename_i hlength
  split at h
  · cases h
  rename_i hmagic
  split at h
  · cases h
  rename_i hlen
  cases hkind : FrameKind.fromU8 (word bytes 8 1) with
  | error error =>
      rw [hkind] at h
      cases h
  | ok kind =>
      rw [hkind] at h
      cases h
      exact ⟨not_not.1 hlength, not_not.1 hmagic, not_not.1 hlen, FrameKind.asU8_of_fromU8 hkind,
        rfl⟩

theorem slice_word {start length : Nat} (h : start + length ≤ bytes.length) :
    slice bytes start length = some (leBytes length (word bytes start length)) := by
  have hpart : ((bytes.drop start).take length).length = length := length_of_slice (slice_of_le h)
  have hword := leBytes_leValue ((bytes.drop start).take length)
  rw [hpart] at hword
  unfold word
  rw [hword]
  exact slice_of_le h

/-- Every field of the header read stands in the bytes. -/
theorem slice_decode (h : FrameHeader.decode bytes = .ok header) {field : Nat × List UInt8}
    (hfield : field ∈ header.fields) : slice bytes field.1 field.2.length = some field.2 := by
  have hfits := length_fields hfield
  obtain ⟨hlength, hmagic, hlen, hkind, heq⟩ := decode_ok h
  rw [← hlength] at hfits
  by_cases hfirst : field = (0, MAGIC)
  · subst hfirst
    exact slice_eq_some.2 ⟨hfits, hmagic⟩
  -- every other field is a number read at its place
  have hword : ∃ start length, field = (start, leBytes length (word bytes start length)) := by
    unfold FrameHeader.fields at hfield
    rw [hkind, ← hlen, heq] at hfield
    dsimp only [FrameHeader.ofWords] at hfield
    simp only [List.mem_cons, List.not_mem_nil, or_false, hfirst, false_or] at hfield
    rcases hfield with h | h | h | h | h | h | h | h | h | h | h | h | h | h
    all_goals exact ⟨_, _, h⟩
  obtain ⟨start, length, rfl⟩ := hword
  rw [length_leBytes] at hfits ⊢
  exact slice_word hfits

/-- The fields cover all but the unused bytes. -/
theorem covered_iff (header : FrameHeader) {i : Nat} (hi : i < HEADER_LEN) :
    (∃ field ∈ header.fields, field.1 ≤ i ∧ i < field.1 + field.2.length) ↔ i ∉ UNUSED := by
  simp only [FrameHeader.fields, MAGIC, UNUSED, List.mem_cons, List.not_mem_nil, or_and_right,
    exists_or, exists_eq_left, or_false, length_leBytes, List.length_cons, List.length_nil]
  unfold HEADER_LEN at hi
  omega

/-- **A header that was read is written back, but for the bytes that no field covers.** -/
theorem encode_decode (h : FrameHeader.decode bytes = .ok header) :
    header.encode = clearUnused bytes := by
  have hlength := (decode_ok h).1
  refine List.ext_getElem? fun i => ?_
  unfold FrameHeader.encode clearUnused
  rw [getElem?_overwriteAll (by rw [List.length_replicate, hlength])
    (fun _ hfield => slice_decode h hfield), List.getElem?_mapIdx]
  rcases Nat.lt_or_ge i HEADER_LEN with hi | hi
  · have hbytes : i < bytes.length := by omega
    rw [List.getElem?_eq_getElem hbytes, Option.map_some]
    by_cases hunused : i ∈ UNUSED
    · rw [if_neg fun hcovered => (covered_iff header hi).1 hcovered hunused, if_pos hunused,
        List.getElem?_replicate_of_lt hi]
    · rw [if_pos ((covered_iff header hi).2 hunused), if_neg hunused]
  · have hend : bytes[i]? = none := List.getElem?_eq_none (by omega)
    have hzero : (List.replicate HEADER_LEN (0 : UInt8))[i]? = none :=
      List.getElem?_eq_none (by rw [List.length_replicate]; exact hi)
    rw [hend, hzero, ite_self, Option.map_none]

theorem clearUnused_append (hlength : bytes.length = HEADER_LEN) (payload : List UInt8) :
    clearUnused (bytes ++ payload) = clearUnused bytes ++ payload := by
  unfold clearUnused
  rw [List.mapIdx_append, hlength]
  congr 1
  refine (List.mapIdx_eq_iff.2 fun i => ?_)
  have hkept : i + HEADER_LEN ∉ UNUSED := by
    unfold HEADER_LEN UNUSED
    simp only [List.mem_cons, List.not_mem_nil, or_false]
    omega
  have hid : (fun byte : UInt8 => if i + HEADER_LEN ∈ UNUSED then 0 else byte) = id :=
    funext fun byte => if_neg hkept
  rw [hid, Option.map_id, id]

/-- Nothing is cleared exactly when nothing but zeros stands there. -/
theorem clearUnused_iff : clearUnused bytes = bytes ↔
    ∀ i ∈ UNUSED, ∀ byte, bytes[i]? = some byte → byte = 0 := by
  unfold clearUnused
  rw [List.mapIdx_eq_iff]
  constructor
  · intro h i hi byte hbyte
    have heq := h i
    rw [hbyte, Option.map_some, if_pos hi] at heq
    exact Option.some.inj heq
  · intro h i
    cases hbyte : bytes[i]? with
    | none => rfl
    | some byte =>
        rw [Option.map_some]
        split
        · rename_i hi
          rw [h i hi byte hbyte]
        · rfl

end Header

/-! ## 5. One frame -/

section Frames

variable {α β : Type} {usizeMax : Nat} {header : FrameHeader} {frame : Frame}
  {bytes bytes' payload rest : List UInt8}

theorem streams_bind_ok {x : Streams α} {f : α → Streams β} {b : β} :
    (x >>= f) bytes = (.ok b, rest) ↔
      ∃ a mid, x bytes = (.ok a, mid) ∧ f a mid = (.ok b, rest) := by
  have h : (x >>= f) bytes = ExceptT.bindCont f (x bytes).1 (x bytes).2 := rfl
  rw [h]
  obtain ⟨result, mid⟩ := x bytes
  cases result with
  | error error =>
      constructor
      · intro h
        cases h
      · rintro ⟨a, mid', h, -⟩
        cases h
  | ok a =>
      constructor
      · intro h
        exact ⟨a, mid, rfl, h⟩
      · rintro ⟨a', mid', h, hf⟩
        cases h
        exact hf

theorem ofResult_ok {result : Except IoError α} {a : α} :
    ofResult result bytes = (.ok a, rest) ↔ rest = bytes ∧ result = .ok a := by
  unfold ofResult
  rw [Prod.mk.injEq]
  exact ⟨fun h => ⟨h.2.symm, h.1⟩, fun h => ⟨h.2, h.1.symm⟩⟩

theorem streams_pure_ok {a b : α} :
    (pure a : Streams α) bytes = (.ok b, rest) ↔ rest = bytes ∧ b = a := by
  have h : (pure a : Streams α) bytes = (.ok a, bytes) := rfl
  rw [h, Prod.mk.injEq, Except.ok.injEq]
  exact ⟨fun h => ⟨h.2.symm, h.1.symm⟩, fun h => ⟨h.2.symm, h.1.symm⟩⟩

theorem readExact_ok {count : Nat} {block : List UInt8} :
    readExact count bytes = (.ok block, rest) ↔ block.length = count ∧ bytes = block ++ rest := by
  unfold readExact
  split
  · rename_i hcount
    constructor
    · intro h
      cases h
      exact ⟨List.length_take_of_le hcount, (List.take_append_drop count bytes).symm⟩
    · rintro ⟨rfl, rfl⟩
      rw [List.take_left, List.drop_left]
  · rename_i hcount
    constructor
    · intro h
      cases h
    · rintro ⟨rfl, rfl⟩
      rw [List.length_append] at hcount
      omega

theorem invalid_ok {result : Except FrameStreamError α} {a : α} :
    invalid result = .ok a ↔ result = .ok a := by
  cases result with
  | error error => exact ⟨fun h => (by cases h), fun h => (by cases h)⟩
  | ok value => exact Iff.of_eq (by unfold invalid; rw [Except.ok.injEq, Except.ok.injEq])

theorem payloadLen_ok {length : Nat} : validateFramePayloadLen usizeMax header length = .ok () ↔
    declaredPayloadLen usizeMax header = .ok length := by
  unfold validateFramePayloadLen
  cases declaredPayloadLen usizeMax header with
  | error error => exact ⟨fun h => (by cases h), fun h => (by cases h)⟩
  | ok declared =>
      by_cases heq : declared = length
      · subst heq
        exact ⟨fun _ => rfl, fun _ => if_neg (not_not_intro rfl)⟩
      · constructor
        · intro h
          have hthrow := (if_pos heq).symm.trans h
          cases hthrow
        · intro h
          exact absurd (Except.ok.inj h) heq

/-- Both checks of a frame. -/
theorem transport_ok {length : Nat} : validateFrameForTransport usizeMax header length = .ok () ↔
    validateFrameShapeForTransport usizeMax header = .ok () ∧
      declaredPayloadLen usizeMax header = .ok length := by
  unfold validateFrameForTransport
  rw [← payloadLen_ok]
  cases validateFrameShapeForTransport usizeMax header with
  | error error => exact ⟨fun h => (by cases h), fun h => (by cases h.1)⟩
  | ok shape => exact ⟨fun h => ⟨rfl, h⟩, fun h => h.2⟩

/-- A frame that passes is written after what was written; another writes nothing. -/
theorem writeFrame_eq (usizeMax : Nat) (header : FrameHeader) (payload bytes : List UInt8) :
    writeFrame usizeMax header payload bytes =
      match validateFrameForTransport usizeMax header payload.length with
      | .ok () => (.ok (), bytes ++ header.encode ++ payload)
      | .error error => (.error error, bytes) := by
  have h : writeFrame usizeMax header payload bytes =
      ExceptT.bindCont (fun _ => writeAll header.encode >>= fun _ => writeAll payload)
        (validateFrameForTransport usizeMax header payload.length) bytes := rfl
  rw [h]
  cases validateFrameForTransport usizeMax header payload.length with
  | error error => rfl
  | ok done => rfl

theorem accepted_iff : Accepted usizeMax frame ↔
    validateFrameForTransport usizeMax frame.1 frame.2.length = .ok () := by
  unfold Accepted
  rw [writeFrame_eq]
  cases validateFrameForTransport usizeMax frame.1 frame.2.length with
  | error error => exact ⟨fun h => (by cases h), fun h => (by cases h)⟩
  | ok done => exact ⟨fun _ => rfl, fun _ => rfl⟩

theorem writeFrame_accepted (h : Accepted usizeMax frame) (bytes : List UInt8) :
    writeFrame usizeMax frame.1 frame.2 bytes = (.ok (), bytes ++ frame.1.encode ++ frame.2) := by
  rw [writeFrame_eq, accepted_iff.1 h]

theorem written_accepted (h : Accepted usizeMax frame) :
    written usizeMax frame = frame.1.encode ++ frame.2 := by
  unfold written
  rw [writeFrame_accepted h, List.nil_append]

/-- **What is read: a block that decodes to the header, the payload, and nothing else; and the frame
    is one that would be written.** -/
theorem readFrame_ok : readFrame usizeMax bytes = (.ok frame, rest) ↔
    ∃ block, bytes = block ++ frame.2 ++ rest ∧ FrameHeader.decode block = .ok frame.1 ∧
      Accepted usizeMax frame := by
  simp only [readFrame, streams_bind_ok, ofResult_ok, invalid_ok, readExact_ok, streams_pure_ok,
    accepted_iff, transport_ok]
  constructor
  · rintro ⟨block, mid, ⟨-, rfl⟩, header, mid', ⟨rfl, hdecode⟩, ⟨⟩, mid', ⟨rfl, hshape⟩, length,
      mid', ⟨rfl, hlength⟩, payload, mid', ⟨rfl, rfl⟩, ⟨⟩, mid', ⟨rfl, -⟩, rfl, rfl⟩
    exact ⟨block, (List.append_assoc _ _ _).symm, hdecode, hshape, hlength⟩
  · rintro ⟨block, rfl, hdecode, hshape, hlength⟩
    exact ⟨block, frame.2 ++ rest, ⟨(decode_ok hdecode).1, List.append_assoc _ _ _⟩, frame.1, _,
      ⟨rfl, hdecode⟩, (), _, ⟨rfl, hshape⟩, frame.2.length, _, ⟨rfl, hlength⟩, frame.2, rest,
      ⟨rfl, rfl⟩, (), _, ⟨rfl, payloadLen_ok.2 hlength⟩, rfl, rfl⟩

/-- A frame that was written is read, and what follows it is left. -/
theorem readFrame_written (h : Accepted usizeMax frame) (rest : List UInt8) :
    readFrame usizeMax (written usizeMax frame ++ rest) = (.ok frame, rest) :=
  readFrame_ok.2 ⟨frame.1.encode, by rw [written_accepted h], decode_encode frame.1, h⟩

/-- A frame that is read is written back, but for the bytes that no field covers. -/
theorem written_readFrame (h : readFrame usizeMax bytes = (.ok frame, rest)) :
    Accepted usizeMax frame ∧
      ∃ consumed, bytes = consumed ++ rest ∧ written usizeMax frame = clearUnused consumed := by
  obtain ⟨block, rfl, hdecode, haccepted⟩ := readFrame_ok.1 h
  refine ⟨haccepted, block ++ frame.2, rfl, ?_⟩
  rw [written_accepted haccepted, encode_decode hdecode, clearUnused_append (decode_ok hdecode).1]

end Frames

/-! ## 6. Streams of frames -/

section Stream

variable {usizeMax : Nat} {frames : List Frame}

theorem readFrames_written (h : ∀ frame ∈ frames, Accepted usizeMax frame) (rest : List UInt8) :
    readFrames usizeMax frames.length (frames.flatMap (written usizeMax) ++ rest) =
      (.ok frames, rest) := by
  induction frames with
  | nil => rfl
  | cons frame frames ih =>
      rw [List.flatMap_cons, List.append_assoc, List.length_cons, readFrames]
      exact streams_bind_ok.2 ⟨frame, _, readFrame_written (h frame List.mem_cons_self) _,
        streams_bind_ok.2
          ⟨frames, rest, ih fun frame hframe => h frame (List.mem_cons_of_mem _ hframe),
          streams_pure_ok.2 ⟨rfl, rfl⟩⟩⟩

/-- A stream that has ended holds no frame. -/
theorem readFrame_nil : readFrame usizeMax [] = (.error .unexpectedEof, []) := rfl

/-- **The frames of a stream.** Frames that `write_frame` takes are read back in order, and nothing
    is left; a frame that `read_frame` returns is one that `write_frame` takes, and it is written as
    it stood, with the bytes that no field covers set to zero. -/
theorem stream_framing (usizeMax : Nat) :
    (∀ frames : List Frame, (∀ frame ∈ frames, Accepted usizeMax frame) →
      readFrames usizeMax frames.length (frames.flatMap (written usizeMax)) = (.ok frames, []) ∧
        readFrame usizeMax [] = (.error .unexpectedEof, [])) ∧
      ∀ bytes frame rest, readFrame usizeMax bytes = (.ok frame, rest) →
        Accepted usizeMax frame ∧
          ∃ consumed, bytes = consumed ++ rest ∧
            written usizeMax frame = clearUnused consumed ∧
            (written usizeMax frame = consumed ↔
              ∀ i ∈ UNUSED, ∀ byte, consumed[i]? = some byte → byte = 0) := by
  refine ⟨fun frames h => ⟨?_, readFrame_nil⟩, fun bytes frame rest h => ?_⟩
  · have hread := readFrames_written h []
    rw [List.append_nil] at hread
    exact hread
  · obtain ⟨haccepted, consumed, hbytes, hwritten⟩ := written_readFrame h
    refine ⟨haccepted, consumed, hbytes, hwritten, ?_⟩
    rw [hwritten]
    exact clearUnused_iff

theorem word_pos (length : Nat) : 0 < 256 ^ length := Nat.pow_pos (by decide)

theorem zero_words : U32Words ⟨0, 0, 0⟩ ⟨0, 0, 0, 0⟩ :=
  ⟨word_pos 4, word_pos 4, word_pos 4, word_pos 4, word_pos 4, word_pos 4, word_pos 4⟩

/-- A frame without a picture and without a payload. -/
def bare (kind : FrameKind) : FrameHeader :=
  ⟨kind, 0, 0, 0, ⟨0, 0, 0⟩, ⟨0, 0, 0, 0⟩, 0, 0, word_pos 2, word_pos 8, word_pos 8, zero_words,
    word_pos 4, word_pos 4⟩

/-- The whole of a surface of two lines of two pixels, three pixels apart, in five bytes. -/
def whole : FrameHeader where
  kind := .keyframe
  flags := 1
  sequence := 1
  timestampUs := 70000
  geometry := ⟨2, 2, 3⟩
  rect := ⟨0, 0, 2, 2⟩
  rawBytes := 8
  payloadBytes := 5
  flags_lt := by decide
  sequence_lt := by decide
  timestampUs_lt := by decide
  words := ⟨by decide, by decide, by decide, by decide, by decide, by decide, by decide⟩
  rawBytes_lt := by decide
  payloadBytes_lt := by decide

/-- One pixel of it, as it is. -/
def pixel : FrameHeader where
  kind := .rectDelta
  flags := 0
  sequence := 2
  timestampUs := 86000
  geometry := ⟨2, 2, 3⟩
  rect := ⟨1, 1, 1, 1⟩
  rawBytes := 2
  payloadBytes := 2
  flags_lt := by decide
  sequence_lt := by decide
  timestampUs_lt := by decide
  words := ⟨by decide, by decide, by decide, by decide, by decide, by decide, by decide⟩
  rawBytes_lt := by decide
  payloadBytes_lt := by decide

/-- A viewer's session: a greeting, a picture, a change, the end. -/
def session : List Frame :=
  [(bare .hello, []), (whole, [3, 0, 248, 1, 31]), (pixel, [224, 7]), (bare .end, [])]

theorem stream_framing_session :
    readFrames 4294967295 4 (session.flatMap (written 4294967295)) = (.ok session, []) ∧
      (session.flatMap (written 4294967295)).length = 295 :=
  ⟨((stream_framing 4294967295).1 session (by decide)).1, by decide +kernel⟩

/-- The bytes of a heartbeat, with a one in the byte after its kind. -/
def marked : List UInt8 := (bare .heartbeat).encode.set 9 1

theorem decode_marked : FrameHeader.decode marked = .ok (bare .heartbeat) := by decide +kernel

theorem written_ne_marked : written 4294967295 (bare .heartbeat, []) ≠ marked := by decide +kernel

theorem marked_frame_not_rewritten :
    readFrame 4294967295 marked = (.ok (bare .heartbeat, []), []) ∧
      written 4294967295 (bare .heartbeat, []) ≠ marked := by
  refine ⟨readFrame_ok.2 ⟨marked, ?_, decode_marked, by decide⟩, written_ne_marked⟩
  rw [List.append_nil, List.append_nil]

end Stream

end MisterMagik.Framebuffer.StreamFraming
