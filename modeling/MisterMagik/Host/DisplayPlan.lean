/-
  File:      MisterMagik/Host/DisplayPlan.lean
  Subject:   The geometry of a presentation (`magik-core/src/display.rs`,
             `framebuffer/route.rs`, `framebuffer/format.rs`, the geometry of `fpga.rs` and of
             `framebuffer/hidden_scanout.rs`).

  A plan says how large the framebuffer is and how large the frames drawn into it are. Every way to
  make one gives both the same width (`fromGeometry_width`); only the 240-line route composes more
  lines than it scans.

  Not here: the rectangle an environment variable puts in place of the placement.
-/
import MisterMagik.Host.Device

namespace MisterMagik.Host

open MisterMagik.Fpga (Word)

/-! ## 1. Plans -/

def UI_FB_W : Nat := 960
def UI_FB_H : Nat := 540
def UI_FB_720P_W : Nat := 1280
def UI_FB_720P_H : Nat := 720
def CRT_COMPOSITION_W : Nat := 640
def CRT_COMPOSITION_H : Nat := 480

inductive ResolvedOutputRoute where
  | hdmi
  | crt240p60
  | crt288p50
  | crt480p60
  | crt576p50
  deriving DecidableEq

inductive Crt240Composition where
  | legacy480
  | native240
  deriving DecidableEq

namespace ResolvedOutputRoute

def isCrt (self : ResolvedOutputRoute) : Bool := self ≠ .hdmi

def framebufferGeometry : ResolvedOutputRoute → Option (Nat × Nat)
  | hdmi => none
  | crt240p60 => some (640, 240)
  | crt288p50 => some (640, 288)
  | crt480p60 => some (640, 480)
  | crt576p50 => some (640, 576)

def compositionGeometryWithCrt240 (self : ResolvedOutputRoute) (framebuffer : Nat × Nat)
    (composition : Crt240Composition) : Nat × Nat :=
  match self with
  | crt288p50 | crt576p50 => framebuffer
  | crt240p60 =>
      match composition with
      | .legacy480 => (CRT_COMPOSITION_W, CRT_COMPOSITION_H)
      | .native240 => framebuffer
  | crt480p60 => (CRT_COMPOSITION_W, CRT_COMPOSITION_H)
  | hdmi => framebuffer

end ResolvedOutputRoute

structure DisplayGeometry where
  outputW : Word
  outputH : Word
  scanW : Word
  scanH : Word
  deriving DecidableEq

def atLeastOne (value : Nat) : Nat := if value = 0 then 1 else value

def launcherFramebufferSize (outputW outputH : Nat) : Nat × Nat :=
  if 1366 ≤ outputW ∨ 900 ≤ outputH then (atLeastOne (outputW / 2), atLeastOne (outputH / 2))
  else (atLeastOne outputW, atLeastOne outputH)

inductive FramebufferSizePolicy where
  | auto
  | force960x540
  | force1280x720
  deriving DecidableEq

def FramebufferSizePolicy.framebufferSize (self : FramebufferSizePolicy)
    (outputW outputH : Nat) : Nat × Nat :=
  match self with
  | auto => launcherFramebufferSize outputW outputH
  | force960x540 => (UI_FB_W, UI_FB_H)
  | force1280x720 => (UI_FB_720P_W, UI_FB_720P_H)

structure ResolvedDisplayPlan where
  fbW : Nat
  fbH : Nat
  renderW : Nat
  renderH : Nat
  outputW : Word
  outputH : Word
  scanW : Word
  scanH : Word
  outputRoute : ResolvedOutputRoute
  fbPolicy : FramebufferSizePolicy
  crt240Composition : Crt240Composition
  deriving DecidableEq

/-- `from_geometry_with_crt240_composition`, which every other way to make a plan goes through. -/
def ResolvedDisplayPlan.fromGeometry (geometry : DisplayGeometry)
    (outputRoute : ResolvedOutputRoute) (fbPolicy : FramebufferSizePolicy)
    (crt240Composition : Crt240Composition) : ResolvedDisplayPlan :=
  let fb := match outputRoute.framebufferGeometry with
    | some fb => (fb, FramebufferSizePolicy.auto)
    | none =>
        (fbPolicy.framebufferSize geometry.outputW.toNat geometry.outputH.toNat, fbPolicy)
  let render := outputRoute.compositionGeometryWithCrt240 fb.1 crt240Composition
  { fbW := fb.1.1
    fbH := fb.1.2
    renderW := render.1
    renderH := render.2
    outputW := geometry.outputW
    outputH := geometry.outputH
    scanW := geometry.scanW
    scanH := geometry.scanH
    outputRoute
    fbPolicy := fb.2
    crt240Composition }

/-- Frames are as wide as the framebuffer. -/
theorem fromGeometry_width (geometry : DisplayGeometry) (outputRoute : ResolvedOutputRoute)
    (fbPolicy : FramebufferSizePolicy) (crt240Composition : Crt240Composition) :
    let plan := ResolvedDisplayPlan.fromGeometry geometry outputRoute fbPolicy crt240Composition
    plan.renderW = plan.fbW := by
  cases outputRoute with
  | crt240p60 => cases crt240Composition <;> rfl
  | hdmi | crt288p50 | crt480p60 | crt576p50 => rfl

/-! ## 2. Routes -/

def RGB565_BYTES_PER_PIXEL : Nat := 2

def align16 (bytes : Nat) : Nat := (bytes + 15) / 16 * 16

def rgb565StrideBytes (width : Nat) : Nat := align16 (width * RGB565_BYTES_PER_PIXEL)

theorem le_align16 (bytes : Nat) : bytes ≤ align16 bytes := by
  unfold align16
  omega

theorem width_le_stride (width : Nat) : width ≤ rgb565StrideBytes width / 2 := by
  have h := le_align16 (width * RGB565_BYTES_PER_PIXEL)
  have h2 : width * RGB565_BYTES_PER_PIXEL = width * 2 := rfl
  unfold rgb565StrideBytes
  omega

structure FramebufferRouteMode where
  hact : Word
  hbp : Word
  vact : Word
  vbp : Word
  deriving DecidableEq

structure FramebufferPlacement where
  left : Word
  top : Word
  width : Word
  height : Word
  deriving DecidableEq

/-- `saturating_sub`. -/
def saturatingSub (a b : Word) : Word := if b ≤ a then a - b else 0#16

def FramebufferPlacement.fromMode (mode : FramebufferRouteMode) : FramebufferPlacement :=
  { left := saturatingSub mode.hbp 3#16
    top := saturatingSub mode.vbp 2#16
    width := mode.hact
    height := mode.vact }

def uiFpgaScaledMode (scanW scanH : Word) (directVideo : Bool) : FramebufferRouteMode :=
  let porches : Word × Word :=
    if directVideo then
      if scanW = 640#16 ∧ (scanH = 240#16 ∨ scanH = 288#16) then (70#16, 14#16)
      else if scanW = 640#16 ∧ scanH = 480#16 then (48#16, 33#16)
      else if scanW = 640#16 ∧ scanH = 576#16 then (48#16, 42#16)
      else (3#16, 2#16)
    else (3#16, 2#16)
  { hact := scanW, hbp := porches.1, vact := scanH, vbp := porches.2 }

structure LauncherFramebufferRoute where
  mode : FramebufferRouteMode
  placement : FramebufferPlacement
  directVideo : Bool
  deriving DecidableEq

def LauncherFramebufferRoute.forScan (scanW scanH : Word) (directVideo : Bool) :
    LauncherFramebufferRoute :=
  let mode := uiFpgaScaledMode scanW scanH directVideo
  { mode, placement := .fromMode mode, directVideo }

/-- The coordinates are computed as `i32` and cut to `u16`. -/
def LatchedFbufGeometry.newWithPlacement (fbWidth : Word) (placement : FramebufferPlacement)
    (rightGuardCols : Int) : LatchedFbufGeometry :=
  let guard := max 0 (min rightGuardCols ((saturatingSub placement.width 1#16).toNat : Int))
  { xoff := placement.left
    right := BitVec.ofInt 16 (placement.left.toNat + placement.width.toNat - 1 - guard)
    yoff := placement.top
    bottom := BitVec.ofInt 16 (placement.top.toNat + placement.height.toNat - 1)
    strideBytes := BitVec.ofNat 16 (rgb565StrideBytes fbWidth.toNat) }

def LatchedFbufGeometry.newForRoute (fbWidth : Word) (route : LauncherFramebufferRoute)
    (rightGuardCols : Int) : LatchedFbufGeometry :=
  .newWithPlacement fbWidth route.placement rightGuardCols

/-! ## 3. Slots -/

/-- `EXPECTED_LAYOUT`, the only layout the host accepts; the addresses are those of
    `SlotBases.expectedLayout`. -/
structure ScanoutSlotsLayout where
  maxWidth : Nat
  maxHeight : Nat
  maxStrideBytes : Nat
  slotCapacityBytes : Nat
  deriving DecidableEq

def EXPECTED_LAYOUT : ScanoutSlotsLayout :=
  { maxWidth := 1366, maxHeight := 768, maxStrideBytes := 2736, slotCapacityBytes := 2101248 }

inductive HiddenScanoutError where
  | invalidGeometry (message : String)
  deriving DecidableEq

def validateScanoutSlotsGeometry (usizeMax width height strideBytes : Nat) :
    Except HiddenScanoutError Nat :=
  if width = 0 ∨ height = 0 then
    .error (.invalidGeometry ("invalid dimensions " ++ toString width ++ "x" ++ toString height))
  else if strideBytes < rgb565StrideBytes width ∨ strideBytes % RGB565_BYTES_PER_PIXEL ≠ 0 then
    .error (.invalidGeometry ("stride " ++ toString strideBytes ++
      " is not a whole-pixel stride of at least " ++ toString (rgb565StrideBytes width)))
  else if strideBytes * height ≤ usizeMax then .ok (strideBytes * height)
  else .error (.invalidGeometry "frame size overflow")

def validateScanoutSlotsGeometryForLayout (usizeMax : Nat) (layout : ScanoutSlotsLayout)
    (width height strideBytes : Nat) : Except HiddenScanoutError Nat := do
  let frameLen ← validateScanoutSlotsGeometry usizeMax width height strideBytes
  if layout.maxWidth < width ∨ layout.maxHeight < height ∨ layout.maxStrideBytes < strideBytes ∨
      layout.slotCapacityBytes < frameLen then
    .error (.invalidGeometry ("requested frame " ++ toString width ++ "x" ++ toString height ++
      " stride=" ++ toString strideBytes ++ " bytes=" ++ toString frameLen ++
      " exceeds ABI maximum " ++ toString layout.maxWidth ++ "x" ++ toString layout.maxHeight ++
      " stride=" ++ toString layout.maxStrideBytes ++ " capacity=" ++
      toString layout.slotCapacityBytes))
  else .ok frameLen

/-- A frame that is accepted can be counted. -/
theorem frame_fits {usizeMax width height strideBytes frameLen : Nat} {layout : ScanoutSlotsLayout}
    (h : validateScanoutSlotsGeometryForLayout usizeMax layout width height strideBytes =
      .ok frameLen) : strideBytes * height ≤ usizeMax := by
  unfold validateScanoutSlotsGeometryForLayout validateScanoutSlotsGeometry at h
  split at h
  · cases h
  · split at h
    · cases h
    · split at h
      · assumption
      · cases h

end MisterMagik.Host
