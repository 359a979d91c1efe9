/-
  File:      MisterMagik/Controllers/Registry.lean
  Subject:   The controller registry in memory (`controller-registry/src/db.rs`). Definitions.

  A `String` is its text and what it allocated: the persistence queue charges for the allocation,
  everything else looks at the text. A clone allocates what it holds.

  * `ControllerDb` -- the entries by logical id; `Registry`, their contents;
  * `logicalId`, `defaultEntry`, `listEntryId` -- what the input side reads of a device.
-/
import MisterMagik.Base.Bytes
import MisterMagik.Base.Table
import MisterMagik.Base.Text

namespace MisterMagik.Controllers

open MisterMagik.Base

/-! ## 1. Entries -/

/-- `String`: the text, and its capacity. -/
structure Allocated where
  text : String
  capacity : Nat
  deriving DecidableEq, Repr

/-- A text that was cloned. -/
def Allocated.exact (text : String) : Allocated := ⟨text, text.utf8ByteSize⟩

def Allocated.clone (self : Allocated) : Allocated := .exact self.text

inductive ControllerKind where
  | gamepad
  | fightStick
  | arcade
  | simple
  | unknown
  deriving DecidableEq, Repr

structure ControllerEntry where
  label : Allocated
  kernelName : Allocated
  kind : ControllerKind
  setupComplete : Bool
  lastUsbPort : Allocated
  deriving DecidableEq, Repr

/-- Entries with one clone have the same contents. -/
def ControllerEntry.clone (self : ControllerEntry) : ControllerEntry :=
  { self with
    label := self.label.clone
    kernelName := self.kernelName.clone
    lastUsbPort := self.lastUsbPort.clone }

@[simp] theorem ControllerEntry.clone_clone (entry : ControllerEntry) :
    entry.clone.clone = entry.clone := rfl

/-! ## 2. Devices -/

structure PadInfo where
  name : String
  vendorId : String
  productId : String
  serial : String
  usbPort : String
  jsButtons : Nat
  jsAxes : Nat
  deriving DecidableEq, Repr

def stripHexPrefix (raw : String) : String :=
  let trimmed := (raw.toList.dropWhile isWhitespace).rdropWhile isWhitespace
  let digits :=
    match trimmed with
    | '0' :: 'x' :: rest | '0' :: 'X' :: rest => rest
    | _ => trimmed
  String.ofList (digits.map Char.toLower)

def logicalId (info : PadInfo) : String :=
  let vid := stripHexPrefix info.vendorId
  let pid := stripHexPrefix info.productId
  if info.serial = "" then vid ++ ":" ++ pid else vid ++ ":" ++ pid ++ ":" ++ info.serial

def inferKind (info : PadInfo) : ControllerKind :=
  if 8 ≤ info.jsButtons ∧ info.jsAxes ≤ 2 then .fightStick
  else if 4 ≤ info.jsAxes then .gamepad
  else if info.jsButtons ≤ 6 ∧ info.jsAxes ≤ 2 then .simple
  else if 8 ≤ info.jsButtons then .arcade
  else .unknown

/-- `capacity` is what `format!` allocated. -/
def defaultLabel (info : PadInfo) (capacity : Nat) : Allocated :=
  if info.name ≠ "" then .exact info.name
  else ⟨"Controller " ++ stripHexPrefix info.vendorId ++ ":" ++ stripHexPrefix info.productId,
    capacity⟩

def defaultEntry (info : PadInfo) (capacity : Nat) : ControllerEntry :=
  { label := defaultLabel info capacity
    kernelName := .exact info.name
    kind := inferKind info
    setupComplete := false
    lastUsbPort := .exact info.usbPort }

/-! ## 3. The registry -/

abbrev ControllerDb := Table String ControllerEntry

/-- What a registry says, whatever its strings allocated. -/
abbrev Registry := String → Option ControllerEntry

namespace ControllerDb

def contents (db : ControllerDb) : Registry := fun id => (db.lookup id).map ControllerEntry.clone

def get (db : ControllerDb) (info : PadInfo) : Option ControllerEntry := db.lookup (logicalId info)

def replaceEntry (db : ControllerDb) (id : String) (entry : ControllerEntry) : ControllerDb :=
  db.insert id entry

def portChanged (db : ControllerDb) (info : PadInfo) : Bool :=
  match db.get info with
  | some entry => entry.lastUsbPort.text != "" && entry.lastUsbPort.text != info.usbPort
  | none => false

/-- The id at a place of the list sorted by label; `toLowercase` is `str::to_lowercase`. -/
def listEntryId (db : ControllerDb) (toLowercase : String → String) (index : Nat) :
    Option String :=
  let entries := (Table.pairs db).mergeSort fun a b =>
    !strLt (toLowercase b.2.label.text) (toLowercase a.2.label.text)
  entries[index]?.map Prod.fst

theorem contents_replaceEntry (db : ControllerDb) (id : String) (entry : ControllerEntry) :
    (db.replaceEntry id entry).contents = Function.update db.contents id (some entry.clone) := by
  funext id'
  unfold contents replaceEntry
  by_cases h : id' = id
  · subst h
    rw [AList.lookup_insert, Function.update_self]
    rfl
  · rw [AList.lookup_insert_ne h, Function.update_of_ne h]

end ControllerDb

end MisterMagik.Controllers
