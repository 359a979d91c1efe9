/-
  File:      MisterMagik/Launcher/CapsuleRoundTrip.lean
  Subject:   THE ROUND TRIP OF A RETURN CAPSULE.

  What was prepared is read with the binding and the selection it was prepared for, and with no
  others; a part of it, or more than it, is refused. The plans are kept by reference, the first of
  each, so that the rows launch as they did exactly where the references determine the plans. A
  collection that is published under an id its rows do not belong to cannot be restored.

  * `PreparedCapsule`, `prepared_of_ok` -- what a successful preparation has checked and written;
  * `decode_ok` -- with what the bytes are decoded, and into which catalog;
  * `return_capsule_round_trip` -- the round trip;
  * `capsule_loses` -- two rows of one reference, and a collection under another id.
-/
import MisterMagik.Catalog.NavRoundTrip
import MisterMagik.Launcher.ReturnCapsule

namespace MisterMagik.Launcher

open Base Catalog CapsuleBinaryWriter CapsuleBinaryReader

/-! ## 1. What the writer writes, the reader reads -/

/-- A text that the reader takes. -/
def Short (value : String) : Prop := (utf8 value).length ≤ RETURN_CATALOG_CAPSULE_MAX_STRING_BYTES

def spellString (value : String) : List UInt8 := leBytes 4 (utf8 value).length ++ utf8 value

section Parts

variable {value label : String} {bytes : List UInt8}

theorem appends_reserve (additional : Nat) : Appends (reserve additional) [] fun _ => True where
  ok bytes a bytes' h := by
    unfold reserve at h
    split at h
    · cases h
      exact ⟨(List.append_nil _).symm, trivial⟩
    · cases h

theorem appends_writeBytes (value : List UInt8) :
    Appends (writeBytes value) value fun _ => True where
  ok bytes a bytes' h := by
    obtain ⟨_, mid, hreserve, hmodify⟩ := takes_bind_ok.1 h
    obtain ⟨hmid, -⟩ := (appends_reserve value.length).ok _ _ _ hreserve
    rw [List.append_nil] at hmid
    subst hmid
    cases hmodify
    exact ⟨rfl, trivial⟩

theorem validateString_ok : validateString label value = .ok () ↔ Short value := by
  unfold validateString
  rw [check_ok]
  exact decide_eq_true_iff

theorem appends_writeCount (count : Nat) :
    Appends (writeCount count label) (leBytes 4 count) fun _ => count < 256 ^ 4 := by
  have hcheck : Appends (liftM (check (count < 256 ^ 4) s!"{label} count is too large")) []
      fun _ => count < 256 ^ 4 := (appends_lift _).weaken fun _ h =>
    of_decide_eq_true (check_ok.1 h)
  exact (appends_then hcheck (appends_writeBytes _)).weaken fun _ h => h.1

theorem appends_writeString (value : String) :
    Appends (writeString value) (spellString value) fun _ => Short value := by
  have hvalid : Appends (liftM (validateString "encoded string" value)) [] fun _ => Short value :=
    (appends_lift _).weaken fun _ h => validateString_ok.1 h
  have hcount : Appends (writeCount (utf8 value).length "string byte")
      (leBytes 4 (utf8 value).length) fun _ => _ := appends_writeCount (utf8 value).length
  have hwritten := appends_then (f := fun _ => writeBytes (utf8 value)) hcount
    (appends_writeBytes (utf8 value))
  exact (appends_then hvalid hwritten).weaken fun _ h => h.1

theorem text_ok {notUtf8 : String} {raw : List UInt8} : text notUtf8 raw = .ok value ↔
    utf8? raw = some value := by
  unfold text
  cases utf8? raw with
  | none => simp [fail]
  | some value' => simp

theorem onSpelled_readString (h : Short value) :
    OnSpelled (readString label) (spellString value) (· = value) := by
  have hlt : (utf8 value).length < 256 ^ 4 := Nat.lt_of_le_of_lt h (by decide)
  refine onSpelled_then (onSpelled_takeLe hlt) ?_
  have hraw : OnSpelled (take (utf8 value).length (truncated label) >>= fun raw =>
      liftM (text s!"return capsule {label} is not UTF-8" raw)) (utf8 value ++ []) (· = value) := by
    refine onSpelled_then (onSpelled_take _ _) ((onSpelled_lift _).congr fun value' => ?_)
    rw [text_ok, utf8?_utf8, Option.some.injEq, eq_comm]
  rw [List.append_nil] at hraw
  exact (onSpelled_checked hraw).congr fun value' => and_iff_right (decide_eq_true h)

theorem codes_string (value label : String) :
    Codes (writeString value) (readString label) value 4 :=
  codes_of (by rw [spellString, List.length_append, length_leBytes]; omega)
    (appends_writeString value) onSpelled_readString

theorem codes_fixed {α : Type} {width n : Nat} {what : String} {put : Puts Unit}
    {x : Takes α} {a : α} {made : Nat → α} (hput : put = writeBytes (leBytes width n))
    (hx : x = takeLe width what >>= fun value => pure (made value)) (hn : n < 256 ^ width)
    (ha : made n = a) : Codes put x a width := by
  subst hput hx ha
  refine codes_last (a := n) ?_ rfl
  exact codes_of (length_leBytes width n).ge (appends_writeBytes _) fun _ => onSpelled_takeLe hn

theorem codes_u8 (value : UInt8) : Codes (writeU8 value) readU8 value 1 :=
  codes_fixed rfl rfl value.toNat_lt (UInt8.ofNat_toNat)

theorem codes_u16 (value : UInt16) : Codes (writeU16 value) CapsuleBinaryReader.readU16 value 2 :=
  codes_fixed rfl rfl value.toNat_lt (UInt16.ofNat_toNat)

theorem codes_u32 (value : UInt32) : Codes (writeU32 value) CapsuleBinaryReader.readU32 value 4 :=
  codes_fixed rfl rfl value.toNat_lt (UInt32.ofNat_toNat)

theorem codes_u64 (value : UInt64) : Codes (writeU64 value) CapsuleBinaryReader.readU64 value 8 :=
  codes_fixed rfl rfl value.toNat_lt (UInt64.ofNat_toNat)

/-- A byte that stands for a value. -/
theorem codes_asByte {α : Type} (code : α → UInt8) {decoded : UInt8 → Reads α} (value : α)
    (h : decoded (code value) = .ok value) :
    Codes (writeU8 (code value)) (readU8 >>= fun byte => liftM (decoded byte)) value 1 := by
  obtain ⟨spelled, Known, hleast, hput, hx⟩ := codes_u8 (code value)
  refine codes_of hleast hput fun hknown => ?_
  have hlift : OnSpelled (liftM (decoded (code value))) [] (· = value) :=
    (onSpelled_lift _).congr fun value' => by
      rw [h]
      exact ⟨fun h => (Except.ok.inj h).symm, fun h => h ▸ rfl⟩
  have hthen := onSpelled_then (f := fun byte => liftM (decoded byte)) (hx hknown) hlift
  rwa [List.append_nil] at hthen

theorem codes_bool (value : Bool) : Codes (writeBool value) readBool value 1 :=
  codes_asByte (fun value : Bool => if value then 1 else 0) value (by cases value <;> rfl)

theorem codes_kind (kind : PlatformKind) :
    Codes (writeU8 (encodePlatformKind kind)) readPlatformKind kind 1 :=
  codes_asByte encodePlatformKind kind (by cases kind <;> rfl)

theorem codes_option {α : Type} {write : α → Puts Unit} {read : Takes α} {least : Nat}
    (h : ∀ a, Codes (write a) read a least) (value : Option α) :
    Codes (writeOption write value) (readOption read) value 1 := by
  cases value with
  | none =>
      exact codes_then (f := fun present : Bool =>
        if present then read >>= fun value => pure (some value) else pure none)
        (codes_bool false) (codes_pure none)
  | some a =>
      have hread : Codes (write a) (read >>= fun value => pure (some value)) (some a) least :=
        codes_last (h a) rfl
      exact codes_then (f := fun present : Bool =>
        if present then read >>= fun value => pure (some value) else pure none)
        (codes_bool true) (hread.mono (Nat.zero_le _))

theorem codes_all {α : Type} {write : α → Puts Unit} {read : Takes α} {items : List α}
    {least max : Nat} (h : ∀ a ∈ items, Codes (write a) read a least)
    (hmax : items.length ≤ max) :
    Codes (writeAll label write items)
      (readCount label max least >>= takeMany read) items (4 + items.length * least) :=
  codes_listOf (appends_writeCount items.length) h hmax

end Parts

/-! ## 2. The records -/

theorem codes_rule (rule : String × String) : Codes (encodeRule rule) decodeRule rule 8 := by
  unfold encodeRule decodeRule
  refine codes_then (codes_string rule.1 _) ?_
  exact codes_last (codes_string rule.2 _) rfl

theorem codes_binding (binding : CapsuleBinding)
    (hroots : binding.libraryRoots.length ≤ RETURN_CATALOG_CAPSULE_MAX_ROOTS)
    (hrules : binding.pathMap.length ≤ RETURN_CATALOG_CAPSULE_MAX_PATH_MAPS) :
    Codes (encodeBinding binding) decodeBinding binding 0 := by
  unfold encodeBinding decodeBinding
  refine codes_then (codes_string binding.namespace_ _) ?_
  refine codes_then (codes_string binding.appDir _) ?_
  refine codes_then (codes_string binding.catalogRoot _) ?_
  refine codes_then (codes_all (fun root _ => codes_string root _) hroots) ?_
  refine codes_then (codes_all (fun rule _ => codes_rule rule) hrules) ?_
  refine codes_then (codes_string binding.catalogStampFingerprint _) ?_
  refine codes_then (codes_u32 binding.catalogSchema) ?_
  refine codes_then (codes_u32 binding.catalogBuild) ?_
  refine codes_then (codes_string binding.binaryVersion _) ?_
  exact Codes.mono (codes_last (codes_string binding.binaryBuild _) rfl) (by omega)

theorem codes_system (system : CapsuleSystem) :
    Codes (encodeSystem system) decodeSystem system MIN_ENCODED_SYSTEM_BYTES := by
  unfold encodeSystem decodeSystem
  refine codes_then (codes_string system.id _) ?_
  refine codes_then (codes_string system.title _) ?_
  refine codes_then (codes_u64 system.count) ?_
  exact codes_last (codes_kind system.platformKind) rfl

theorem codes_game (game : ArcadeGameEntry) :
    Codes (encodeGame game) decodeGame game MIN_ENCODED_GAME_BYTES := by
  unfold encodeGame decodeGame
  refine codes_guarded ?_
  refine codes_then (codes_string game.title _) ?_
  refine codes_then (codes_string game.mraPath _) ?_
  refine codes_then (codes_string game.previewArchivePath _) ?_
  refine codes_then (codes_string game.previewAssetKey _) ?_
  refine codes_then (codes_bool game.hasPreview) ?_
  refine codes_then (codes_string game.systemId _) ?_
  refine codes_then (codes_option codes_u16 game.year) ?_
  refine codes_then (codes_string game.manufacturer _) ?_
  refine codes_then (codes_string game.category _) ?_
  refine codes_then (codes_option codes_u8 game.players) ?_
  refine codes_then (codes_string game.control _) ?_
  exact Codes.mono (codes_last (codes_bool game.isNew) rfl) (by decide)

theorem codes_plan (plan : StructuredLaunchPlan) :
    Codes (encodePlan plan) decodePlan plan MIN_ENCODED_PLAN_BYTES := by
  unfold encodePlan decodePlan
  refine codes_guarded ?_
  refine codes_then (codes_string plan.launchRef _) ?_
  refine codes_then (codes_string plan.title _) ?_
  refine codes_then (codes_string plan.systemId _) ?_
  refine codes_then (codes_string plan.corePath _) ?_
  refine codes_then (codes_string plan.payloadPath _) ?_
  refine codes_then (codes_string plan.mountKind _) ?_
  refine codes_then (codes_u8 plan.mountIndex) ?_
  exact codes_last (codes_u8 plan.delaySecs) rfl

theorem codes_magic (magic : List UInt8) : Codes (writeBytes magic) (expectMagic magic) () 0 := by
  refine codes_of (Nat.zero_le _) (appends_writeBytes magic) fun _ => ?_
  have hcheck : OnSpelled (liftM (check (magic = magic) "return capsule magic mismatch")) []
      (· = ()) := (onSpelled_check _ _).congr fun _ => by simp
  have hthen := onSpelled_then (f := fun raw =>
    liftM (check (raw = magic) "return capsule magic mismatch"))
    (onSpelled_take (truncated "magic") magic) hcheck
  rwa [List.append_nil] at hthen

theorem length_takeMany {α : Type} {item : Takes α} {count : Nat} {bytes rest : List UInt8}
    {items : List α} (h : takeMany item count bytes = .ok (items, rest)) :
    items.length = count := by
  induction count generalizing bytes items rest with
  | zero =>
      obtain ⟨-, rfl⟩ := takes_pure_ok.1 h
      rfl
  | succ count ih =>
      obtain ⟨a, mid, -, hmany⟩ := takes_bind_ok.1 h
      obtain ⟨more, mid', hmore, hpure⟩ := takes_bind_ok.1 hmany
      obtain ⟨-, rfl⟩ := takes_pure_ok.1 hpure
      rw [List.length_cons, ih hmore]

/-- Where there is a row, the check for none of them does not matter. -/
theorem decodeGames_ok {bytes rest : List UInt8} {games : List ArcadeGameEntry}
    (hne : games ≠ []) : decodeGames bytes = .ok (games, rest) ↔
      (readCount "games" RETURN_CATALOG_CAPSULE_MAX_ROWS MIN_ENCODED_GAME_BYTES >>=
        takeMany decodeGame) bytes = .ok (games, rest) := by
  unfold decodeGames
  rw [takes_bind_ok, takes_bind_ok]
  constructor
  · intro h
    obtain ⟨count, mid, hcount, hchecked⟩ := h
    obtain ⟨_, mid', hlift, hmany⟩ := takes_bind_ok.1 hchecked
    obtain ⟨rfl, -⟩ := takes_lift_ok.1 hlift
    exact ⟨count, mid', hcount, hmany⟩
  · intro h
    obtain ⟨count, mid, hcount, hmany⟩ := h
    have hpos : count ≠ 0 := fun hzero =>
      hne (List.length_eq_zero_iff.1 ((length_takeMany hmany).trans hzero))
    refine ⟨count, mid, hcount, takes_bind_ok.2 ⟨(), mid, ?_, hmany⟩⟩
    exact takes_lift_ok.2 ⟨rfl, check_ok.2 (decide_eq_true hpos)⟩

theorem codes_games {games : List ArcadeGameEntry} (hne : games ≠ [])
    (hmax : games.length ≤ RETURN_CATALOG_CAPSULE_MAX_ROWS) :
    Codes (writeCount games.length "games" >>= fun _ => putEach encodeGame games) decodeGames
      games 0 := by
  have h : Codes (writeAll "games" encodeGame games) (readCount "games"
      RETURN_CATALOG_CAPSULE_MAX_ROWS MIN_ENCODED_GAME_BYTES >>= takeMany decodeGame) games _ :=
    codes_all (fun game _ => codes_game game) hmax
  obtain ⟨spelled, Known, -, hput, hx⟩ := h
  refine codes_of (Nat.zero_le _) hput fun hknown => ⟨fun rest a rest' => ?_⟩
  rw [← (hx hknown).ok]
  by_cases ha : a = []
  · subst ha
    constructor
    · intro h
      obtain ⟨count, mid, hcount, hchecked⟩ := takes_bind_ok.1 h
      obtain ⟨_, mid', hlift, hmany⟩ := takes_bind_ok.1 hchecked
      have hpos := of_decide_eq_true (check_ok.1 (takes_lift_ok.1 hlift).2)
      exact absurd (length_takeMany hmany).symm hpos
    · intro h
      exact absurd ((hx hknown).ok _ _ _ |>.1 h).2.symm hne
  · exact decodeGames_ok ha

section Rows

variable {lookups : Lookups} {catalog : ArcadeCatalog lookups} {view : ArcadeGameView}
  {collectionId returnGamePath : String} {binding : CapsuleBinding}

theorem codes_rows (hiter : view.iter.length = view.len) (hne : view.len ≠ 0)
    (hrows : view.len ≤ RETURN_CATALOG_CAPSULE_MAX_ROWS)
    (hsystems : catalog.systems.length ≤ RETURN_CATALOG_CAPSULE_MAX_SYSTEMS)
    (hroots : binding.libraryRoots.length ≤ RETURN_CATALOG_CAPSULE_MAX_ROOTS)
    (hrules : binding.pathMap.length ≤ RETURN_CATALOG_CAPSULE_MAX_PATH_MAPS) :
    Codes (encodeRows catalog view collectionId returnGamePath binding) decodeRows
      ⟨binding, collectionId, returnGamePath, capsuleSystems catalog, view.iter, []⟩ 0 := by
  unfold encodeRows decodeRows
  rw [← hiter] at hne hrows ⊢
  have hsystems' : (capsuleSystems catalog).length ≤ RETURN_CATALOG_CAPSULE_MAX_SYSTEMS := by
    rwa [capsuleSystems, List.length_map]
  refine codes_then (codes_magic _) ?_
  refine codes_then (codes_u32 _) ?_
  refine codes_checked (a := ()) (by rfl) ?_
  refine codes_then (codes_binding binding hroots hrules) ?_
  refine codes_then (codes_string collectionId _) ?_
  refine codes_then (codes_string returnGamePath _) ?_
  refine codes_then (codes_all (fun system _ => codes_system system) hsystems') ?_
  exact Codes.mono (codes_last (codes_games (List.length_pos_iff.1 (by omega)) hrows) rfl)
    (by omega)

end Rows

/-! ## 3. More bytes -/

theorem onward_readString (label : String) : Onward (readString label) :=
  onward_bind (onward_takeLe _ _) fun _ => onward_bind (onward_lift _) fun _ =>
    onward_bind (onward_take _ _) fun _ => onward_lift _

theorem onward_u8 : Onward readU8 := onward_bind (onward_takeLe _ _) fun _ => onward_pure _

theorem onward_u16 : Onward CapsuleBinaryReader.readU16 :=
  onward_bind (onward_takeLe _ _) fun _ => onward_pure _

theorem onward_u32 : Onward CapsuleBinaryReader.readU32 :=
  onward_bind (onward_takeLe _ _) fun _ => onward_pure _

theorem onward_u64 : Onward CapsuleBinaryReader.readU64 :=
  onward_bind (onward_takeLe _ _) fun _ => onward_pure _

theorem onward_readBool : Onward readBool := onward_bind onward_u8 fun _ => onward_lift _

theorem onward_readPlatformKind : Onward readPlatformKind :=
  onward_bind onward_u8 fun _ => onward_lift _

theorem onward_readOption {α : Type} {read : Takes α} (h : Onward read) :
    Onward (readOption read) := by
  refine onward_bind onward_readBool fun present => ?_
  cases present with
  | false => exact onward_pure none
  | true => exact onward_bind h fun value => onward_pure (some value)

theorem onward_decodeBinding : Onward decodeBinding := by
  unfold decodeBinding decodeRoots decodeRules
  refine onward_bind (onward_readString _) fun namespace_ => ?_
  refine onward_bind (onward_readString _) fun appDir => ?_
  refine onward_bind (onward_readString _) fun catalogRoot => ?_
  refine onward_bind (onward_bind onward_takeCount fun _ => onward_takeMany
    (onward_readString _) _) fun libraryRoots => ?_
  refine onward_bind (onward_bind onward_takeCount fun _ => onward_takeMany
    (onward_bind (onward_readString _) fun _ => onward_bind (onward_readString _) fun _ =>
      onward_pure _) _) fun pathMap => ?_
  refine onward_bind (onward_readString _) fun catalogStampFingerprint => ?_
  refine onward_bind onward_u32 fun catalogSchema => ?_
  refine onward_bind onward_u32 fun catalogBuild => ?_
  refine onward_bind (onward_readString _) fun binaryVersion => ?_
  exact onward_bind (onward_readString _) fun binaryBuild => onward_pure _

theorem onward_decodeSystem : Onward decodeSystem := by
  unfold decodeSystem
  refine onward_bind (onward_readString _) fun id => ?_
  refine onward_bind (onward_readString _) fun title => ?_
  refine onward_bind onward_u64 fun count => ?_
  exact onward_bind onward_readPlatformKind fun kind => onward_pure _

theorem onward_decodeGame : Onward decodeGame := by
  unfold decodeGame
  refine onward_bind (onward_readString _) fun title => ?_
  refine onward_bind (onward_readString _) fun mraPath => ?_
  refine onward_bind (onward_readString _) fun previewArchivePath => ?_
  refine onward_bind (onward_readString _) fun previewAssetKey => ?_
  refine onward_bind onward_readBool fun hasPreview => ?_
  refine onward_bind (onward_readString _) fun systemId => ?_
  refine onward_bind (onward_readOption onward_u16) fun year => ?_
  refine onward_bind (onward_readString _) fun manufacturer => ?_
  refine onward_bind (onward_readString _) fun category => ?_
  refine onward_bind (onward_readOption onward_u8) fun players => ?_
  refine onward_bind (onward_readString _) fun control => ?_
  exact onward_bind onward_readBool fun isNew => onward_pure _

theorem onward_decodePlan : Onward decodePlan := by
  unfold decodePlan
  refine onward_bind (onward_readString _) fun launchRef => ?_
  refine onward_bind (onward_readString _) fun title => ?_
  refine onward_bind (onward_readString _) fun systemId => ?_
  refine onward_bind (onward_readString _) fun corePath => ?_
  refine onward_bind (onward_readString _) fun payloadPath => ?_
  refine onward_bind (onward_readString _) fun mountKind => ?_
  refine onward_bind onward_u8 fun mountIndex => ?_
  exact onward_bind onward_u8 fun delaySecs => onward_pure _

theorem onward_decodeCapsule : Onward decodeCapsule := by
  unfold decodeCapsule decodeRows decodeSystems decodeGames decodeLaunchPlans
  refine onward_bind ?_ fun rows => onward_bind (onward_bind onward_takeCount fun _ =>
    onward_takeMany onward_decodePlan _) fun launchPlans => onward_pure _
  refine onward_bind (onward_bind (onward_take _ _) fun _ => onward_lift _) fun _ => ?_
  refine onward_bind onward_u32 fun schema => onward_bind (onward_lift _) fun _ => ?_
  refine onward_bind onward_decodeBinding fun binding => ?_
  refine onward_bind (onward_readString _) fun collectionId => ?_
  refine onward_bind (onward_readString _) fun returnGamePath => ?_
  refine onward_bind (onward_bind onward_takeCount fun _ => onward_takeMany
    onward_decodeSystem _) fun systems => ?_
  exact onward_bind (onward_bind onward_takeCount fun _ => onward_bind (onward_lift _) fun _ =>
    onward_takeMany onward_decodeGame _) fun games => onward_pure _

/-! ## 4. The plans -/

def structuredPlan : Option LaunchTarget → Option StructuredLaunchPlan
  | some (.structured plan) => some plan
  | _ => none

/-- The structured plans of the targets, in order. -/
def plansOf (targets : List (Option LaunchTarget)) : List StructuredLaunchPlan :=
  targets.filterMap structuredPlan

/-- The first plan of a reference. -/
def firstPlan (targets : List (Option LaunchTarget)) (launchRef : String) :
    Option StructuredLaunchPlan :=
  (plansOf targets).find? fun plan => plan.launchRef = launchRef

/-- The first plan of each reference, where plans of `refs` came before. -/
def firstsFrom (refs : List String) : List StructuredLaunchPlan → List StructuredLaunchPlan
  | [] => []
  | plan :: plans =>
      if plan.launchRef ∈ refs then firstsFrom refs plans
      else plan :: firstsFrom (refs ++ [plan.launchRef]) plans

/-- What the loop over the targets has written. -/
structure WrittenPlans (refs : List String) (plans : List StructuredLaunchPlan)
    (refs' : List String) (spelled : List UInt8) : Prop where
  names : refs' = refs ++ (firstsFrom refs plans).map StructuredLaunchPlan.launchRef
  reads : OnSpelled (takeMany decodePlan (firstsFrom refs plans).length) spelled
    (· = firstsFrom refs plans)
  least : (firstsFrom refs plans).length * MIN_ENCODED_PLAN_BYTES ≤ spelled.length
  bounded : refs'.length ≤ max refs.length RETURN_CATALOG_CAPSULE_MAX_PLANS

section Plans

variable {refs refs' : List String} {plans : List StructuredLaunchPlan}
  {plan : StructuredLaunchPlan} {targets : List (Option LaunchTarget)} {launchRef : String}
  {bytes bytes' spelled more : List UInt8}

theorem writtenPlans_nil (refs : List String) : WrittenPlans refs [] refs [] where
  names := (List.append_nil refs).symm
  reads := onSpelled_pure []
  least := by
    show 0 * MIN_ENCODED_PLAN_BYTES ≤ 0
    rw [Nat.zero_mul]
  bounded := Nat.le_max_left _ _

theorem firstsFrom_seen (h : plan.launchRef ∈ refs) :
    firstsFrom refs (plan :: plans) = firstsFrom refs plans := if_pos h

theorem firstsFrom_new (h : plan.launchRef ∉ refs) : firstsFrom refs (plan :: plans) =
    plan :: firstsFrom (refs ++ [plan.launchRef]) plans := if_neg h

theorem WrittenPlans.seen (h : WrittenPlans refs plans refs' spelled)
    (hin : plan.launchRef ∈ refs) : WrittenPlans refs (plan :: plans) refs' spelled := by
  have hsame : firstsFrom refs (plan :: plans) = firstsFrom refs plans := firstsFrom_seen hin
  exact ⟨hsame ▸ h.names, hsame ▸ h.reads, hsame ▸ h.least, h.bounded⟩

theorem WrittenPlans.new (h : WrittenPlans (refs ++ [plan.launchRef]) plans refs' more)
    (hnew : plan.launchRef ∉ refs) (hroom : refs.length + 1 ≤ RETURN_CATALOG_CAPSULE_MAX_PLANS)
    (hread : OnSpelled decodePlan spelled (· = plan))
    (hleast : MIN_ENCODED_PLAN_BYTES ≤ spelled.length) :
    WrittenPlans refs (plan :: plans) refs' (spelled ++ more) where
  names := by
    rw [firstsFrom_new hnew, h.names, List.map_cons, List.append_assoc]
    rfl
  reads := by
    have hrest : OnSpelled (takeMany decodePlan
        (firstsFrom (refs ++ [plan.launchRef]) plans).length >>= fun later =>
          pure (plan :: later)) (more ++ [])
        (· = plan :: firstsFrom (refs ++ [plan.launchRef]) plans) :=
      onSpelled_then h.reads (onSpelled_pure _)
    rw [List.append_nil] at hrest
    rw [firstsFrom_new hnew]
    exact onSpelled_then hread hrest
  least := by
    rw [firstsFrom_new hnew, List.length_cons, List.length_append, Nat.succ_mul]
    have hmore := h.least
    omega
  bounded := by
    have hbound := h.bounded
    rw [List.length_append, List.length_singleton] at hbound
    omega

theorem encodeTarget_structured : encodeTarget refs (some (.structured plan)) =
    if plan.launchRef ∈ refs then pure refs
    else (do
      liftM (check (refs.length + 1 ≤ RETURN_CATALOG_CAPSULE_MAX_PLANS)
        "return capsule has too many structured launch plans")
      encodePlan plan
      pure (refs ++ [plan.launchRef])) := rfl

/-- A plan of a new reference is written. -/
theorem encodeTarget_new {mid : List String} (hnew : plan.launchRef ∉ refs)
    (h : encodeTarget refs (some (.structured plan)) bytes = .ok (mid, bytes')) :
    ∃ spelled, mid = refs ++ [plan.launchRef] ∧ bytes' = bytes ++ spelled ∧
      refs.length + 1 ≤ RETURN_CATALOG_CAPSULE_MAX_PLANS ∧
      OnSpelled decodePlan spelled (· = plan) ∧ MIN_ENCODED_PLAN_BYTES ≤ spelled.length := by
  rw [encodeTarget_structured, if_neg hnew] at h
  obtain ⟨_, start, hlift, hencode⟩ := takes_bind_ok.1 h
  obtain ⟨rfl, hroom⟩ := takes_lift_ok.1 hlift
  obtain ⟨_, mid', hplan, hpure⟩ := takes_bind_ok.1 hencode
  obtain ⟨rfl, rfl⟩ := takes_pure_ok.1 hpure
  obtain ⟨spelled, Known, hleast, hput, hx⟩ := codes_plan plan
  obtain ⟨rfl, hknown⟩ := hput.ok _ _ _ hplan
  exact ⟨spelled, rfl, rfl, of_decide_eq_true (check_ok.1 hroom), hx hknown, hleast⟩

theorem encodeTargets_written (h : encodeTargets refs targets bytes = .ok (refs', bytes')) :
    ∃ spelled, bytes' = bytes ++ spelled ∧ WrittenPlans refs (plansOf targets) refs' spelled := by
  induction targets generalizing refs bytes with
  | nil =>
      obtain ⟨rfl, rfl⟩ := takes_pure_ok.1 h
      exact ⟨[], (List.append_nil _).symm, writtenPlans_nil _⟩
  | cons target targets ih =>
      obtain ⟨mid, midBytes, htarget, hmore⟩ := takes_bind_ok.1 h
      obtain ⟨more, rfl, hwritten⟩ := ih hmore
      cases target with
      | none =>
          obtain ⟨-, hfail⟩ := takes_lift_ok.1 htarget
          cases hfail
      | some target =>
          cases target with
          | path launchRef =>
              obtain ⟨rfl, rfl⟩ := takes_pure_ok.1 htarget
              exact ⟨more, rfl, hwritten⟩
          | prepared selection =>
              obtain ⟨rfl, rfl⟩ := takes_pure_ok.1 htarget
              exact ⟨more, rfl, hwritten⟩
          | missingStructured launchRef =>
              obtain ⟨rfl, rfl⟩ := takes_pure_ok.1 htarget
              exact ⟨more, rfl, hwritten⟩
          | structured plan =>
              by_cases hin : plan.launchRef ∈ refs
              · rw [encodeTarget_structured, if_pos hin] at htarget
                obtain ⟨rfl, rfl⟩ := takes_pure_ok.1 htarget
                exact ⟨more, rfl, hwritten.seen hin⟩
              · obtain ⟨spelled, rfl, rfl, hroom, hread, hleast⟩ := encodeTarget_new hin htarget
                exact ⟨spelled ++ more, List.append_assoc _ _ _,
                  hwritten.new hin hroom hread hleast⟩

/-- Every target was there. -/
theorem encodeTargets_found (h : encodeTargets refs targets bytes = .ok (refs', bytes')) :
    ∀ target ∈ targets, target.isSome := by
  induction targets generalizing refs bytes with
  | nil => exact fun _ h => absurd h List.not_mem_nil
  | cons target targets ih =>
      obtain ⟨mid, midBytes, htarget, hmore⟩ := takes_bind_ok.1 h
      refine List.forall_mem_cons.2 ⟨?_, ih hmore⟩
      cases target with
      | none =>
          obtain ⟨-, hfail⟩ := takes_lift_ok.1 htarget
          cases hfail
      | some target => rfl

theorem mem_firstsFrom : plan ∈ firstsFrom refs plans ↔ plan.launchRef ∉ refs ∧
    plans.find? (fun other => other.launchRef = plan.launchRef) = some plan := by
  induction plans generalizing refs with
  | nil => simp [firstsFrom]
  | cons first plans ih =>
      rw [List.find?_cons]
      by_cases hin : first.launchRef ∈ refs
      · rw [firstsFrom_seen hin, ih]
        by_cases hsame : first.launchRef = plan.launchRef
        · exact ⟨fun h => absurd (hsame ▸ hin) h.1, fun h => absurd (hsame ▸ hin) h.1⟩
        · rw [decide_eq_false hsame]
      · rw [firstsFrom_new hin, List.mem_cons, ih, List.mem_append, List.mem_singleton]
        by_cases hsame : first.launchRef = plan.launchRef
        · rw [decide_eq_true hsame]
          constructor
          · intro h
            rcases h with rfl | h
            · exact ⟨hin, rfl⟩
            · exact absurd (.inr hsame.symm) h.1
          · intro h
            exact .inl (Option.some.inj h.2).symm
        · rw [decide_eq_false hsame]
          constructor
          · intro h
            rcases h with rfl | h
            · exact absurd rfl hsame
            · exact ⟨fun hmem => h.1 (.inl hmem), h.2⟩
          · intro h
            exact .inr ⟨fun hor => hor.elim h.1 (Ne.symm hsame), h.2⟩

theorem launchRef_of_firstPlan (h : firstPlan targets launchRef = some plan) :
    plan.launchRef = launchRef := by
  unfold firstPlan at h
  have hfound := List.find?_some h
  exact of_decide_eq_true hfound

/-- The plans that are written, looked up by their references. -/
theorem lookup_firsts : (Table.insertAll ∅ ((firstsFrom [] (plansOf targets)).map fun plan =>
    (plan.launchRef, plan))).lookup launchRef = firstPlan targets launchRef := by
  have hmem : ∀ plan, (launchRef, plan) ∈ (firstsFrom [] (plansOf targets)).map (fun plan =>
      (plan.launchRef, plan)) ↔ firstPlan targets launchRef = some plan := by
    intro plan
    rw [List.mem_map]
    constructor
    · intro h
      obtain ⟨plan', hplan', heq⟩ := h
      cases heq
      exact (mem_firstsFrom.1 hplan').2
    · intro h
      obtain rfl := launchRef_of_firstPlan h
      exact ⟨plan, mem_firstsFrom.2 ⟨List.not_mem_nil, h⟩, rfl⟩
  refine Option.ext fun plan => ?_
  rw [Table.lookup_insertAll_iff, hmem]
  intro v v' hv hv'
  exact Option.some.inj (((hmem v).1 hv).symm.trans ((hmem v').1 hv'))

end Plans

/-! ## 5. What is prepared -/

section Prepared

variable {lookups : Lookups} {catalog : ArcadeCatalog lookups}
  {collectionId returnGamePath : String} {binding : CapsuleBinding} {bytes : List UInt8}

/-- What is read of the bytes that were prepared. -/
def captured (catalog : ArcadeCatalog lookups) (collectionId returnGamePath : String)
    (binding : CapsuleBinding) : ReturnCatalogCapsule :=
  let view := catalog.systemGameView collectionId
  ⟨binding, collectionId, returnGamePath, capsuleSystems catalog, view.iter,
    firstsFrom [] (plansOf (targetsOf catalog view))⟩

/-- What a successful preparation has checked, and how its bytes are read. -/
structure PreparedCapsule (catalog : ArcadeCatalog lookups) (collectionId returnGamePath : String)
    (binding : CapsuleBinding) (bytes : List UInt8) : Prop where
  complete : (catalog.systemGameView collectionId).iter.length =
    (catalog.systemGameView collectionId).len
  returns : ∃ game ∈ (catalog.systemGameView collectionId).iter, game.mraPath = returnGamePath
  resolved : ∀ target ∈ targetsOf catalog (catalog.systemGameView collectionId), target.isSome
  bound : validateBinding binding = .ok ()
  reads : decodeCapsule bytes = .ok (captured catalog collectionId returnGamePath binding, [])

theorem validateBinding_counts (h : validateBinding binding = .ok ()) :
    binding.libraryRoots.length ≤ RETURN_CATALOG_CAPSULE_MAX_ROOTS ∧
      binding.pathMap.length ≤ RETURN_CATALOG_CAPSULE_MAX_PATH_MAPS := by
  obtain ⟨_, hroots, h⟩ := reads_bind_ok.1 h
  obtain ⟨_, hrules, -⟩ := reads_bind_ok.1 h
  exact ⟨of_decide_eq_true (check_ok.1 hroots), of_decide_eq_true (check_ok.1 hrules)⟩

/-- The rows, the number of plans in its place, and the plans. -/
theorem onSpelled_capsule {capsule : ReturnCatalogCapsule} {front back : List UInt8}
    {plans : List StructuredLaunchPlan} (hrows : OnSpelled decodeRows front (· = capsule))
    (hplans : OnSpelled decodeLaunchPlans back (· = plans)) :
    OnSpelled decodeCapsule (front ++ back) (· = { capsule with launchPlans := plans }) := by
  have hlast : OnSpelled (decodeLaunchPlans >>= fun plans =>
      pure { capsule with launchPlans := plans }) (back ++ [])
      (· = { capsule with launchPlans := plans }) := onSpelled_then hplans (onSpelled_pure _)
  rw [List.append_nil] at hlast
  exact onSpelled_then hrows hlast

/-- The number of plans, filled in. -/
theorem overwrite_between {front old part back : List UInt8} (h : part.length = old.length) :
    overwrite (front ++ (old ++ back)) front.length part = front ++ (part ++ back) := by
  unfold overwrite
  rw [List.take_left, h, ← List.append_assoc front old back, ← List.length_append, List.drop_left,
    List.append_assoc]

/-- The plans behind their number are read. -/
theorem WrittenPlans.onSpelled {refs : List String} {plans : List StructuredLaunchPlan}
    {spelled : List UInt8} (h : WrittenPlans [] plans refs spelled) :
    OnSpelled decodeLaunchPlans (leBytes 4 refs.length ++ spelled) (· = firstsFrom [] plans) := by
  have hcount : refs.length = (firstsFrom [] plans).length := by
    rw [h.names, List.nil_append, List.length_map]
  have hmax : (firstsFrom [] plans).length ≤ RETURN_CATALOG_CAPSULE_MAX_PLANS := by
    rw [← hcount]
    exact h.bounded.trans (Nat.max_le.2 ⟨Nat.zero_le _, Nat.le_refl _⟩)
  rw [hcount]
  exact onSpelled_listOf h.reads hmax (Nat.lt_of_le_of_lt hmax (by decide)) h.least

theorem prepared_of_ok
    (h : prepareReturnCatalogCapsuleInner catalog collectionId returnGamePath binding =
      .ok bytes) : PreparedCapsule catalog collectionId returnGamePath binding bytes := by
  unfold prepareReturnCatalogCapsuleInner at h
  obtain ⟨_, -, h⟩ := reads_bind_ok.1 h
  obtain ⟨_, -, h⟩ := reads_bind_ok.1 h
  obtain ⟨_, hne, h⟩ := reads_bind_ok.1 h
  obtain ⟨_, hrows, h⟩ := reads_bind_ok.1 h
  obtain ⟨_, hsystems, h⟩ := reads_bind_ok.1 h
  obtain ⟨_, hbound, h⟩ := reads_bind_ok.1 h
  obtain ⟨⟨_, front⟩, hfront, h⟩ := reads_bind_ok.1 h
  obtain ⟨_, hcomplete, h⟩ := reads_bind_ok.1 h
  obtain ⟨_, hreturns, h⟩ := reads_bind_ok.1 h
  obtain ⟨⟨_, opened⟩, hopened, h⟩ := reads_bind_ok.1 h
  obtain ⟨⟨refs, written⟩, hwritten, h⟩ := reads_bind_ok.1 h
  obtain ⟨hroots, hrules⟩ := validateBinding_counts hbound
  have hcomplete := of_decide_eq_true (check_ok.1 hcomplete)
  have hcodes : Codes (encodeRows catalog _ collectionId returnGamePath binding) decodeRows _ 0 :=
    codes_rows hcomplete (of_decide_eq_true (check_ok.1 hne))
      (of_decide_eq_true (check_ok.1 hrows)) (of_decide_eq_true (check_ok.1 hsystems)) hroots hrules
  obtain ⟨rows, Known, -, hput, hx⟩ := hcodes
  obtain ⟨hfront, hknown⟩ := hput.ok _ _ _ hfront
  obtain ⟨hopened, -⟩ := (appends_writeBytes _).ok _ _ _ hopened
  obtain ⟨more, hmore, hplans⟩ := encodeTargets_written hwritten
  rw [List.nil_append] at hfront
  subst hfront hopened hmore
  cases h
  refine ⟨hcomplete, ?_, encodeTargets_found hwritten, hbound, ?_⟩
  · obtain ⟨game, hgame, hpath⟩ := List.any_eq_true.1 (check_ok.1 hreturns)
    exact ⟨game, hgame, of_decide_eq_true hpath⟩
  · rw [List.append_assoc, overwrite_between (by simp)]
    have hcapsule := onSpelled_capsule (hx hknown) hplans.onSpelled
    have hread := (hcapsule.ok [] _ []).2 ⟨rfl, rfl⟩
    rwa [List.append_nil] at hread

theorem decode_prepared (h : PreparedCapsule catalog collectionId returnGamePath binding bytes)
    (expected : CapsuleBinding) (id path : String) :
    decodeReturnCatalogCapsule lookups bytes expected id path =
      (captured catalog collectionId returnGamePath binding).intoCatalog lookups expected id
        path := by
  unfold decodeReturnCatalogCapsule
  rw [h.reads]
  rfl

/-- What makes a catalog of a capsule. -/
theorem intoCatalog_ok {capsule : ReturnCatalogCapsule} {expected : CapsuleBinding}
    {id path : String} {restored : ArcadeCatalog lookups} :
    capsule.intoCatalog lookups expected id path = .ok restored ↔
      (capsule.binding = expected ∧ (capsule.collectionId = id ∧ capsule.returnGamePath = path) ∧
        validateBinding capsule.binding = .ok () ∧ (∃ game ∈ capsule.games, game.mraPath = path) ∧
        ((capsule.catalog lookups).systemGameView id).len ≠ 0) ∧
      restored = capsule.catalog lookups := by
  unfold ReturnCatalogCapsule.intoCatalog
  constructor
  · intro h
    obtain ⟨_, hbinding, h⟩ := reads_bind_ok.1 h
    obtain ⟨_, hselection, h⟩ := reads_bind_ok.1 h
    obtain ⟨_, hvalid, h⟩ := reads_bind_ok.1 h
    obtain ⟨_, hgame, h⟩ := reads_bind_ok.1 h
    obtain ⟨_, hview, h⟩ := reads_bind_ok.1 h
    cases h
    refine ⟨⟨of_decide_eq_true (check_ok.1 hbinding), of_decide_eq_true (check_ok.1 hselection),
      hvalid, ?_, of_decide_eq_true (check_ok.1 hview)⟩, rfl⟩
    obtain ⟨game, hmem, hpath⟩ := List.any_eq_true.1 (check_ok.1 hgame)
    exact ⟨game, hmem, of_decide_eq_true hpath⟩
  · intro h
    obtain ⟨⟨hbinding, hselection, hvalid, ⟨game, hmem, hpath⟩, hview⟩, rfl⟩ := h
    have hgame : (capsule.games.any fun game => game.mraPath = path) = true :=
      List.any_eq_true.2 ⟨game, hmem, decide_eq_true hpath⟩
    refine reads_bind_ok.2 ⟨(), check_ok.2 (decide_eq_true hbinding), ?_⟩
    refine reads_bind_ok.2 ⟨(), check_ok.2 (decide_eq_true hselection), ?_⟩
    refine reads_bind_ok.2 ⟨(), hvalid, ?_⟩
    refine reads_bind_ok.2 ⟨(), check_ok.2 hgame, ?_⟩
    exact reads_bind_ok.2 ⟨(), check_ok.2 (decide_eq_true hview), rfl⟩

theorem decode_ok (h : PreparedCapsule catalog collectionId returnGamePath binding bytes)
    {expected : CapsuleBinding} {id path : String} {restored : ArcadeCatalog lookups} :
    decodeReturnCatalogCapsule lookups bytes expected id path = .ok restored ↔
      (binding = expected ∧ collectionId = id ∧ returnGamePath = path ∧
        ∃ game ∈ (catalog.systemGameView collectionId).iter,
          collectionId ∈ gameCollectionIds lookups game) ∧
      restored = (captured catalog collectionId returnGamePath binding).catalog lookups := by
  have hview : ((captured catalog collectionId returnGamePath binding).catalog
      lookups |>.systemGameView collectionId).len ≠ 0 ↔
      ∃ game ∈ (catalog.systemGameView collectionId).iter,
        collectionId ∈ gameCollectionIds lookups game := by
    rw [(ArcadeCatalog.iter_systemGameView _ (AList.lookup_empty _)).1, ← Nat.pos_iff_ne_zero,
      List.length_pos_iff_exists_mem]
    refine exists_congr fun game => ?_
    rw [ArcadeCatalog.mem_rowsOf]
    rfl
  rw [decode_prepared h, intoCatalog_ok]
  constructor
  · intro hok
    obtain ⟨⟨hbinding, ⟨rfl, rfl⟩, -, -, hlen⟩, hrestored⟩ := hok
    exact ⟨⟨hbinding, rfl, rfl, hview.1 hlen⟩, hrestored⟩
  · intro hok
    obtain ⟨⟨hbinding, rfl, rfl, hgame⟩, hrestored⟩ := hok
    exact ⟨⟨hbinding, ⟨rfl, rfl⟩, h.bound, h.returns, hview.2 hgame⟩, hrestored⟩

/-- A decoding that ends in a catalog has read all bytes. -/
theorem decodeCapsule_of_ok {bytes : List UInt8} {expected : CapsuleBinding} {id path : String}
    {restored : ArcadeCatalog lookups}
    (h : decodeReturnCatalogCapsule lookups bytes expected id path = .ok restored) :
    ∃ capsule, decodeCapsule bytes = .ok (capsule, []) := by
  obtain ⟨⟨capsule, rest⟩, hparsed, h⟩ := reads_bind_ok.1 h
  obtain ⟨_, hleft, -⟩ := reads_bind_ok.1 h
  obtain rfl := List.length_eq_zero_iff.1 (of_decide_eq_true (check_ok.1 hleft))
  exact ⟨capsule, hparsed⟩

end Prepared

/-! ## 6. What is restored -/

section Restored

variable {lookups : Lookups} {catalog : ArcadeCatalog lookups} {view : ArcadeGameView}

/-- A structured target carries the reference of its row, and rows of one reference launch
    alike. -/
structure RefDetermined (catalog : ArcadeCatalog lookups) (view : ArcadeGameView) : Prop where
  own : ∀ i game plan, view.get i = some game →
    catalog.launchTargetInView view i = some (.structured plan) → plan.launchRef = game.mraPath
  alike : ∀ i j game game', view.get i = some game → view.get j = some game' →
    game.mraPath = game'.mraPath →
    catalog.launchTargetInView view i = catalog.launchTargetInView view j

theorem mem_plansOf {plan : StructuredLaunchPlan} : plan ∈ plansOf (targetsOf catalog view) ↔
    ∃ i, catalog.launchTargetInView view i = some (.structured plan) := by
  unfold plansOf targetsOf
  rw [List.mem_filterMap]
  constructor
  · intro h
    obtain ⟨target, htarget, hplan⟩ := h
    obtain ⟨i, -, rfl⟩ := List.mem_map.1 htarget
    refine ⟨i, ?_⟩
    cases hi : catalog.launchTargetInView view i with
    | none =>
        rw [hi] at hplan
        cases hplan
    | some target =>
        rw [hi] at hplan
        cases target with
        | structured plan' =>
            cases hplan
            rfl
        | path launchRef => cases hplan
        | prepared selection => cases hplan
        | missingStructured launchRef => cases hplan
  · intro h
    obtain ⟨i, hi⟩ := h
    refine ⟨_, List.mem_map.2 ⟨i, List.mem_range.2 (Nat.lt_of_not_le fun hlen => ?_), hi⟩, rfl⟩
    have hnone : catalog.launchTargetInView view i = none := by
      unfold ArcadeCatalog.launchTargetInView
      rw [ArcadeGameView.get_eq_none hlen]
      rfl
    rw [hnone] at hi
    cases hi

theorem launchTargetInView_of_get {i : Nat} {game : ArcadeGameEntry}
    (h : view.get i = some game) : catalog.launchTargetInView view i =
      some (launchTargetWithPlan game.mraPath (catalog.planInView view i game)) := by
  unfold ArcadeCatalog.launchTargetInView
  rw [h]
  rfl

theorem launchTargetWithPlan_structured {launchRef : String} {plan : StructuredLaunchPlan}
    {found : Option StructuredLaunchPlan}
    (h : launchTargetWithPlan launchRef found = .structured plan) : found = some plan := by
  unfold launchTargetWithPlan at h
  split at h
  · cases h
  · cases found with
    | some plan' =>
        cases h
        rfl
    | none =>
        dsimp only at h
        split at h
        · cases h
        · cases h

/-- **The rows launch as they did exactly where the references determine the plans.** -/
theorem same_targets_iff : (∀ i game, view.get i = some game →
    some (launchTargetWithPlan game.mraPath (firstPlan (targetsOf catalog view) game.mraPath)) =
      catalog.launchTargetInView view i) ↔ RefDetermined catalog view := by
  constructor
  · intro h
    refine ⟨fun i game plan hget htarget => ?_, fun i j game game' hget hget' href => ?_⟩
    · have hsame := (h i game hget).trans htarget
      exact launchRef_of_firstPlan (launchTargetWithPlan_structured (Option.some.inj hsame))
    · rw [← h i game hget, ← h j game' hget', href]
  · intro h i game hget
    rw [launchTargetInView_of_get hget, Option.some.injEq]
    -- A plan of the reference belongs to a row of the reference, and that row launches alike.
    have hfirst : ∀ plan, firstPlan (targetsOf catalog view) game.mraPath = some plan →
        launchTargetWithPlan game.mraPath (catalog.planInView view i game) = .structured plan := by
      intro plan hplan
      obtain ⟨j, hj⟩ := mem_plansOf.1 (List.mem_of_find?_eq_some hplan)
      obtain ⟨game', hget'⟩ : ∃ game', view.get j = some game' := by
        cases hget' : view.get j with
        | none =>
            unfold ArcadeCatalog.launchTargetInView at hj
            rw [hget'] at hj
            cases hj
        | some game' => exact ⟨game', rfl⟩
      have href : game.mraPath = game'.mraPath :=
        (launchRef_of_firstPlan hplan).symm.trans (h.own j game' plan hget' hj)
      have hsame := h.alike i j game game' hget hget' href
      rw [launchTargetInView_of_get hget, hj] at hsame
      exact Option.some.inj hsame
    cases hplan : firstPlan (targetsOf catalog view) game.mraPath with
    | some plan =>
        have hstructured := hfirst plan hplan
        rw [launchTargetWithPlan_structured hstructured]
    | none =>
        cases hown : catalog.planInView view i game with
        | none => rfl
        | some plan =>
            unfold launchTargetWithPlan
            split
            · rfl
            · rename_i hplain
              have hstructured : catalog.launchTargetInView view i = some (.structured plan) := by
                rw [launchTargetInView_of_get hget, hown, launchTargetWithPlan, if_neg hplain]
              refine absurd (decide_eq_true (h.own i game plan hget hstructured)) ?_
              exact List.find?_eq_none.1 hplan plan (mem_plansOf.2 ⟨i, hstructured⟩)

theorem lookup_fillMissing {systems : List GameSystemEntry} {kinds : Table String PlatformKind}
    {id : String} {kind : PlatformKind} (h : kinds.lookup id = some kind) :
    (fillMissingPlatformKinds lookups systems kinds).lookup id = some kind := by
  unfold fillMissingPlatformKinds
  induction systems generalizing kinds with
  | nil => exact h
  | cons system systems ih =>
      refine ih ?_
      by_cases hid : id = system.id
      · subst hid
        rw [Table.lookup_upsert, h]
        rfl
      · rw [Table.lookup_upsert_ne hid, h]

/-- What a capsule gives back of the catalog it was prepared from. -/
structure Restores (catalog : ArcadeCatalog lookups) (collectionId : String)
    (restored : ArcadeCatalog lookups) : Prop where
  systems : restored.systems = catalog.systems
  kinds : ∀ system ∈ catalog.systems,
    restored.platformKind system.id = catalog.platformKind system.id
  games : restored.games = (catalog.systemGameView collectionId).iter
  shown : (∀ game ∈ restored.games, (gameCollectionIds lookups game).count collectionId = 1) →
    (restored.systemGameView collectionId).iter = restored.games
  targets : ∀ launchRef, restored.launchTargetForRef launchRef = launchTargetWithPlan launchRef
    (firstPlan (targetsOf catalog (catalog.systemGameView collectionId)) launchRef)
  launches : ∀ view ordinal game, view.behind ordinal = none → view.get ordinal = some game →
    restored.launchTargetInView view ordinal = some (restored.launchTargetForRef game.mraPath)

theorem restores_captured (catalog : ArcadeCatalog lookups) (collectionId returnGamePath : String)
    (binding : CapsuleBinding) : Restores catalog collectionId
      ((captured catalog collectionId returnGamePath binding).catalog lookups) where
  systems := by
    show sortSystemsByTitle ((capsuleSystems catalog).map fun system =>
      ⟨system.id, system.title, system.count⟩) = catalog.systems
    rw [capsuleSystems, List.map_map]
    have hid : (fun system : CapsuleSystem => (⟨system.id, system.title, system.count⟩ :
        GameSystemEntry)) ∘ (fun system => ⟨system.id, system.title, system.count,
          catalog.platformKind system.id⟩) = id := rfl
    rw [hid, List.map_id]
    exact sort_of_byTitle catalog.inOrder
  kinds system hsystem := by
    have hkinds : (Table.insertAll ∅ ((capsuleSystems catalog).map fun system =>
        (system.id, system.platformKind))).lookup system.id =
        some (catalog.platformKind system.id) := by
      have hrows : ((capsuleSystems catalog).map fun system => (system.id, system.platformKind)) =
          (catalog.systems.map GameSystemEntry.id).map fun id => (id, catalog.platformKind id) := by
        rw [capsuleSystems, List.map_map, List.map_map]
        rfl
      rw [hrows, Table.lookup_insertAll_keys, if_pos (List.mem_map_of_mem hsystem)]
    have hfilled : ((captured catalog collectionId returnGamePath binding).catalog
        lookups).platformKinds.lookup system.id = some (catalog.platformKind system.id) :=
      lookup_fillMissing hkinds
    rw [ArcadeCatalog.platformKind, hfilled]
    rfl
  games := rfl
  shown h := by
    rw [(ArcadeCatalog.iter_systemGameView _ (AList.lookup_empty _)).2]
    exact ArcadeCatalog.rowsOf_all h
  targets launchRef := by
    unfold ArcadeCatalog.launchTargetForRef
    congr 1
    exact lookup_firsts
  launches view ordinal game hbehind hget := by
    rw [launchTargetInView_of_get hget, ArcadeCatalog.planInView, hbehind]
    rfl

/-- **The round trip of a return capsule.** The bytes that were prepared decode, with the binding
    and the selection they were prepared for, exactly if a row belongs to the collection by its
    system; what is restored then has the systems and the rows, and the rows launch as they did
    exactly where the references determine the plans. No part in front of the bytes is decoded,
    nor more than them, nor the bytes with another binding or selection. -/
theorem return_capsule_round_trip {collectionId returnGamePath : String}
    {binding : CapsuleBinding} {bytes : List UInt8}
    (h : prepareReturnCatalogCapsuleInner catalog collectionId returnGamePath binding =
      .ok bytes) :
    ((∃ restored, decodeReturnCatalogCapsule lookups bytes binding collectionId returnGamePath =
        .ok restored) ↔
      ∃ game ∈ (catalog.systemGameView collectionId).iter,
        collectionId ∈ gameCollectionIds lookups game) ∧
    (∀ restored, decodeReturnCatalogCapsule lookups bytes binding collectionId returnGamePath =
        .ok restored →
      Restores catalog collectionId restored ∧
        ((∀ i game, (catalog.systemGameView collectionId).get i = some game →
          some (restored.launchTargetForRef game.mraPath) =
            catalog.launchTargetInView (catalog.systemGameView collectionId) i) ↔
          RefDetermined catalog (catalog.systemGameView collectionId))) ∧
    (∀ front back expected id path restored, bytes = front ++ back → back ≠ [] →
      decodeReturnCatalogCapsule lookups front expected id path ≠ .ok restored) ∧
    (∀ more expected id path restored, more ≠ [] →
      decodeReturnCatalogCapsule lookups (bytes ++ more) expected id path ≠ .ok restored) ∧
    (∀ expected id path restored,
      expected ≠ binding ∨ id ≠ collectionId ∨ path ≠ returnGamePath →
      decodeReturnCatalogCapsule lookups bytes expected id path ≠ .ok restored) := by
  have hprepared := prepared_of_ok h
  refine ⟨?_, ?_, ?_, ?_, ?_⟩
  · constructor
    · intro hok
      obtain ⟨restored, hrestored⟩ := hok
      exact ((decode_ok hprepared).1 hrestored).1.2.2.2
    · intro hgame
      exact ⟨_, (decode_ok hprepared).2 ⟨⟨rfl, rfl, rfl, hgame⟩, rfl⟩⟩
  · intro restored hok
    obtain ⟨-, rfl⟩ := (decode_ok hprepared).1 hok
    have hrestores := restores_captured catalog collectionId returnGamePath binding
    refine ⟨hrestores, ?_⟩
    rw [← same_targets_iff]
    simp only [hrestores.targets]
  · intro front back expected id path restored hbytes hback hok
    obtain ⟨capsule, hcapsule⟩ := decodeCapsule_of_ok hok
    exact onward_decodeCapsule.front_fails (hbytes ▸ hprepared.reads) hback capsule hcapsule
  · intro more expected id path restored hmore hok
    obtain ⟨capsule, hcapsule⟩ := decodeCapsule_of_ok hok
    exact onward_decodeCapsule.more_fails hprepared.reads hmore capsule hcapsule
  · intro expected id path restored hother hok
    obtain ⟨⟨rfl, rfl, rfl, -⟩, -⟩ := (decode_ok hprepared).1 hok
    rcases hother with hne | hne | hne
    · exact hne rfl
    · exact hne rfl
    · exact hne rfl

end Restored

/-! ## 7. A shelf, and two rows of one reference -/

/-- Arcade is the one system of the section Arcade. -/
def plainLookups : Lookups where
  belongsToArcade id := id = "arcade"
  inferredForSystemId _ := .unknown
  search plans launchRef := plans.find? fun plan => plan.launchRef = launchRef

def devBinding : CapsuleBinding where
  namespace_ := "mister-magik-dev"
  appDir := "/a"
  catalogRoot := "/c"
  libraryRoots := ["/g"]
  pathMap := []
  catalogStampFingerprint := "0f"
  catalogSchema := 67
  catalogBuild := 18
  binaryVersion := "1"
  binaryBuild := "b"

/-- A game with the reference `p`. -/
def twinGame (stableKey payloadPath : String) : SystemGame where
  stableKey := stableKey
  title := "T"
  launchRef := "p"
  previewArchivePath := ""
  previewAssetKey := ""
  hasPreview := false
  year := none
  manufacturer := ""
  category := ""
  players := none
  control := ""
  isNew := false
  launchPlan := some ⟨"p", "T", "c64", "C64", payloadPath, "mount", 0, 1⟩

/-- Two games of one reference, each with a plan of its own. -/
def twinPack : Reads MappedNavPack := do
  let bytes ← encode "c64" 7 [twinGame "c64:a" "/a.d64", twinGame "c64:b" "/b.d64"]
    ⟨[0, 1], [], [0, 1], [], [], [], [], []⟩
  MappedNavPack.openPack bytes bytes.length "c64" 7 2

def twinCatalog (pack : MappedNavPack) : ArcadeCatalog plainLookups :=
  (ArcadeCatalog.newWithPlatformKinds plainLookups "/c" [] [] [] ∅).withSystemCollectionForId
    "c64" ⟨1, ⟨"c64", .navPack ⟨pack, "c64", 2, [0, 1]⟩, []⟩⟩

/-- A game of the system `c64`, in a collection under the given id. -/
def aliasCatalog (collectionId : String) : ArcadeCatalog plainLookups :=
  (ArcadeCatalog.newWithPlatformKinds plainLookups "/c" [] [] [] ∅).withSystemCollectionForId
    collectionId ⟨1, ⟨"c64", .owned [⟨"T", "p", "", "", false, "c64", none, "", "", none, "",
      false⟩], []⟩⟩

theorem exists_of_isSome {α : Type} {x : Reads α} (h : x.toOption.isSome = true) :
    ∃ a, x = .ok a := by
  cases x with
  | error fault => cases h
  | ok a => exact ⟨a, rfl⟩

def shelfGame (title launchRef : String) : ArcadeGameEntry :=
  ⟨title, launchRef, "c64.zip", title, true, "c64", some 1984, "Maker", "Action", some 2,
    "Joystick", false⟩

def shelfPlan : StructuredLaunchPlan :=
  ⟨"plan:a", "Alpha", "c64", "C64", "/a.d64", "mount", 0, 1⟩

/-- A collection of two rows, one with a plan, beside a row of another system. -/
def shelfCatalog : ArcadeCatalog plainLookups :=
  (ArcadeCatalog.newWithPlatformKinds plainLookups "/c"
    [⟨"Maze", "/maze.mra", "", "", false, "arcade", some 1980, "", "Maze", some 2, "", false⟩]
    [⟨"c64", "Commodore 64", 0⟩] [] ∅).withSystemCollectionForId "c64"
      ⟨1, ⟨"c64", .owned [shelfGame "Alpha" "plan:a", shelfGame "Beta" "/b.prg"], [shelfPlan]⟩⟩

/-- Where its rows launch. -/
theorem shelf_targets {i : Nat} {game : ArcadeGameEntry}
    (h : (shelfCatalog.systemGameView "c64").get i = some game) :
    (i = 0 ∧ game = shelfGame "Alpha" "plan:a" ∧
      shelfCatalog.launchTargetInView (shelfCatalog.systemGameView "c64") i =
        some (.structured shelfPlan)) ∨
    (i = 1 ∧ game = shelfGame "Beta" "/b.prg" ∧
      shelfCatalog.launchTargetInView (shelfCatalog.systemGameView "c64") i =
        some (.path "/b.prg")) := by
  have hrows : (shelfCatalog.systemGameView "c64").get i =
      [shelfGame "Alpha" "plan:a", shelfGame "Beta" "/b.prg"][i]? := rfl
  rw [hrows] at h
  match i, h with
  | 0, h => exact .inl ⟨rfl, (Option.some.inj h).symm, by decide +kernel⟩
  | 1, h => exact .inr ⟨rfl, (Option.some.inj h).symm, by decide +kernel⟩

theorem shelf_determined :
    RefDetermined shelfCatalog (shelfCatalog.systemGameView "c64") where
  own i game plan hget htarget := by
    obtain ⟨-, rfl, hstructured⟩ | ⟨-, -, hpath⟩ := shelf_targets hget
    · rw [hstructured] at htarget
      obtain rfl := LaunchTarget.structured.inj (Option.some.inj htarget)
      rfl
    · rw [hpath] at htarget
      cases htarget
  alike i j game game' hget hget' href := by
    obtain ⟨rfl, rfl, -⟩ | ⟨rfl, rfl, -⟩ := shelf_targets hget <;>
      obtain ⟨rfl, rfl, -⟩ | ⟨rfl, rfl, -⟩ := shelf_targets hget'
    · rfl
    · exact absurd href (by decide)
    · exact absurd href (by decide)
    · rfl

/-- The capsule of the shelf, and where its rows launch after it. -/
theorem return_capsule_round_trip_shelf : ∃ bytes restored,
    prepareReturnCatalogCapsuleInner shelfCatalog "c64" "/b.prg" devBinding = .ok bytes ∧
      decodeReturnCatalogCapsule plainLookups bytes devBinding "c64" "/b.prg" = .ok restored ∧
      Restores shelfCatalog "c64" restored ∧
      restored.launchTargetForRef "plan:a" = .structured shelfPlan ∧
      restored.launchTargetForRef "/b.prg" = .path "/b.prg" := by
  obtain ⟨bytes, hbytes⟩ := exists_of_isSome (x := prepareReturnCatalogCapsuleInner
    shelfCatalog "c64" "/b.prg" devBinding) (by decide +kernel)
  have hround := return_capsule_round_trip hbytes
  obtain ⟨restored, hrestored⟩ := hround.1.2 (by decide +kernel)
  obtain ⟨hrestores, hlaunches⟩ := hround.2.1 restored hrestored
  have hsame := hlaunches.2 shelf_determined
  have hfirst := hsame 0 (shelfGame "Alpha" "plan:a") rfl
  have hsecond := hsame 1 (shelfGame "Beta" "/b.prg") rfl
  refine ⟨bytes, restored, hbytes, hrestored, hrestores, ?_, ?_⟩
  · obtain ⟨-, -, htarget⟩ | ⟨hne, -⟩ := shelf_targets (i := 0) rfl
    · exact Option.some.inj (hfirst.trans htarget)
    · cases hne
  · obtain ⟨hne, -⟩ | ⟨-, -, htarget⟩ := shelf_targets (i := 1) rfl
    · cases hne
    · exact Option.some.inj (hsecond.trans htarget)

/-- A collection under the id `alias:c64` is prepared, but not decoded; and of two rows of one
    reference with plans of their own, one launches the plan of the other. -/
theorem capsule_loses :
    (¬ ∀ (lookups : Lookups) (catalog : ArcadeCatalog lookups)
      (collectionId returnGamePath : String) (binding : CapsuleBinding) (bytes : List UInt8),
      prepareReturnCatalogCapsuleInner catalog collectionId returnGamePath binding = .ok bytes →
      ∃ restored, decodeReturnCatalogCapsule lookups bytes binding collectionId returnGamePath =
        .ok restored) ∧
    ¬ ∀ (lookups : Lookups) (catalog : ArcadeCatalog lookups)
      (collectionId returnGamePath : String) (binding : CapsuleBinding) (bytes : List UInt8)
      (restored : ArcadeCatalog lookups),
      prepareReturnCatalogCapsuleInner catalog collectionId returnGamePath binding = .ok bytes →
      decodeReturnCatalogCapsule lookups bytes binding collectionId returnGamePath =
        .ok restored →
      ∀ i game, (catalog.systemGameView collectionId).get i = some game →
        some (restored.launchTargetForRef game.mraPath) =
          catalog.launchTargetInView (catalog.systemGameView collectionId) i := by
  constructor
  · intro hall
    obtain ⟨bytes, hbytes⟩ := exists_of_isSome (x := prepareReturnCatalogCapsuleInner
      (aliasCatalog "alias:c64") "alias:c64" "p" devBinding) (by decide +kernel)
    obtain ⟨restored, hrestored⟩ := hall _ _ _ _ _ _ hbytes
    obtain ⟨⟨-, -, -, hgame⟩, -⟩ := (decode_ok (prepared_of_ok hbytes)).1 hrestored
    revert hgame
    decide +kernel
  · intro hall
    -- The pack is opened, the capsule prepared, and the two rows are looked at, all at once.
    have hseen : (twinPack.toOption.map fun pack =>
        let catalog := twinCatalog pack
        let view := catalog.systemGameView "c64"
        ((prepareReturnCatalogCapsuleInner catalog "c64" "p" devBinding).toOption.isSome,
          (view.get 0).map ArcadeGameEntry.mraPath, (view.get 1).map ArcadeGameEntry.mraPath,
          view.iter.any fun game => "c64" ∈ gameCollectionIds plainLookups game,
          decide (catalog.launchTargetInView view 0 = catalog.launchTargetInView view 1))) =
        some (true, some "p", some "p", true, false) := by decide +kernel
    obtain ⟨pack, -, hpack⟩ := Option.map_eq_some_iff.1 hseen
    dsimp only at hpack
    rw [Prod.mk.injEq, Prod.mk.injEq, Prod.mk.injEq, Prod.mk.injEq] at hpack
    obtain ⟨hprepare, hfirst, hsecond, hmember, hdiffer⟩ := hpack
    obtain ⟨bytes, hbytes⟩ := exists_of_isSome hprepare
    obtain ⟨first, hget, href⟩ := Option.map_eq_some_iff.1 hfirst
    obtain ⟨second, hget', href'⟩ := Option.map_eq_some_iff.1 hsecond
    obtain ⟨game, hgame, hid⟩ := List.any_eq_true.1 hmember
    have hrestored := (decode_ok (prepared_of_ok hbytes)).2
      ⟨⟨rfl, rfl, rfl, game, hgame, of_decide_eq_true hid⟩, rfl⟩
    have hsame := hall _ _ _ _ _ _ _ hbytes hrestored
    refine of_decide_eq_false hdiffer ?_
    rw [← hsame 0 first hget, ← hsame 1 second hget', href, href']

end MisterMagik.Launcher
