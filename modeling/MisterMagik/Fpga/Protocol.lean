/-
  File:      MisterMagik/Fpga/Protocol.lean
  Subject:   The words of the latch protocol: constants and check words as the hardware computes
             them (`mister_magik_latch_protocol.svh`, `mister_magik_vblank_latch.sv`).

  * `crcWord_eq_feedAll`, `crcWords_eq_feedAll` -- the byte-wise loop is the bit-serial register of
    `Base.Crc`, so its theorems apply;
  * `remainder_eq_zero_iff` -- a message together with its check word leaves the remainder zero;
  * `burst_detected` -- words corrupted inside 16 consecutive bits have another remainder.
-/
import MisterMagik.Base.Crc

namespace MisterMagik.Fpga

open MisterMagik.Base.Crc (msbBits feedAll shift shifts feedAll_eq_shifts feedAll_append pack
  pack_msbBits length_msbBits getElem?_msbBits getD_msbBits getMsbD_pack shifts_zero shifts_eq_zero
  feedAll_ne_of_burst)

abbrev Word := BitVec 16

/-! ## 1. Constants -/

def MAGIK_UIO_SET_FBUF_LATCH : BitVec 8 := 0x57#8
def MAGIK_UIO_GET_FBUF_LATCH : BitVec 8 := 0x58#8
def MAGIK_UIO_GET_FBUF_LATCH_CAPS : BitVec 8 := 0x59#8
def MAGIK_UIO_GET_FBUF_LATCH_DIAGNOSTICS : BitVec 8 := 0x5A#8
def MAGIK_UIO_GET_FBUF_LATCH_RECEIPT : BitVec 8 := 0x5B#8
def MAGIK_UIO_GET_FBUF_PRESENTATION_TELEMETRY : BitVec 8 := 0x5C#8

def MAGIK_FBUF_LATCH_MAGIC : Word := 0x4D47#16
def MAGIK_FBUF_STATUS_MAGIC : Word := 0x4D48#16
def MAGIK_FBUF_CAPS_MAGIC : Word := 0x4D49#16
def MAGIK_FBUF_DIAGNOSTICS_MAGIC : Word := 0x4D4A#16
def MAGIK_FBUF_RECEIPT_MAGIC : Word := 0x4D4B#16
def MAGIK_FBUF_PRESENTATION_TELEMETRY_MAGIC : Word := 0x4D4C#16

def MAGIK_FBUF_PROTOCOL_VERSION : Word := 5#16
def MAGIK_FBUF_CAPS_FLAGS : Word := 0x03FF#16
def MAGIK_FBUF_MAX_WIDTH : Word := 1366#16
def MAGIK_FBUF_MAX_HEIGHT : Word := 768#16
def MAGIK_FBUF_MAX_STRIDE : Word := 2736#16

def MAGIK_RECEIPT_NONE : Word := 0#16
def MAGIK_RECEIPT_ACCEPTED : Word := 1#16
def MAGIK_RECEIPT_REJECTED : Word := 2#16

def MAGIK_STATUS_ACTIVE_ENABLED : Nat := 0
def MAGIK_STATUS_PENDING_ENABLED : Nat := 1
def MAGIK_STATUS_PENDING : Nat := 2
def MAGIK_STATUS_MAGIK_OWNERSHIP : Nat := 3
def MAGIK_STATUS_REJECT_REASON_SHIFT : Nat := 4

def MAGIK_REJECT_NONE : BitVec 4 := 0#4
def MAGIK_REJECT_MISSING_WORD : BitVec 4 := 1#4
def MAGIK_REJECT_DUPLICATE_WORD : BitVec 4 := 2#4
def MAGIK_REJECT_OUT_OF_ORDER : BitVec 4 := 3#4
def MAGIK_REJECT_POST_CLOSE : BitVec 4 := 4#4
def MAGIK_REJECT_BAD_CRC : BitVec 4 := 5#4
def MAGIK_REJECT_INVALID_MODE : BitVec 4 := 6#4
def MAGIK_REJECT_INVALID_BASE : BitVec 4 := 7#4
def MAGIK_REJECT_INVALID_GEOMETRY : BitVec 4 := 8#4
def MAGIK_REJECT_INVALID_STRIDE : BitVec 4 := 9#4
def MAGIK_REJECT_INVALID_BOUNDS : BitVec 4 := 10#4
def MAGIK_REJECT_ADDRESS_WRAP : BitVec 4 := 11#4
def MAGIK_REJECT_RESTARTED : BitVec 4 := 12#4
def MAGIK_REJECT_SHIFTED_WORD : BitVec 4 := 13#4
def MAGIK_REJECT_PENDING_BUSY : BitVec 4 := 14#4
def MAGIK_REJECT_RESERVED : BitVec 4 := 15#4

def MAGIK_CRC_POLYNOMIAL : Word := 0x1021#16
def MAGIK_CRC_INITIAL : Word := 0xFFFF#16
def MAGIK_CRC_FINAL_XOR : Word := 0x0000#16

/-! ## 2. Check words -/

/-- One turn of the loop of `crc_byte`. -/
def crcBit (next : Word) : Word :=
  if next.getLsbD 15 then (next <<< 1) ^^^ MAGIK_CRC_POLYNOMIAL else next <<< 1

def crcByte (current : Word) (value : BitVec 8) : Word :=
  (List.range 8).foldl (fun next _ => crcBit next) (current ^^^ (value ++ 0#8))

def crcWord (current value : Word) : Word :=
  crcByte (crcByte current (value.extractLsb' 8 8)) (value.extractLsb' 0 8)

def crcHeader (command : BitVec 8) (nonCrcWords : Word) : Word :=
  crcWord (crcWord (crcWord MAGIK_CRC_INITIAL (0#8 ++ command)) MAGIK_FBUF_PROTOCOL_VERSION)
    nonCrcWords

/-- The check word of a message, from the header of its command. -/
def messageCrc (command : BitVec 8) (words : List Word) : Word :=
  words.foldl crcWord (crcHeader command (BitVec.ofNat 16 words.length)) ^^^ MAGIK_CRC_FINAL_XOR

theorem crcByte_eq_shifts (current : Word) (value : BitVec 8) :
    crcByte current value = shifts MAGIK_CRC_POLYNOMIAL 8 (current ^^^ (value ++ 0#8)) := rfl

theorem pack_msbBits_byte (value : BitVec 8) : pack 16 (msbBits value) = value ++ 0#8 := by
  apply BitVec.eq_of_getMsbD_eq
  intro i hi
  rw [getMsbD_pack _ hi, getD_msbBits, BitVec.getMsbD_append]
  by_cases h : i < 8
  · simp [Nat.not_le.mpr h]
  · rw [BitVec.getMsbD_of_ge _ _ (by omega)]
    simp [Nat.le_of_not_lt h]

theorem crcByte_eq_feedAll (current : Word) (value : BitVec 8) :
    crcByte current value = feedAll MAGIK_CRC_POLYNOMIAL current (msbBits value) := by
  rw [feedAll_eq_shifts _ _ (by simp), pack_msbBits_byte, length_msbBits, crcByte_eq_shifts]

theorem getMsbD_high_byte (value : Word) {i : Nat} (h : i < 8) :
    (value.extractLsb' 8 8).getMsbD i = value.getMsbD i := by
  have h7 : 7 - i < 8 := by omega
  rw [BitVec.getMsbD, BitVec.getMsbD, BitVec.getLsbD_extractLsb',
    show 8 + (8 - 1 - i) = 16 - 1 - i by omega]
  simp [h, h7, show i < 16 by omega]

theorem getMsbD_low_byte (value : Word) {i : Nat} (h8 : 8 ≤ i) (h16 : i < 16) :
    (value.extractLsb' 0 8).getMsbD (i - 8) = value.getMsbD i := by
  have h7 : 7 - (i - 8) < 8 := by omega
  rw [BitVec.getMsbD, BitVec.getMsbD, BitVec.getLsbD_extractLsb',
    show 0 + (8 - 1 - (i - 8)) = 16 - 1 - i by omega]
  simp [h16, h7, show i - 8 < 8 by omega]

theorem msbBits_split (value : Word) :
    msbBits (value.extractLsb' 8 8) ++ msbBits (value.extractLsb' 0 8) = msbBits value := by
  apply List.ext_getElem?
  intro i
  rw [List.getElem?_append, getElem?_msbBits, getElem?_msbBits, getElem?_msbBits, length_msbBits]
  by_cases h8 : i < 8
  · simp only [h8, if_true, getMsbD_high_byte value h8, show i < 16 by omega]
  · by_cases h16 : i < 16
    · simp only [h8, if_false, h16, if_true, getMsbD_low_byte value (Nat.le_of_not_lt h8) h16,
        show i - 8 < 8 by omega]
    · simp only [h8, if_false, h16, show ¬ i - 8 < 8 by omega]

/-- **The byte-wise loop is the bit-serial register.** -/
theorem crcWord_eq_feedAll (current value : Word) :
    crcWord current value = feedAll MAGIK_CRC_POLYNOMIAL current (msbBits value) := by
  rw [crcWord, crcByte_eq_feedAll, crcByte_eq_feedAll, ← feedAll_append, msbBits_split]

theorem crcWords_eq_feedAll (current : Word) (words : List Word) :
    words.foldl crcWord current =
      feedAll MAGIK_CRC_POLYNOMIAL current (words.flatMap msbBits) := by
  induction words generalizing current with
  | nil => rfl
  | cons v words ih =>
      rw [List.foldl_cons, ih, crcWord_eq_feedAll, List.flatMap_cons, feedAll_append]

theorem crcWord_eq_shifts (current value : Word) :
    crcWord current value = shifts MAGIK_CRC_POLYNOMIAL 16 (current ^^^ value) := by
  rw [crcWord_eq_feedAll, feedAll_eq_shifts _ _ (by simp), pack_msbBits, length_msbBits]

theorem polynomial_odd : MAGIK_CRC_POLYNOMIAL.getLsbD 0 = true := by decide

/-- The remainder of a message with its check word is zero, and no other word does that. -/
theorem crcWord_eq_zero_iff (current value : Word) :
    crcWord current value = 0#16 ↔ value = current := by
  rw [crcWord_eq_shifts]
  constructor
  · intro h
    have h := shifts_eq_zero polynomial_odd h
    exact (BitVec.xor_eq_zero_iff.mp h).symm
  · rintro rfl
    rw [BitVec.xor_self, shifts_zero]

/-- **A message is followed by its check word exactly if the remainder is zero.** -/
theorem remainder_eq_zero_iff (command : BitVec 8) (words : List Word) (check : Word) :
    (words ++ [check]).foldl crcWord (crcHeader command (BitVec.ofNat 16 words.length)) = 0#16 ↔
      check = messageCrc command words := by
  rw [List.foldl_append, List.foldl_cons, List.foldl_nil, crcWord_eq_zero_iff, messageCrc,
    MAGIK_CRC_FINAL_XOR, BitVec.xor_zero]

/-! ## 3. Corrupted words -/

/-- Bit `i` of words sent most significant bit first. -/
def transmittedBit (words : List Word) (i : Nat) : Option Bool := (words.flatMap msbBits)[i]?

/-- The words were corrupted, in bits that lie within 16 consecutive transmitted ones. -/
def BurstError (sent received : List Word) : Prop :=
  received.length = sent.length ∧ received ≠ sent ∧
    ∃ s, ∀ i, transmittedBit sent i ≠ transmittedBit received i → s ≤ i ∧ i < s + 16

theorem length_flatMap_msbBits (words : List Word) :
    (words.flatMap msbBits).length = 16 * words.length := by
  induction words with
  | nil => rfl
  | cons v words ih => simp [ih]; omega

theorem msbBits_injective {a b : Word} (h : msbBits a = msbBits b) : a = b := by
  rw [← pack_msbBits a, h, pack_msbBits]

theorem flatMap_msbBits_injective :
    ∀ {a b : List Word}, a.length = b.length → a.flatMap msbBits = b.flatMap msbBits → a = b
  | [], [], _, _ => rfl
  | x :: a, y :: b, hl, h => by
      rw [List.flatMap_cons, List.flatMap_cons] at h
      obtain ⟨h1, h2⟩ := List.append_inj h (by simp)
      rw [msbBits_injective h1, flatMap_msbBits_injective (by simpa using hl) h2]

/-- **A burst of at most 16 bits changes the remainder**, whatever came before it. -/
theorem burst_detected {sent received : List Word} (h : BurstError sent received) (current : Word) :
    received.foldl crcWord current ≠ sent.foldl crcWord current := by
  obtain ⟨hlen, hne, s, hs⟩ := h
  rw [crcWords_eq_feedAll, crcWords_eq_feedAll]
  refine feedAll_ne_of_burst polynomial_odd current ?_ (fun e => hne ?_) (s := s) fun i hi =>
    hs i (Ne.symm hi)
  · rw [length_flatMap_msbBits, length_flatMap_msbBits, hlen]
  · exact flatMap_msbBits_injective hlen e

end MisterMagik.Fpga
