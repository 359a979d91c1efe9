/-
  File:      MisterMagik/Base/Codec.lean
  Subject:   WRITERS AND READERS OF ONE FORMAT, one part after another.

  A writer appends to bytes, and fails where a check fails. A reader takes what it reads off the
  front; it may look at how many bytes are left, but more of them never change what it accepts.

  * `Appends` -- what a writer has appended where it succeeded, and what its checks then say;
  * `Bounded` -- a writer that keeps to a limit;
  * `Onward` -- a reader reads the same with more bytes behind, and leaves these;
  * `Onward.front_fails` -- what is read to its end is not read from a part in front of it;
  * `Codes` -- what a writer appends, a reader takes back;
  * `codes_listOf` -- a list behind its count.
-/
import MisterMagik.Base.Bytes

namespace MisterMagik.Base

/-! ## 1. Writers -/

/-- A writer with the bytes it has written. -/
abbrev Puts (α : Type) := StateT (List UInt8) Reads α

/-- Where the writer succeeds it has appended `spelled`, and `Known` holds. -/
structure Appends {α : Type} (w : Puts α) (spelled : List UInt8) (Known : α → Prop) : Prop where
  ok : ∀ bytes a bytes', w bytes = .ok (a, bytes') → bytes' = bytes ++ spelled ∧ Known a

section Writers

variable {α β : Type} {first second spelled : List UInt8}

theorem appends_pure (a : α) : Appends (pure a) [] (· = a) where
  ok bytes b bytes' h := by
    obtain ⟨rfl, rfl⟩ := takes_pure_ok.1 h
    exact ⟨(List.append_nil _).symm, rfl⟩

theorem appends_lift (x : Reads α) : Appends (liftM x) [] (fun a => x = .ok a) where
  ok bytes b bytes' h := by
    obtain ⟨rfl, hx⟩ := takes_lift_ok.1 h
    exact ⟨(List.append_nil _).symm, hx⟩

theorem Appends.weaken {w : Puts α} {Known Known' : α → Prop} (h : Appends w spelled Known)
    (himp : ∀ a, Known a → Known' a) : Appends w spelled Known' :=
  ⟨fun bytes a bytes' hw => ⟨(h.ok bytes a bytes' hw).1, himp a (h.ok bytes a bytes' hw).2⟩⟩

theorem appends_bind {w : Puts α} {f : α → Puts β} {Known : α → Prop} {Then : β → Prop}
    (hw : Appends w first Known) (hf : ∀ a, Known a → Appends (f a) second Then) :
    Appends (w >>= f) (first ++ second) Then where
  ok bytes b bytes' h := by
    obtain ⟨a, mid, ha, hb⟩ := takes_bind_ok.1 h
    obtain ⟨rfl, hknown⟩ := hw.ok _ _ _ ha
    obtain ⟨rfl, hthen⟩ := (hf a hknown).ok _ _ _ hb
    exact ⟨by rw [List.append_assoc], hthen⟩

/-- One writer after another, and what both of them know. -/
theorem appends_then {w : Puts Unit} {f : Unit → Puts β} {Known : Prop} {Then : β → Prop}
    (hw : Appends w first fun _ => Known) (hf : Appends (f ()) second Then) :
    Appends (w >>= f) (first ++ second) (fun b => Known ∧ Then b) :=
  appends_bind hw fun _ hknown => hf.weaken fun _ hthen => ⟨hknown, hthen⟩

/-- A writer that leaves no more bytes than a limit, where there were no more before. -/
structure Bounded {α : Type} (limit : Nat) (w : Puts α) : Prop where
  ok : ∀ bytes a bytes', bytes.length ≤ limit → w bytes = .ok (a, bytes') →
    bytes'.length ≤ limit

variable {limit : Nat}

theorem bounded_pure (a : α) : Bounded limit (pure a) where
  ok bytes b bytes' hlimit h := by
    obtain ⟨rfl, rfl⟩ := takes_pure_ok.1 h
    exact hlimit

theorem bounded_lift (x : Reads α) : Bounded limit (liftM x) where
  ok bytes a bytes' hlimit h := by
    obtain ⟨rfl, -⟩ := takes_lift_ok.1 h
    exact hlimit

theorem bounded_bind {w : Puts α} {f : α → Puts β} (hw : Bounded limit w)
    (hf : ∀ a, Bounded limit (f a)) : Bounded limit (w >>= f) where
  ok bytes b bytes' hlimit h := by
    obtain ⟨a, mid, ha, hb⟩ := takes_bind_ok.1 h
    exact (hf a).ok _ _ _ (hw.ok _ _ _ hlimit ha) hb

end Writers

/-! ## 2. Readers and more bytes -/

/-- With more bytes behind, the reader reads the same and leaves them. -/
structure Onward {α : Type} (x : Takes α) : Prop where
  ok : ∀ bytes a rest more, x bytes = .ok (a, rest) → x (bytes ++ more) = .ok (a, rest ++ more)

section Onward

variable {α β : Type} {bytes front back : List UInt8}

theorem onward_pure (a : α) : Onward (pure a) where
  ok bytes b rest more h := by
    obtain ⟨rfl, rfl⟩ := takes_pure_ok.1 h
    rfl

theorem onward_lift (x : Reads α) : Onward (liftM x) where
  ok bytes a rest more h := by
    obtain ⟨rfl, hx⟩ := takes_lift_ok.1 h
    exact takes_lift_ok.2 ⟨rfl, hx⟩

theorem onward_bind {x : Takes α} {f : α → Takes β} (hx : Onward x) (hf : ∀ a, Onward (f a)) :
    Onward (x >>= f) where
  ok bytes b rest more h := by
    obtain ⟨a, mid, hxa, hfb⟩ := takes_bind_ok.1 h
    exact takes_bind_ok.2 ⟨a, mid ++ more, hx.ok _ _ _ _ hxa, (hf a).ok _ _ _ _ hfb⟩

theorem onward_take (count : Nat) (truncated : String) : Onward (take count truncated) where
  ok bytes part rest more h := by
    obtain ⟨hlen, rfl⟩ := take_ok.1 h
    exact take_ok.2 ⟨hlen, List.append_assoc _ _ _⟩

theorem onward_takeLe (width : Nat) (truncated : String) : Onward (takeLe width truncated) :=
  onward_bind (onward_take width truncated) fun _ => onward_pure _

/-- **What is read to its end is not read to its end from a part in front of it.** -/
theorem Onward.front_fails {x : Takes α} (hx : Onward x) {a : α}
    (h : x (front ++ back) = .ok (a, [])) (hback : back ≠ []) (b : α) : x front ≠ .ok (b, []) := by
  intro hfront
  have hmore := hx.ok _ _ _ back hfront
  rw [h, List.nil_append] at hmore
  cases hmore
  exact hback rfl

/-- **Nor is it read to its end with more bytes behind.** -/
theorem Onward.more_fails {x : Takes α} (hx : Onward x) {a : α} (h : x front = .ok (a, []))
    (hback : back ≠ []) (b : α) : x (front ++ back) ≠ .ok (b, []) := by
  intro hmore
  have hfront := hx.ok _ _ _ back h
  rw [hmore, List.nil_append] at hfront
  cases hfront
  exact hback rfl

end Onward

/-! ## 3. A writer and its reader -/

/-- What the writer appends, at least `least` bytes, the reader takes back as `a`. -/
structure Codes {α : Type} (put : Puts Unit) (x : Takes α) (a : α) (least : Nat) : Prop where
  spelled : ∃ (spelled : List UInt8) (Known : Prop), least ≤ spelled.length ∧
    Appends put spelled (fun _ => Known) ∧ (Known → OnSpelled x spelled (· = a))

section Codes

variable {α β : Type} {put put' : Puts Unit} {x : Takes α} {f : α → Takes β} {a : α} {b : β}
  {least least' : Nat}

theorem codes_of {spelled : List UInt8} {Known : Prop} (hleast : least ≤ spelled.length)
    (hput : Appends put spelled fun _ => Known) (hx : Known → OnSpelled x spelled (· = a)) :
    Codes put x a least := ⟨spelled, Known, hleast, hput, hx⟩

theorem Codes.mono (h : Codes put x a least) (hle : least' ≤ least) : Codes put x a least' := by
  obtain ⟨spelled, Known, hleast, hput, hx⟩ := h
  exact codes_of (Nat.le_trans hle hleast) hput hx

theorem codes_pure (a : α) : Codes (pure ()) (pure a) a 0 :=
  codes_of (Nat.zero_le _) ((appends_pure ()).weaken fun _ _ => trivial) fun _ => onSpelled_pure a

/-- One part after another. -/
theorem codes_then (h : Codes put x a least') (h' : Codes put' (f a) b (least - least')) :
    Codes (put >>= fun _ => put') (x >>= f) b least := by
  obtain ⟨spelled, Known, hleast, hput, hx⟩ := h
  obtain ⟨spelled', Known', hleast', hput', hx'⟩ := h'
  refine codes_of ?_ (appends_then hput hput') fun hknown =>
    onSpelled_then (hx hknown.1) (hx' hknown.2)
  rw [List.length_append]
  omega

/-- The last part, where the reader goes on without taking more. -/
theorem codes_last (h : Codes put x a least) (hf : f a = pure b) : Codes put (x >>= f) b least := by
  obtain ⟨spelled, Known, hleast, hput, hx⟩ := h
  refine codes_of hleast hput fun hknown => ?_
  have hpure : OnSpelled (f a) [] (· = b) := hf ▸ onSpelled_pure b
  have hthen := onSpelled_then (hx hknown) hpure
  rwa [List.append_nil] at hthen

/-- A check of the writer comes first. -/
theorem codes_guarded {checked : Reads Unit} (h : Codes put x a least) :
    Codes (liftM checked >>= fun _ => put) x a least := by
  obtain ⟨spelled, Known, hleast, hput, hx⟩ := h
  have hguard := appends_then (f := fun _ => put)
    ((appends_lift checked).weaken fun _ _ => trivial) hput
  rw [List.nil_append] at hguard
  exact codes_of hleast hguard fun hknown => hx hknown.2

/-- A check of the reader, which what was written passes. -/
theorem codes_checked {checked : Reads α} (hchecked : checked = .ok a)
    (h : Codes put (f a) b least) : Codes put (liftM checked >>= f) b least := by
  obtain ⟨spelled, Known, hleast, hput, hx⟩ := h
  refine codes_of hleast hput fun hknown => ?_
  have hlift : OnSpelled (liftM checked) [] (· = a) := (onSpelled_lift checked).congr fun a' => by
    rw [hchecked]
    exact ⟨fun h => (Except.ok.inj h).symm, fun h => h ▸ rfl⟩
  exact onSpelled_then hlift (hx hknown)

end Codes

/-! ## 4. Lists behind their count -/

/-- `for item in items`, each written. -/
def putEach {ι : Type} (put : ι → Puts Unit) : List ι → Puts Unit
  | [] => pure ()
  | item :: items => do
    put item
    putEach put items

/-- `for _ in 0..count`, each round pushing an item. -/
def takeMany {α : Type} (item : Takes α) : Nat → Takes (List α)
  | 0 => pure []
  | count + 1 => do
    let a ← item
    let items ← takeMany item count
    pure (a :: items)

/-- The bytes that are left are enough. -/
def checkLeft (needed : Nat) (cannotFit : Nat → String) : Takes Unit := fun bytes =>
  if needed ≤ bytes.length then .ok ((), bytes) else fail (cannotFit bytes.length)

/-- A number of items that the bytes behind it could hold. The texts of the errors depend on the
    number, and on how many bytes are left. -/
def takeCount (truncated : String) (tooMany : Nat → String) (cannotFit : Nat → Nat → String)
    (max minimum : Nat) : Takes Nat := do
  let count ← takeLe 4 truncated
  liftM (check (count ≤ max) (tooMany count))
  checkLeft (count * minimum) (cannotFit count)
  pure count

section Lists

variable {α : Type} {put : α → Puts Unit} {item : Takes α} {items : List α} {truncated : String}
  {tooMany : Nat → String} {cannotFit : Nat → Nat → String} {max minimum : Nat}

theorem onward_takeMany (h : Onward item) (count : Nat) : Onward (takeMany item count) := by
  induction count with
  | zero => exact onward_pure []
  | succ count ih => exact onward_bind h fun a => onward_bind ih fun items => onward_pure _

theorem codes_each (h : ∀ a ∈ items, Codes (put a) item a minimum) :
    Codes (putEach put items) (takeMany item items.length) items (items.length * minimum) := by
  induction items with
  | nil =>
      rw [List.length_nil, Nat.zero_mul]
      exact codes_pure []
  | cons a items ih =>
      have hitems := ih fun b hb => h b (List.mem_cons_of_mem _ hb)
      have hrest : Codes (putEach put items) (takeMany item items.length >>= fun items' =>
          pure (a :: items')) (a :: items) (items.length * minimum) := codes_last hitems rfl
      rw [List.length_cons, Nat.succ_mul]
      refine codes_then (f := fun a => takeMany item items.length >>= fun items' =>
        pure (a :: items')) (h a List.mem_cons_self) (hrest.mono ?_)
      omega

theorem checkLeft_ok {needed : Nat} {cannotFit : Nat → String} {bytes rest : List UInt8} :
    checkLeft needed cannotFit bytes = .ok ((), rest) ↔ rest = bytes ∧ needed ≤ bytes.length := by
  unfold checkLeft
  by_cases h : needed ≤ bytes.length
  · simp [h, eq_comm]
  · simp [h, fail]

theorem takeCount_ok {count : Nat} {bytes rest : List UInt8} :
    takeCount truncated tooMany cannotFit max minimum bytes = .ok (count, rest) ↔
      (count < 256 ^ 4 ∧ bytes = leBytes 4 count ++ rest) ∧ count ≤ max ∧
        count * minimum ≤ rest.length := by
  unfold takeCount
  rw [takes_bind_ok]
  constructor
  · intro h
    obtain ⟨n, mid, hn, hmany⟩ := h
    obtain ⟨_, mid', hlifted, hleft⟩ := takes_bind_ok.1 hmany
    obtain ⟨rfl, hmax⟩ := takes_lift_ok.1 hlifted
    obtain ⟨_, mid', hchecked, hpure⟩ := takes_bind_ok.1 hleft
    obtain ⟨rfl, hfit⟩ := checkLeft_ok.1 hchecked
    obtain ⟨rfl, rfl⟩ := takes_pure_ok.1 hpure
    exact ⟨takeLe_ok.1 hn, of_decide_eq_true (check_ok.1 hmax), hfit⟩
  · intro h
    obtain ⟨hn, hmax, hfit⟩ := h
    refine ⟨count, rest, takeLe_ok.2 hn, takes_bind_ok.2 ⟨(), rest, ?_, ?_⟩⟩
    · exact takes_lift_ok.2 ⟨rfl, check_ok.2 (decide_eq_true hmax)⟩
    · exact takes_bind_ok.2 ⟨(), rest, checkLeft_ok.2 ⟨rfl, hfit⟩, takes_pure_ok.2 ⟨rfl, rfl⟩⟩

theorem onward_takeCount : Onward (takeCount truncated tooMany cannotFit max minimum) where
  ok bytes count rest more h := by
    obtain ⟨⟨hlt, rfl⟩, hmax, hfit⟩ := takeCount_ok.1 h
    refine takeCount_ok.2 ⟨⟨hlt, List.append_assoc _ _ _⟩, hmax, ?_⟩
    rw [List.length_append]
    omega

/-- **A list behind its count is read**, where its items are spelled as long as the reader
    expects at least. -/
theorem onSpelled_listOf {spelled : List UInt8}
    (h : OnSpelled (takeMany item items.length) spelled (· = items))
    (hmax : items.length ≤ max) (hlt : items.length < 256 ^ 4)
    (hleast : items.length * minimum ≤ spelled.length) :
    OnSpelled (takeCount truncated tooMany cannotFit max minimum >>= takeMany item)
      (leBytes 4 items.length ++ spelled) (· = items) where
  ok rest a rest' := by
    rw [List.append_assoc, takes_bind_ok]
    constructor
    · intro h'
      obtain ⟨count, mid, hcount, hmany⟩ := h'
      obtain ⟨⟨hlt', hspelled⟩, -⟩ := takeCount_ok.1 hcount
      obtain ⟨hbytes, rfl⟩ := List.append_inj hspelled (by simp)
      obtain rfl : items.length = count := by
        rw [← leValue_leBytes hlt, hbytes, leValue_leBytes hlt']
      exact (h.ok _ _ _).1 hmany
    · intro h'
      obtain ⟨rfl, rfl⟩ := h'
      refine ⟨a.length, spelled ++ rest', takeCount_ok.2 ⟨⟨hlt, rfl⟩, hmax, ?_⟩,
        (h.ok _ _ _).2 ⟨rfl, rfl⟩⟩
      rw [List.length_append]
      omega

/-- **A list is written behind its count.** -/
theorem codes_listOf {putCount : Puts Unit}
    (hcount : Appends putCount (leBytes 4 items.length) fun _ => items.length < 256 ^ 4)
    (h : ∀ a ∈ items, Codes (put a) item a minimum) (hmax : items.length ≤ max) :
    Codes (putCount >>= fun _ => putEach put items)
      (takeCount truncated tooMany cannotFit max minimum >>= takeMany item) items
      (4 + items.length * minimum) := by
  obtain ⟨spelled, Known, hleast, hput, hx⟩ := codes_each h
  refine codes_of ?_ (appends_then hcount hput) fun hknown =>
    onSpelled_listOf (hx hknown.2) hmax hknown.1 hleast
  rw [List.length_append, length_leBytes]
  exact Nat.add_le_add_left hleast 4

end Lists

end MisterMagik.Base
