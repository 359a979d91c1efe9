/-
  File:      MisterMagik/Base/Program.lean
  Subject:   PROGRAMS THAT PERFORM OPERATIONS, in surroundings that move on between them.

  A program is a tree: it returns, or it performs an operation and goes on with the answer. What an
  operation answers, what it does to the world and what the world does by itself is said by
  `Surroundings`. A program that may poll for as long as a clock allows is one program for every
  number of polls.

  * `Prog.wp` -- every operation is allowed where it is performed, and the postcondition holds at
    the end, whatever the surroundings do;
  * `wp_step` -- one step keeps it;
  * `wp_within` -- what every allowed operation keeps may be assumed on the way;
  * `Call` -- programs with a state of their own and errors, and their rules;
  * `Session.reachable_wp` -- an invariant of every call holds in every session of calls;
  * `Session.play_steps` -- a session that is played is one.
-/
import Mathlib.Logic.Relation

namespace MisterMagik.Base

open Relation (ReflTransGen)

/-! ## 1. Programs -/

/-- Programs over operations `o : O` that answer with an `R o`. -/
inductive Prog {O : Type} (R : O → Type) (α : Type) : Type where
  | ret (a : α)
  | op (o : O) (k : R o → Prog R α)

namespace Prog

variable {O : Type} {R : O → Type} {α β W : Type}

def bind : Prog R α → (α → Prog R β) → Prog R β
  | .ret a, f => f a
  | .op o k, f => .op o fun r => (k r).bind f

instance : Monad (Prog R) where
  pure := .ret
  bind := bind

/-- One operation. -/
def perform (o : O) : Prog R (R o) := .op o .ret

/-- The run in which `act` says what every operation answers and does. -/
def play (act : (o : O) → W → R o × W) : Prog R α → W → α × W
  | .ret a, w => (a, w)
  | .op o k, w => (k (act o w).1).play act (act o w).2

/-- The run in which `act` says what an operation answers and does, up to one of which it says
    nothing. -/
def playSome (act : (o : O) → W → Option (R o × W)) : Prog R α → W → Option (α × W)
  | .ret a, w => some (a, w)
  | .op o k, w =>
      match act o w with
      | some (r, w) => (k r).playSome act w
      | none => none

end Prog

/-! ## 2. Surroundings -/

structure Surroundings {O : Type} (R : O → Type) (W : Type) where
  /-- What the world may do by itself between two operations. -/
  env : W → W → Prop
  /-- Where an operation may be performed. -/
  allowed : (o : O) → W → Prop
  /-- An operation, the world before it, its answer and the world after it. -/
  does : (o : O) → W → R o → W → Prop

namespace Surroundings

variable {O : Type} {R : O → Type} {W : Type} (S : Surroundings R W)

/-- What the world may have done by the next operation. -/
abbrev Drift : W → W → Prop := ReflTransGen S.env

/-- What the world by itself does not end. -/
def Stable (P : W → Prop) : Prop := ∀ w w', P w → S.env w w' → P w'

variable {S}

theorem Stable.drift {P : W → Prop} (hP : S.Stable P) {w w' : W} (h : S.Drift w w') (hw : P w) :
    P w' := by
  induction h with
  | refl => exact hw
  | tail _ hs ih => exact hP _ _ ih hs

variable (S)

/-- What neither the world by itself nor an allowed operation ends. -/
structure Keeps (I : W → Prop) : Prop where
  env : S.Stable I
  op : ∀ o w r w', I w → S.allowed o w → S.does o w r w' → I w'

/-- The same surroundings, as long as something holds. -/
def within (I : W → Prop) : Surroundings R W where
  env w w' := S.env w w' ∧ I w'
  allowed := S.allowed
  does o w r w' := S.does o w r w' ∧ I w ∧ I w'

variable {S}

theorem Stable.within {P I : W → Prop} (hP : S.Stable P) : (S.within I).Stable P :=
  fun w w' hw h => hP w w' hw h.1

theorem Keeps.drift {I : W → Prop} (hI : S.Keeps I) {w w' : W} (hw : I w) (h : S.Drift w w') :
    (S.within I).Drift w w' := by
  induction h with
  | refl => exact .refl
  | tail hd hs ih => exact ih.tail ⟨hs, hI.env _ _ (hI.env.drift hd hw) hs⟩

end Surroundings

namespace Prog

variable {O : Type} {R : O → Type} {α β W : Type} {S : Surroundings R W}

/-- **Weakest precondition**: every operation the program performs is allowed there, and when it
    returns the postcondition holds. -/
def wp (S : Surroundings R W) : Prog R α → (α → W → Prop) → W → Prop
  | .ret a, Q, w => Q a w
  | .op o k, Q, w =>
      ∀ w', S.Drift w w' → S.allowed o w' ∧ ∀ r w'', S.does o w' r w'' → (k r).wp S Q w''

theorem wp_pure {a : α} {Q : α → W → Prop} {w : W} : (pure a : Prog R α).wp S Q w ↔ Q a w :=
  Iff.rfl

theorem wp_mono {p : Prog R α} {Q Q' : α → W → Prop} {w : W} (h : p.wp S Q w)
    (hQ : ∀ a w, Q a w → Q' a w) : p.wp S Q' w := by
  induction p generalizing w with
  | ret a => exact hQ a w h
  | op o k ih =>
      refine fun w' hd => ⟨(h w' hd).1, fun r w'' hr => ?_⟩
      exact ih r ((h w' hd).2 r w'' hr)

theorem wp_bind {p : Prog R α} {f : α → Prog R β} {Q : β → W → Prop} {w : W}
    (h : p.wp S (fun a w => (f a).wp S Q w) w) : (p >>= f).wp S Q w := by
  induction p generalizing w with
  | ret a => exact h
  | op o k ih =>
      refine fun w' hd => ⟨(h w' hd).1, fun r w'' hr => ?_⟩
      exact ih r ((h w' hd).2 r w'' hr)

/-- A stable fact holds where the operation is performed. -/
theorem wp_op {o : O} {k : R o → Prog R α} {Q : α → W → Prop} {w : W} {P : W → Prop}
    (hP : S.Stable P) (hw : P w) (ha : ∀ w, P w → S.allowed o w)
    (hd : ∀ w r w', P w → S.does o w r w' → (k r).wp S Q w') : (op o k).wp S Q w := by
  refine fun w' hdrift => ?_
  have hw' := hP.drift hdrift hw
  exact ⟨ha w' hw', fun r w'' hr => hd w' r w'' hw' hr⟩

theorem wp_perform {o : O} {Q : R o → W → Prop} {w : W} {P : W → Prop} (hP : S.Stable P) (hw : P w)
    (ha : ∀ w, P w → S.allowed o w) (hd : ∀ w r w', P w → S.does o w r w' → Q r w') :
    (perform o : Prog R (R o)).wp S Q w := wp_op hP hw ha hd

/-- **What lasts may be assumed** wherever the program is. -/
theorem wp_within {I : W → Prop} (hI : S.Keeps I) {p : Prog R α} {Q : α → W → Prop} {w : W}
    (hw : I w) (h : p.wp (S.within I) Q w) : p.wp S Q w := by
  induction p generalizing w with
  | ret a => exact h
  | op o k ih =>
      intro w' hd
      have hw' := hI.env.drift hd hw
      obtain ⟨ha, hdoes⟩ := h w' (hI.drift hw hd)
      refine ⟨ha, fun r w'' hr => ?_⟩
      have hw'' := hI.op o w' r w'' hw' ha hr
      exact ih r hw'' (hdoes r w'' ⟨hr, hw', hw''⟩)

/-! ### Steps -/

/-- One step of a program in its world. -/
inductive Step (S : Surroundings R W) : Prog R α × W → Prog R α × W → Prop where
  | env (p : Prog R α) {w w' : W} (h : S.env w w') : Step S (p, w) (p, w')
  | op {o : O} (k : R o → Prog R α) {w w' : W} {r : R o} (h : S.does o w r w') :
      Step S (.op o k, w) (k r, w')

theorem wp_env {p : Prog R α} {Q : α → W → Prop} (hQ : ∀ a, S.Stable (Q a)) {w w' : W}
    (h : p.wp S Q w) (he : S.env w w') : p.wp S Q w' := by
  cases p with
  | ret a => exact hQ a w w' h he
  | op o k => exact fun w'' hd => h w'' (.head he hd)

/-- **A step keeps the weakest precondition.** -/
theorem wp_step {c c' : Prog R α × W} {Q : α → W → Prop} (hQ : ∀ a, S.Stable (Q a))
    (h : c.1.wp S Q c.2) (hs : Step S c c') : c'.1.wp S Q c'.2 := by
  cases hs with
  | env p he => exact wp_env hQ h he
  | op k hd => exact (h _ .refl).2 _ _ hd

/-- A program that does only what is allowed keeps what every allowed operation keeps. -/
theorem step_keeps {I : W → Prop} (hI : S.Keeps I) {c c' : Prog R α × W} {Q : α → W → Prop}
    (h : c.1.wp S Q c.2) (hw : I c.2) (hs : Step S c c') : I c'.2 := by
  cases hs with
  | env p he => exact hI.env _ _ hw he
  | op k hd => exact hI.op _ _ _ _ hw (h _ .refl).1 hd

/-- Where an operation is about to be performed, it is allowed. -/
theorem wp_allowed {o : O} {k : R o → Prog R α} {Q : α → W → Prop} {w : W}
    (h : (op o k).wp S Q w) : S.allowed o w := (h w .refl).1

/-- A played run is a run, if what is played is what the operations do. -/
theorem play_steps {act : (o : O) → W → R o × W}
    (hact : ∀ o w, S.does o w (act o w).1 (act o w).2) (p : Prog R α) (w : W) :
    ReflTransGen (Step S) (p, w) (.ret (p.play act w).1, (p.play act w).2) := by
  induction p generalizing w with
  | ret a => exact .refl
  | op o k ih => exact .head (.op k (hact o w)) (ih _ _)

/-- The same of a run that is played to its end. -/
theorem playSome_steps {act : (o : O) → W → Option (R o × W)}
    (hact : ∀ o w r w', act o w = some (r, w') → S.does o w r w') {p : Prog R α} {w w' : W} {a : α}
    (h : p.playSome act w = some (a, w')) : ReflTransGen (Step S) (p, w) (.ret a, w') := by
  induction p generalizing w with
  | ret b =>
      obtain ⟨rfl, rfl⟩ := Prod.mk.inj (Option.some.inj h)
      exact .refl
  | op o k ih =>
      unfold playSome at h
      split at h
      · rename_i r w1 hr
        exact .head (.op k (hact o w r w1 hr)) (ih r h)
      · cases h

end Prog

/-! ## 3. Calls -/

/-- A program with a state of its own that it keeps on an error too: a method. -/
def Call {O : Type} (R : O → Type) (σ ε α : Type) : Type := σ → Prog R (Except ε α × σ)

namespace Call

variable {O : Type} {R : O → Type} {σ ε ε' α β W : Type} {S : Surroundings R W}

instance : Monad (Call R σ ε) where
  pure a := fun s => .ret (.ok a, s)
  bind m f := fun s => Prog.bind (m s) fun
    | (.ok a, s) => f a s
    | (.error e, s) => .ret (.error e, s)

def throw (e : ε) : Call R σ ε α := fun s => .ret (.error e, s)

def get : Call R σ ε σ := fun s => .ret (.ok s, s)

def modify (f : σ → σ) : Call R σ ε Unit := fun s => .ret (.ok (), f s)

def perform (o : O) : Call R σ ε (R o) := fun s => .op o fun r => .ret (.ok r, s)

def ofExcept : Except ε α → Call R σ ε α
  | .ok a => pure a
  | .error e => throw e

/-- The result of a call, error or not, as a value. -/
def attempt (m : Call R σ ε α) : Call R σ ε' (Except ε α) := fun s =>
  Prog.bind (m s) fun r => .ret (.ok r.1, r.2)

/-- A call and, whatever becomes of it, another behind it: what a guard does when it is dropped. -/
def ensuring (m : Call R σ ε α) (cleanup : Call R σ ε Unit) : Call R σ ε α := do
  let result ← attempt m
  cleanup
  ofExcept result

/-- A call, and behind it another where it fails. -/
def onError (m : Call R σ ε α) (cleanup : Call R σ ε Unit) : Call R σ ε α := do
  match ← attempt m with
  | .ok a => pure a
  | .error e => do
      cleanup
      throw e

/-- `map_err`. -/
def mapError (g : ε → ε') (m : Call R σ ε α) : Call R σ ε' α := do
  match ← attempt m with
  | .ok a => pure a
  | .error e => throw (g e)

/-- A call on a part of the state. -/
def zoom {τ : Type} (part : τ → σ) (put : σ → τ → τ) (m : Call R σ ε α) : Call R τ ε α := fun t =>
  Prog.bind (m (part t)) fun r => .ret (r.1, put r.2 t)

/-- `wp` with one postcondition for a return and one for an error. -/
def wp (S : Surroundings R W) (m : Call R σ ε α) (Q : α → σ → W → Prop) (E : ε → σ → W → Prop)
    (s : σ) (w : W) : Prop :=
  (m s).wp S (fun r w => match r with
    | (.ok a, s) => Q a s w
    | (.error e, s) => E e s w) w

variable {m : Call R σ ε α} {f : α → Call R σ ε β} {Q : α → σ → W → Prop} {E : ε → σ → W → Prop}
  {s : σ} {w : W}

theorem wp_mono {Q' : α → σ → W → Prop} {E' : ε → σ → W → Prop} (h : m.wp S Q E s w)
    (hQ : ∀ a s w, Q a s w → Q' a s w) (hE : ∀ e s w, E e s w → E' e s w) : m.wp S Q' E' s w :=
  Prog.wp_mono h fun r w hr => match r, hr with
    | (.ok a, s), hr => hQ a s w hr
    | (.error e, s), hr => hE e s w hr

theorem wp_pure {a : α} : (pure a : Call R σ ε α).wp S Q E s w ↔ Q a s w := Iff.rfl

theorem wp_throw {e : ε} : (throw e : Call R σ ε α).wp S Q E s w ↔ E e s w := Iff.rfl

theorem wp_bind {Q : β → σ → W → Prop} (h : m.wp S (fun a s w => (f a).wp S Q E s w) E s w) :
    (m >>= f).wp S Q E s w :=
  Prog.wp_bind (Prog.wp_mono h fun r _ hr => match r, hr with
    | (.ok _, _), hr => hr
    | (.error _, _), hr => hr)

theorem wp_attempt {Q : Except ε α → σ → W → Prop} {E : ε' → σ → W → Prop}
    (h : m.wp S (fun a s w => Q (.ok a) s w) (fun e s w => Q (.error e) s w) s w) :
    (attempt m : Call R σ ε' (Except ε α)).wp S Q E s w :=
  Prog.wp_bind (Prog.wp_mono h fun r _ hr => match r, hr with
    | (.ok _, _), hr => hr
    | (.error _, _), hr => hr)

theorem wp_perform {o : O} {Q : R o → σ → W → Prop} {P : W → Prop} (hP : S.Stable P) (hw : P w)
    (ha : ∀ w, P w → S.allowed o w) (hd : ∀ w r w', P w → S.does o w r w' → Q r s w') :
    (perform o : Call R σ ε (R o)).wp S Q E s w := Prog.wp_op hP hw ha hd

theorem wp_ofExcept {x : Except ε α} (hQ : ∀ a, x = .ok a → Q a s w)
    (hE : ∀ e, x = .error e → E e s w) : (ofExcept x : Call R σ ε α).wp S Q E s w :=
  match x, hQ, hE with
  | .ok a, hQ, _ => hQ a rfl
  | .error e, _, hE => hE e rfl

theorem wp_get {Q : σ → σ → W → Prop} : (get : Call R σ ε σ).wp S Q E s w ↔ Q s s w := Iff.rfl

theorem wp_modify {f : σ → σ} {Q : Unit → σ → W → Prop} :
    (modify f : Call R σ ε Unit).wp S Q E s w ↔ Q () (f s) w := Iff.rfl

theorem wp_ensuring {cleanup : Call R σ ε Unit}
    (h : m.wp S (fun a s w => cleanup.wp S (fun _ s w => Q a s w) E s w)
      (fun e s w => cleanup.wp S (fun _ s w => E e s w) E s w) s w) :
    (m.ensuring cleanup).wp S Q E s w := by
  refine wp_bind (wp_attempt (wp_mono h (fun a s w hc => ?_) fun e s w hc => ?_))
  · exact wp_bind (wp_mono hc (fun _ s w ha => ha) fun _ _ _ he => he)
  · exact wp_bind (wp_mono hc (fun _ s w he => he) fun _ _ _ he => he)

theorem wp_onError {cleanup : Call R σ ε Unit}
    (h : m.wp S Q (fun e s w => cleanup.wp S (fun _ s w => E e s w) E s w) s w) :
    (m.onError cleanup).wp S Q E s w := by
  refine wp_bind (wp_attempt (wp_mono h (fun a s w ha => ha) fun e s w hc => ?_))
  exact wp_bind (wp_mono hc (fun _ s w he => he) fun _ _ _ he => he)

theorem wp_mapError {g : ε → ε'} {E : ε' → σ → W → Prop}
    (h : m.wp S Q (fun e s w => E (g e) s w) s w) : (mapError g m).wp S Q E s w :=
  wp_bind (wp_attempt (wp_mono h (fun _ _ _ ha => ha) fun _ _ _ he => he))

theorem wp_zoom {τ : Type} {part : τ → σ} {put : σ → τ → τ} {Q : α → τ → W → Prop}
    {E : ε → τ → W → Prop} {t : τ}
    (h : m.wp S (fun a s w => Q a (put s t) w) (fun e s w => E e (put s t) w) (part t) w) :
    (zoom part put m).wp S Q E t w :=
  Prog.wp_bind (Prog.wp_mono h fun r _ hr => match r, hr with
    | (.ok _, _), hr => hr
    | (.error _, _), hr => hr)

/-! ### Triples -/

/-- What a call guarantees of the world, whatever its own state is: from `P` it comes to `Q`, or
    fails in `E`. -/
def Triple (S : Surroundings R W) (m : Call R σ ε α) (P : W → Prop) (Q : α → W → Prop)
    (E : W → Prop) : Prop :=
  ∀ s w, P w → m.wp S (fun a _ w => Q a w) (fun _ _ w => E w) s w

namespace Triple

variable {P P' : W → Prop} {Q : α → W → Prop} {E E' : W → Prop}

theorem mono {Q' : α → W → Prop} (h : Triple S m P Q E) (hP : ∀ w, P' w → P w)
    (hQ : ∀ a w, Q a w → Q' a w) (hE : ∀ w, E w → E' w) : Triple S m P' Q' E' :=
  fun s w hw => wp_mono (h s w (hP w hw)) (fun a _ w => hQ a w) fun _ _ w => hE w

theorem pure {a : α} (h : ∀ w, P w → Q a w) : Triple S (pure a : Call R σ ε α) P Q E :=
  fun _ w hw => h w hw

theorem throw {e : ε} (h : ∀ w, P w → E w) : Triple S (throw e : Call R σ ε α) P Q E :=
  fun _ w hw => h w hw

theorem get : Triple S (get : Call R σ ε σ) P (fun _ => P) E := fun _ _ hw => hw

theorem modify {f : σ → σ} : Triple S (modify f : Call R σ ε Unit) P (fun _ => P) E :=
  fun _ _ hw => hw

theorem bind {Q : α → W → Prop} {Q' : β → W → Prop} (hm : Triple S m P Q E)
    (hf : ∀ a, Triple S (f a) (Q a) Q' E) : Triple S (m >>= f) P Q' E :=
  fun s w hw => wp_bind (wp_mono (hm s w hw) (fun a s w ha => hf a s w ha) fun _ _ _ he => he)

theorem ofExcept {x : Except ε α} (hQ : ∀ a w, x = .ok a → P w → Q a w)
    (hE : ∀ e w, x = .error e → P w → E w) : Triple S (ofExcept x : Call R σ ε α) P Q E :=
  fun _ w hw => wp_ofExcept (fun a ha => hQ a w ha hw) fun e he => hE e w he hw

theorem perform {o : O} {Q : R o → W → Prop} (hP : S.Stable P) (ha : ∀ w, P w → S.allowed o w)
    (hd : ∀ w r w', P w → S.does o w r w' → Q r w') :
    Triple S (perform o : Call R σ ε (R o)) P Q E :=
  fun _ _ hw => wp_perform hP hw ha hd

theorem attempt (h : Triple S m P Q E) {T : Except ε α → W → Prop}
    (hQ : ∀ a w, Q a w → T (.ok a) w) (hE : ∀ e w, E w → T (.error e) w) :
    Triple S (attempt m : Call R σ ε' (Except ε α)) P T E' :=
  fun s w hw => wp_attempt (wp_mono (h s w hw) (fun a _ w => hQ a w) fun e _ w => hE e w)

theorem onError {cleanup : Call R σ ε Unit} {F : W → Prop} (h : Triple S m P Q F)
    (hc : Triple S cleanup F (fun _ => E) E) : Triple S (m.onError cleanup) P Q E :=
  fun s w hw => wp_onError (wp_mono (h s w hw) (fun _ _ _ hq => hq) fun _ s w he => hc s w he)

theorem ensuring {Q' : α → W → Prop} {cleanup : Call R σ ε Unit} (h : Triple S m P Q' E')
    (hq : ∀ a, Triple S cleanup (Q' a) (fun _ => Q a) E)
    (hc : Triple S cleanup E' (fun _ => E) E) : Triple S (m.ensuring cleanup) P Q E :=
  fun s w hw => wp_ensuring (wp_mono (h s w hw) (fun a s w ha => hq a s w ha)
    fun _ s w he => hc s w he)

theorem mapError {g : ε → ε'} (h : Triple S m P Q E) : Triple S (mapError g m) P Q E :=
  fun s w hw => wp_mapError (h s w hw)

end Triple

end Call

/-! ## 4. Sessions -/

namespace Session

variable {O M σ W : Type} {R : O → Type}

/-- One step of a session: a step of the running call, or the next call once it has returned, if
    it may be made then. -/
inductive Step (S : Surroundings R W) (may : M → σ → Prop) (call : M → σ → Prog R σ) :
    Prog R σ × W → Prog R σ × W → Prop where
  | run {c c' : Prog R σ × W} (h : Prog.Step S c c') : Step S may call c c'
  | call (m : M) (s : σ) (w : W) (h : may m s) : Step S may call (.ret s, w) (call m s, w)

variable {S : Surroundings R W} {may : M → σ → Prop} {call : M → σ → Prog R σ}
  {Inv : σ → W → Prop} {I : W → Prop}

theorem step_wp (hI : S.Keeps I) (hInv : ∀ s, S.Stable (Inv s))
    (hcall : ∀ m s w, may m s → I w → Inv s w → (call m s).wp S Inv w) {c c' : Prog R σ × W}
    (hw : I c.2) (h : c.1.wp S Inv c.2) (hs : Step S may call c c') :
    I c'.2 ∧ c'.1.wp S Inv c'.2 := by
  cases hs with
  | run hs => exact ⟨Prog.step_keeps hI h hw hs, Prog.wp_step hInv h hs⟩
  | call m s w hmay => exact ⟨hw, hcall m s w hmay hw h⟩

/-- **An invariant that every call keeps holds in every session** whenever no call is running, with
    it whatever the calls guarantee on their way, and at every moment what the allowed operations
    keep. -/
theorem reachable_wp (hI : S.Keeps I) (hInv : ∀ s, S.Stable (Inv s))
    (hcall : ∀ m s w, may m s → I w → Inv s w → (call m s).wp S Inv w) {c c' : Prog R σ × W}
    (hw : I c.2) (h : c.1.wp S Inv c.2) (hs : ReflTransGen (Step S may call) c c') :
    I c'.2 ∧ c'.1.wp S Inv c'.2 := by
  induction hs with
  | refl => exact ⟨hw, h⟩
  | tail _ hs ih => exact step_wp hI hInv hcall ih.1 ih.2 hs

/-- The session of these calls, each played with what `act` says during it, up to one that may not
    be made or does not come to its end. -/
def play (may : M → σ → Bool) (call : M → σ → Prog R σ)
    (act : M → (o : O) → W → Option (R o × W)) : List M → σ → W → Option (σ × W)
  | [], s, w => some (s, w)
  | m :: ms, s, w =>
      if may m s then
        match (call m s).playSome (act m) w with
        | some (s, w) => play may call act ms s w
        | none => none
      else none

/-- **A played session is a session.** -/
theorem play_steps {may' : M → σ → Bool} {call : M → σ → Prog R σ}
    {act : M → (o : O) → W → Option (R o × W)} (hmay : ∀ m s, may' m s = true → may m s)
    (hact : ∀ m o w r w', act m o w = some (r, w') → S.does o w r w') {ms : List M} {s s' : σ}
    {w w' : W} (h : play may' call act ms s w = some (s', w')) :
    ReflTransGen (Step S may call) (.ret s, w) (.ret s', w') := by
  induction ms generalizing s w with
  | nil =>
      obtain ⟨rfl, rfl⟩ := Prod.mk.inj (Option.some.inj h)
      exact .refl
  | cons m ms ih =>
      unfold play at h
      split at h
      · rename_i hm
        split at h
        · rename_i s1 w1 hcall
          have hrun : ReflTransGen (Step S may call) (call m s, w) (.ret s1, w1) :=
            (Prog.playSome_steps (hact m) hcall).lift id fun _ _ => .run
          exact .head (.call m s w (hmay m s hm)) (hrun.trans (ih h))
        · cases h
      · cases h

end Session

end MisterMagik.Base
