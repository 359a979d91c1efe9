/-
  File:      MisterMagik/Input/Mailbox.lean
  Subject:   The input mailbox (`input_hub.rs`): what the capture thread publishes and what the
             launcher drains.

  * `publishProxy`, `markProxyOpen`, `markProxyLost` -- the capture thread;
  * `drain` -- the launcher;
  * `inputSystem` -- both, with a router that is given every drained batch.
-/
import MisterMagik.Base.Machine
import MisterMagik.Input.Gate

namespace MisterMagik.Input

open MisterMagik.Base

/-! ## 1. The mailbox -/

def JOURNAL_CAPACITY : Nat := 1024

structure InputReaderEventEvidence where
  pollReturnedAtUs : UInt64
  pollThreadCpuUs : UInt64
  pollCpu : Option Int32
  readStartedAtUs : UInt64
  capturedThreadCpuUs : UInt64
  capturedCpu : Option Int32
  pollRuntimeDeltaUs : Option UInt64
  pollRunDelayDeltaUs : Option UInt64
  pollTimesliceDelta : Option UInt64
  deriving DecidableEq

structure ProxyEventMetadata where
  sequence : Option UInt32
  kernelAtUs : Option UInt64
  reader : Option InputReaderEventEvidence
  deriving DecidableEq

structure MailboxEvent where
  event : InputEvent
  publishedAtUs : UInt64
  proxySequence : Option UInt32
  proxyKernelAtUs : Option UInt64
  reader : Option InputReaderEventEvidence
  deriving DecidableEq

structure InputPublication where
  sequence : UInt64
  publishedAtUs : UInt64
  proxySequence : Option UInt32
  proxyKernelAtUs : Option UInt64
  reader : Option InputReaderEventEvidence
  deriving DecidableEq

structure MailboxState where
  sourceEpoch : SourceEpoch
  nextSequence : UInt64
  events : List MailboxEvent
  held : HeldState
  topology : InputTopology
  health : InputHealth
  wakeGeneration : UInt64
  deriving DecidableEq

structure DrainedInput where
  batch : InputBatch
  publications : List InputPublication
  observation : UInt64
  deriving DecidableEq

namespace MailboxState

/-- `MailboxState::default`. -/
def initial : MailboxState :=
  { sourceEpoch := 0
    nextSequence := 0
    events := []
    held := .neutral
    topology := ⟨[], 0⟩
    health := .initial
    wakeGeneration := 0 }

variable (self : MailboxState)

def noteChange : MailboxState := { self with wakeGeneration := self.wakeGeneration + 1 }

/-- `publish_proxy`, at the time `publishedAtUs`. -/
def publishProxy (pending : PendingInputEvent) (proxy : ProxyEventMetadata)
    (publishedAtUs : UInt64) : Bool × MailboxState :=
  if JOURNAL_CAPACITY ≤ self.events.length then
    (false, { self with
      health := { self.health with
        overflowCount := saturatingAdd self.health.overflowCount 1
        desyncCount := saturatingAdd self.health.desyncCount 1
        protocol := .unhealthy
        queueDepth := 0 }
      events := []
      held := .neutral
      sourceEpoch := saturatingAdd self.sourceEpoch 1 }.noteChange)
  else
    let self := { self with nextSequence := max (saturatingAdd self.nextSequence 1) 1 }
    let event := pending.withSequence self.nextSequence
    match self.held.applyEvent event with
    | .error _ =>
        (false, { self with
          health := { self.health with
            desyncCount := saturatingAdd self.health.desyncCount 1
            protocol := .unhealthy } }.noteChange)
    | .ok held =>
        let events := self.events ++
          [⟨event, publishedAtUs, proxy.sequence, proxy.kernelAtUs, proxy.reader⟩]
        (true, { self with
          held
          events
          health := { self.health with
            queueDepth := events.length
            queueHighWater := max self.health.queueHighWater events.length } }.noteChange)

def markProxyOpen (generation : UInt64) (path : String) : MailboxState :=
  { self with
    sourceEpoch := max (saturatingAdd self.sourceEpoch 1) 1
    health := { self.health with protocol := .proxyV2, proxyGeneration := generation }
    topology := ⟨[⟨path, generation⟩], saturatingAdd self.topology.revision 1⟩ }.noteChange

def markProxyLost : MailboxState :=
  { self with
    health := { self.health with
      protocol := .unhealthy
      desyncCount := saturatingAdd self.health.desyncCount 1
      queueDepth := 0 }
    events := []
    held := .neutral
    topology := ⟨[], saturatingAdd self.topology.revision 1⟩
    sourceEpoch := max (saturatingAdd self.sourceEpoch 1) 1 }.noteChange

/-- The published events, without what the mailbox knows of their way. -/
def queue : List InputEvent := self.events.map (·.event)

def drained : MailboxState :=
  { self with events := [], health := { self.health with queueDepth := 0 } }

def batch : InputBatch :=
  { sourceEpoch := self.sourceEpoch
    firstSequence := self.queue.head?.map (·.sequence)
    lastSequence := self.queue.getLast?.map (·.sequence)
    events := self.queue
    heldAfterLast := self.held
    topology := self.topology
    health := self.drained.health }

def drain : DrainedInput × MailboxState :=
  ({ batch := self.batch
     publications := self.events.map fun published =>
       ⟨published.event.sequence, published.publishedAtUs, published.proxySequence,
         published.proxyKernelAtUs, published.reader⟩
     observation := self.wakeGeneration }, self.drained)

/-! ### What publishing does -/

/-- The number of the next event. -/
def nextNumber : UInt64 := saturatingAdd self.nextSequence 1

theorem max_saturatingAdd_one (a : UInt64) : max (saturatingAdd a 1) 1 = saturatingAdd a 1 := by
  have h := toNat_saturatingAdd a 1
  show (if saturatingAdd a 1 ≤ 1 then 1 else saturatingAdd a 1) = _
  split
  · rename_i hle
    have hle : (saturatingAdd a 1).toNat ≤ 1 := UInt64.le_iff_toNat_le.mp hle
    apply UInt64.toNat_inj.mp
    show 1 = _
    omega
  · rfl

/-- What `publish_proxy` can do. -/
inductive Published (m : MailboxState) (pending : PendingInputEvent) :
    Bool × MailboxState → Prop where
  | overflow {m' : MailboxState} (hp : m'.health.protocol = .unhealthy)
      (he : m'.sourceEpoch = saturatingAdd m.sourceEpoch 1) (hq : m'.queue = []) :
      Published m pending (false, m')
  | refused {m' : MailboxState} (hp : m'.health.protocol = .unhealthy)
      (he : m'.sourceEpoch = m.sourceEpoch) (hq : m'.queue = m.queue) :
      Published m pending (false, m')
  | taken {m' : MailboxState}
      (hheld : m.held.applyEvent (pending.withSequence m.nextNumber) = .ok m'.held)
      (hq : m'.queue = m.queue ++ [pending.withSequence m.nextNumber])
      (hn : m'.nextSequence = m.nextNumber) (he : m'.sourceEpoch = m.sourceEpoch)
      (hp : m'.health.protocol = m.health.protocol)
      (ho : m'.health.overflowCount = m.health.overflowCount)
      (hd : m'.health.desyncCount = m.health.desyncCount) : Published m pending (true, m')

theorem publishProxy_cases (m : MailboxState) (pending : PendingInputEvent)
    (proxy : ProxyEventMetadata) (publishedAtUs : UInt64) :
    Published m pending (m.publishProxy pending proxy publishedAtUs) := by
  unfold publishProxy
  split
  · exact .overflow rfl rfl rfl
  · dsimp only
    rw [max_saturatingAdd_one]
    split
    · exact .refused rfl rfl rfl
    · rename_i held hheld
      refine .taken hheld ?_ rfl rfl rfl rfl rfl
      simp [queue, noteChange, nextNumber]

end MailboxState

/-! ## 2. Mailbox and router -/

structure InputSystem where
  mailbox : MailboxState
  router : InputRouter

inductive InputStep where
  | publish (pending : PendingInputEvent) (proxy : ProxyEventMetadata) (publishedAtUs : UInt64)
  | proxyOpen (generation : UInt64) (path : String)
  | proxyLost
  | drain

namespace InputSystem

def initial (focus : FocusRequest) : InputSystem := ⟨.initial, .new focus⟩

variable (s : InputSystem)

/-- What the gate says to the batch the launcher would drain. -/
def gate : Except InputFault Unit × InputRouter := s.router.acceptBatch s.mailbox.drain.1.batch

def next : InputStep → InputSystem
  | .publish pending proxy publishedAtUs =>
      { s with mailbox := (s.mailbox.publishProxy pending proxy publishedAtUs).2 }
  | .proxyOpen generation path => { s with mailbox := s.mailbox.markProxyOpen generation path }
  | .proxyLost => { s with mailbox := s.mailbox.markProxyLost }
  | .drain => ⟨s.mailbox.drain.2, s.gate.2⟩

/-- The step is an overflow, a publication error, or the proxy lost or opened. -/
def Faults : InputStep → Prop
  | .publish pending proxy publishedAtUs =>
      (s.mailbox.publishProxy pending proxy publishedAtUs).1 = false
  | .proxyOpen _ _ => True
  | .proxyLost => True
  | .drain => False

instance (step : InputStep) : Decidable (s.Faults step) := by
  cases step <;> unfold Faults <;> infer_instance

/-- The batch the launcher would drain is accepted, without events and with nothing held. -/
def Recovers : Prop :=
  s.gate.1 = .ok () ∧ s.mailbox.queue = [] ∧ s.mailbox.held = .neutral

instance : Decidable s.Recovers := inferInstanceAs (Decidable (_ ∧ _))

end InputSystem

/-- **Mailbox and router**, from the start of the launcher. -/
def inputSystem (focus : FocusRequest) : Machine InputSystem InputStep :=
  .ofNext (· = .initial focus) InputSystem.next

end MisterMagik.Input
