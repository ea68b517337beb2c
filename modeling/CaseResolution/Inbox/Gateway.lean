import CaseResolution.Inbox.System

/-!
This module contains the deliveries together with the provider their drafts are created at. The claim of a
delivery, the call that creates its draft, the lookup of a reconciliation and the recording of each result
are steps of their own, and a call may produce its draft long after the worker has stopped to wait for it.
-/

namespace CaseResolution

open Guard

/--
A call of `create_reply_draft`. Whether it makes a draft is open until the provider is done with it.
-/
structure DraftCreate where
  task : Nat
  deliveryId : Nat
  produced : Option Bool
deriving DecidableEq

/--
How far a reconciliation is. Where it was answered, so many calls had begun by then.
-/
inductive LookupState where
  | waiting
  | answered (result : Option DraftLookupResult) (creates : Nat)
  | recorded

structure PendingLookup where
  actor : ActorContext
  deliveryId : Nat
  caseId : Nat
  state : LookupState

/--
The inbox with the calls at the provider, the reconciliations and the deliveries whose worker is done.
-/
structure DraftWorld where
  desk : InboxDesk
  creates : List DraftCreate
  lookups : List PendingLookup
  ended : List Nat

inductive DraftEvent where
  | command (command : InboxCommand)
  | denyAccess (now : Instant) (task : Nat)
  | create (task : Nat)
  | settle (call : Nat) (produced : Bool)
  | recordReceipt (now : Instant) (task : Nat) (receipt : DraftReceipt)
  | recordFailure (now : Instant) (task : Nat)
  | reconcile (now : Instant) (actor : ActorContext) (deliveryId : Nat)
  | lookup (reconciliation : Nat) (result : Option DraftLookupResult)
  | recordLookup (now : Instant) (reconciliation : Nat)

/--
The commands a delivery or a reconciliation issues after its first transaction.
-/
def InboxCommand.drivesDelivery : InboxCommand → Bool
  | .createReplyDraft _ | .completeDelivery .. | .failDelivery .. | .reconcileDelivery .. => true
  | _ => false

namespace DraftWorld

def hasCreated (w : DraftWorld) (task : Nat) : Bool :=
  w.creates.any fun create => create.task = task

def pendingLookup (w : DraftWorld) (reconciliation : Nat) : Except Error PendingLookup :=
  orThrow w.lookups[reconciliation]? (.lookupError "The reconciliation was not found.")

def setLookup (w : DraftWorld) (reconciliation : Nat) (lookup : PendingLookup) : DraftWorld :=
  { w with lookups := w.lookups.set reconciliation lookup }

variable [Digest]

/--
The worker is done with its delivery. A write that is refused ends it as well.
-/
def finish (w : DraftWorld) (task : Nat) (command : InboxCommand)
    : Except Error (DraftWorld × InboxOutput) := do
  ensure (task ∉ w.ended) (.lookupError "The delivery task is done.")
  pure ({ w with desk := inboxService.next w.desk command, ended := task :: w.ended }, .done)

def create (w : DraftWorld) (task : Nat) : Except Error (DraftWorld × InboxOutput) := do
  ensure (¬ w.hasCreated task ∧ task ∉ w.ended) (.lookupError "The delivery task has made its call.")
  let delivery ← w.desk.pendingDelivery task
  let (desk, output) ← inboxService.step w.desk (.createReplyDraft task)
  pure ({ w with
    desk, creates := w.creates ++ [{ task, deliveryId := delivery.deliveryId, produced := none }] },
    output)

def settle (w : DraftWorld) (call : Nat) (produced : Bool)
    : Except Error (DraftWorld × InboxOutput) := do
  let create ← orThrow w.creates[call]? (.lookupError "The call was not found.")
  ensure (create.produced = none) (.lookupError "The call is settled.")
  pure ({ w with creates := w.creates.set call { create with produced := some produced } }, .done)

def reconcile (w : DraftWorld) (now : Instant) (actor : ActorContext) (deliveryId : Nat)
    : Except Error (DraftWorld × InboxOutput) := do
  requirePermission actor .caseManage
  match ← w.desk.inbox.deliveryToReconcile now deliveryId with
  | none => pure (w, .done)
  | some delivery =>
    pure ({ w with
      lookups := w.lookups ++ [{ actor, deliveryId, caseId := delivery.caseId, state := .waiting }] },
      .done)

/--
The provider answers, or it cannot be asked.
-/
def lookup (w : DraftWorld) (reconciliation : Nat) (result : Option DraftLookupResult)
    : Except Error (DraftWorld × InboxOutput) := do
  let lookup ← w.pendingLookup reconciliation
  match lookup.state with
  | .waiting =>
    let _ ← w.desk.inbox.replyContext lookup.caseId
    pure (w.setLookup reconciliation { lookup with state := .answered result w.creates.length }, .done)
  | _ => throw (.lookupError "The reconciliation has its answer.")

def recordLookup (w : DraftWorld) (now : Instant) (reconciliation : Nat)
    : Except Error (DraftWorld × InboxOutput) := do
  let lookup ← w.pendingLookup reconciliation
  match lookup.state with
  | .answered result _ =>
    let desk := inboxService.next w.desk
      (.reconcileDelivery now lookup.actor lookup.deliveryId result)
    pure ({ w with desk }.setLookup reconciliation { lookup with state := .recorded }, .done)
  | _ => throw (.lookupError "The reconciliation has no answer to record.")

def step (w : DraftWorld) : DraftEvent → Except Error (DraftWorld × InboxOutput)
  | .command command => do
    ensure (command.drivesDelivery = false) (.lookupError "The command belongs to a delivery.")
    let (desk, output) ← inboxService.step w.desk command
    pure ({ w with desk }, output)
  | .denyAccess now task => do
    ensure (¬ w.hasCreated task) (.lookupError "The delivery task has made its call.")
    w.finish task (.failDelivery now task false)
  | .create task => w.create task
  | .settle call produced => w.settle call produced
  | .recordReceipt now task receipt => do
    ensure (w.hasCreated task) (.lookupError "The delivery task has made no call.")
    w.finish task (.completeDelivery now task receipt)
  | .recordFailure now task => do
    ensure (w.hasCreated task) (.lookupError "The delivery task has made no call.")
    w.finish task (.failDelivery now task true)
  | .reconcile now actor deliveryId => w.reconcile now actor deliveryId
  | .lookup reconciliation result => w.lookup reconciliation result
  | .recordLookup now reconciliation => w.recordLookup now reconciliation

end DraftWorld

def draftService [Digest] : Machine DraftWorld DraftEvent Error InboxOutput where
  step := DraftWorld.step

namespace DraftWorld

/--
A lookup reports a terminal absence only when no draft of the delivery exists and no call that has begun can
still make one.
-/
def Truthful (w : DraftWorld) : DraftEvent → Prop
  | .lookup reconciliation (some result) =>
    result.absenceIsTerminal = true → ∀ lookup, w.lookups[reconciliation]? = some lookup →
      ∀ create ∈ w.creates, create.deliveryId = lookup.deliveryId → create.produced = some false
  | _ => True

/--
The delivery was not started again since the task was claimed.
-/
def Last (w : DraftWorld) (task deliveryId : Nat) : Prop :=
  ∀ (later : Nat) (other : PendingDelivery), task < later → w.desk.deliveries[later]? = some other →
    other.deliveryId ≠ deliveryId

/--
A draft is created by the worker the delivery was started for last, while no absence is recorded. A failure
before the call is recorded by that worker too, if the delivery runs under its name. And when an absence is
recorded, no call that began after the lookup has made a draft or may still make one.
-/
def Timely (w : DraftWorld) (event : DraftEvent) : Prop :=
  match event with
  | .create task => ∀ pending delivery, w.desk.deliveries[task]? = some pending →
    w.desk.inbox.deliveries[pending.deliveryId]? = some delivery →
    w.Last task pending.deliveryId ∧ delivery.status ≠ .failedSafe
  | .denyAccess now task => ∀ pending delivery, w.desk.deliveries[task]? = some pending →
    w.desk.inbox.deliveries[pending.deliveryId]? = some delivery →
    delivery.requireTransitionOwner now (some pending.workerId) = .ok () →
    w.Last task pending.deliveryId
  | .recordLookup now reconciliation => ∀ lookup result creates delivery,
    w.lookups[reconciliation]? = some lookup → lookup.state = .answered (some result) creates →
    result.absenceIsTerminal = true →
    w.desk.inbox.deliveries[lookup.deliveryId]? = some delivery →
    delivery.requireTransitionOwner now none = .ok () →
    ∀ create ∈ w.creates.drop creates, create.deliveryId = lookup.deliveryId →
      create.produced = some false
  | _ => True

end DraftWorld

end CaseResolution
