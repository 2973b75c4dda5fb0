import Mathlib.Data.List.Basic

/-!
# The AMQP status publisher

Source: `internal/message/amqp/publisher.go` (`NewPublisher`, `Push`,
`connect`) and `internal/message/amqp/interface.go`.

The publisher runs alongside the broker and the watcher goroutines that
`connect` spawns, one for each connection it opens; a connection is named by
the number of the dial that opened it. A watcher is first starting (spawned,
before its `NotifyClose`), then waiting on its `closed` channel. When the
broker closes the connection, the waiting watcher receives the reason and
blocks sending it on the unbuffered `p.err`; `Push` receives from the blocked
senders in the order they blocked. A watcher that registers after its
connection closed finds its `closed` channel closed and ends without a
signal.

`Push` is one step between those of the broker and the watchers. Its calls
are answered by an oracle: each dial and `Channel()` call of `connect`, and
the broker's answers to `QueueDeclare` and `Publish` on an open connection.
On a channel of a closed connection both calls fail with the library's
`ErrClosed`; a call on a nil channel panics. The delay between dials is not
modelled.
-/

namespace Forge.Source.Amqp

/-- A connection, by the number of the dial that opened it. -/
abbrev ConnId := Nat

def connectionRetryLimit : Nat := 5

/-- One dial of `connect`: it fails, or it opens a connection whose
`Channel()` call fails with the given error or succeeds. -/
inductive Dial where
  | failed (message : String)
  | opened (channelError : Option String)
  deriving DecidableEq, Repr

/-- The fields of `publisher` that `Push` and `connect` use. -/
structure Publisher where
  uri : String
  queueName : String
  /-- `p.conn`: the connection of the last dial, nil when that dial failed -/
  conn : Option ConnId
  /-- `p.channel`: a channel of the connection it names, nil when `Channel()` failed -/
  channel : Option ConnId
  deriving DecidableEq, Repr

/-- The publisher with the broker's connections and the watchers. -/
structure World where
  publisher : Publisher
  /-- connections opened so far, numbered from 0 -/
  opened : Nat
  closed : List ConnId
  starting : List ConnId
  waiting : List ConnId
  /-- watchers blocked in `p.err <- reason`, in the order they blocked -/
  senders : List ConnId
  deriving DecidableEq, Repr

inductive ConnectError where
  /-- `rabbitmq connection retry limit reached: 5` -/
  | retryLimit
  /-- `failed to create rabbitmq channel to %q: …` -/
  | channel (uri : String) (cause : String)
  deriving DecidableEq, Repr

def ConnectError.message : ConnectError → String
  | .retryLimit => "rabbitmq connection retry limit reached: " ++ toString connectionRetryLimit
  | .channel uri cause => "failed to create rabbitmq channel to \"" ++ uri ++ "\": " ++ cause

/-- Open connection number `w.opened` and spawn its watcher; `p.channel` is
its channel unless `Channel()` failed. -/
def World.open (w : World) (channelError : Option String) : World :=
  { w with
    publisher := { w.publisher with
      conn := some w.opened
      channel := if channelError.isNone then some w.opened else none }
    opened := w.opened + 1
    starting := w.starting ++ [w.opened] }

/-- `connect`, with `attempts` dials left before the retry limit; a missing
answer is a failed dial. -/
def connect : Nat → List Dial → World → World × Except ConnectError Unit
  | 0, _, w => (w, .error .retryLimit)
  | attempts + 1, dials, w =>
    match dials.headD (.failed "") with
    | .failed _ => connect attempts dials.tail { w with publisher := { w.publisher with conn := none } }
    | .opened channelError =>
      (w.open channelError, match channelError with
        | none => .ok ()
        | some cause => .error (.channel w.publisher.uri cause))

def newPublisher (uri queueName : String) (dials : List Dial) : Except ConnectError World :=
  match connect connectionRetryLimit dials ⟨⟨uri, queueName, none, none⟩, 0, [], [], [], []⟩ with
  | (w, .ok ()) => .ok w
  | (_, .error err) => .error err

/-- What the broker answers to the calls of one `Push`. -/
structure PushAnswers where
  dials : List Dial
  /-- `QueueDeclare` on an open connection: the queue's name, or an error -/
  declare : Except String String
  publish : Except String Unit

/-- A call of `Push` on `p.channel`. -/
inductive Call where
  | queueDeclare (channel : Option ConnId) (queue : String)
  | publish (channel : Option ConnId) (routingKey : String) (body : List UInt8)
  deriving DecidableEq, Repr

def Call.channel : Call → Option ConnId
  | .queueDeclare channel _ => channel
  | .publish channel _ _ => channel

inductive PushResult where
  | ok
  | error (message : String)
  /-- a call on a nil channel -/
  | panic
  deriving DecidableEq, Repr

def errClosed : String := "Exception (504) Reason: \"channel/connection is not open\""

/-- The answer to a call on a channel of connection `c`. -/
def World.answer {α : Type} (w : World) (c : ConnId) (answer : Except String α) : Except String α :=
  if c ∈ w.closed then .error errClosed else answer

/-- `QueueDeclare` then `Publish` on `p.channel`. -/
def declareAndPublish (answers : PushAnswers) (data : List UInt8) (w : World) :
    List Call × PushResult :=
  let channel := w.publisher.channel
  let declare := Call.queueDeclare channel w.publisher.queueName
  match channel with
  | none => ([declare], .panic)
  | some c =>
    match w.answer c answers.declare with
    | .error cause => ([declare], .error ("failed to declare rabbitmq queue: " ++ cause))
    | .ok queue =>
      let calls := [declare, .publish channel queue data]
      match w.answer c answers.publish with
      | .error cause => (calls, .error ("failed to publish rabbitmq message: " ++ cause))
      | .ok () => (calls, .ok)

/-- The `select` of `Push`: receive from the first blocked watcher, if there
is one, and reconnect. -/
def reconnectOnSignal (dials : List Dial) (w : World) : World × Except ConnectError Unit :=
  match w.senders with
  | [] => (w, .ok ())
  | _ :: senders => connect connectionRetryLimit dials { w with senders := senders }

/-- `Push(obj)`, where `body` is what `json.Marshal(obj)` returns. -/
def push (answers : PushAnswers) (body : Except String (List UInt8)) (w : World) :
    World × List Call × PushResult :=
  let (w, reconnected) := reconnectOnSignal answers.dials w
  match reconnected with
  | .error err => (w, [], .error ("could not reconnect to rabbitmq: " ++ err.message))
  | .ok () =>
    match body with
    | .error cause => (w, [], .error ("cannot marshal rabbitmq event: " ++ cause))
    | .ok data => (w, declareAndPublish answers data w)

/-- The broker closes an open connection; its waiting watcher wakes and
blocks on `p.err`. -/
def World.brokerClose (w : World) (c : ConnId) : World :=
  if c < w.opened ∧ c ∉ w.closed then
    { w with
      closed := c :: w.closed
      waiting := w.waiting.erase c
      senders := if c ∈ w.waiting then w.senders ++ [c] else w.senders }
  else w

/-- A starting watcher calls `NotifyClose`; on a closed connection its
channel is closed at once and the watcher ends. -/
def World.register (w : World) (c : ConnId) : World :=
  if c ∈ w.starting then
    { w with
      starting := w.starting.erase c
      waiting := if c ∈ w.closed then w.waiting else w.waiting ++ [c] }
  else w

inductive Event where
  | push (answers : PushAnswers) (body : Except String (List UInt8))
  | brokerClose (conn : ConnId)
  | register (conn : ConnId)

/-- A `Push` as a run records it: the state it started from, its calls, and
its result. -/
structure PushRecord where
  start : World
  calls : List Call
  result : PushResult
  deriving DecidableEq, Repr

/-- Run the events in order; a panic ends the process. -/
def run : List Event → World → World × List PushRecord
  | [], w => (w, [])
  | .push answers body :: rest, w =>
    let (w', calls, result) := push answers body w
    if result = .panic then (w', [⟨w, calls, result⟩])
    else
      let (final, records) := run rest w'
      (final, ⟨w, calls, result⟩ :: records)
  | .brokerClose c :: rest, w => run rest (w.brokerClose c)
  | .register c :: rest, w => run rest (w.register c)

/-! ## What the steps do -/

theorem closed_connect :
    ∀ (attempts : Nat) (dials : List Dial) (w : World), (connect attempts dials w).1.closed = w.closed
  | 0, _, _ => rfl
  | attempts + 1, dials, w => by
    unfold connect
    split
    · exact closed_connect attempts dials.tail _
    · rfl

theorem opened_le_connect :
    ∀ (attempts : Nat) (dials : List Dial) (w : World), w.opened ≤ (connect attempts dials w).1.opened
  | 0, _, w => Nat.le_refl w.opened
  | attempts + 1, dials, w => by
    unfold connect
    split
    · exact opened_le_connect attempts dials.tail { w with publisher := { w.publisher with conn := none } }
    · exact Nat.le_succ w.opened

theorem channel_of_connect_ok :
    ∀ (attempts : Nat) (dials : List Dial) (w : World), (connect attempts dials w).2 = .ok () →
      (connect attempts dials w).1.publisher.channel = some w.opened
  | 0, _, _, connected => by simp [connect] at connected
  | attempts + 1, dials, w, connected => by
    unfold connect at connected ⊢
    split at connected
    · exact channel_of_connect_ok attempts dials.tail _ connected
    · rename_i channelError _
      cases channelError with
      | none => rfl
      | some cause => simp at connected

theorem connect_take : ∀ (attempts : Nat) (dials : List Dial) (w : World),
    connect attempts (dials.take attempts) w = connect attempts dials w
  | 0, _, _ => rfl
  | _ + 1, [], _ => rfl
  | attempts + 1, d :: ds, w => by
    rw [List.take_succ_cons]
    cases d with
    | failed message =>
      simp only [connect, List.headD_cons, List.tail_cons]
      exact connect_take attempts ds _
    | opened channelError => rfl

theorem connect_of_opened (channelError : Option String) (rest : List Dial) :
    ∀ (failures : List Dial) (attempts : Nat) (w : World), failures.length < attempts →
      (∀ d ∈ failures, ∃ message, d = .failed message) →
      connect attempts (failures ++ .opened channelError :: rest) w =
        (w.open channelError, match channelError with
          | none => .ok ()
          | some cause => .error (.channel w.publisher.uri cause))
  | [], attempts + 1, w, _, _ => rfl
  | d :: failures, attempts + 1, w, fewer, failed => by
    obtain ⟨message, rfl⟩ := failed d List.mem_cons_self
    simp only [List.cons_append, connect, List.headD_cons, List.tail_cons]
    rw [connect_of_opened channelError rest failures attempts _ (by simpa using fewer)
      fun d mem => failed d (List.mem_cons_of_mem _ mem)]
    rfl

/-- `connect` fails with the retry-limit error exactly when every dial it
may make fails; a missing answer is a failed dial. -/
theorem connect_eq_retryLimit_iff : ∀ (attempts : Nat) (dials : List Dial) (w : World),
    (connect attempts dials w).2 = .error .retryLimit ↔
      ∀ d ∈ dials.take attempts, ∃ message, d = .failed message
  | 0, dials, w => by simp [connect]
  | attempts + 1, [], w => by
    simp only [connect, List.headD_nil, List.tail_nil, List.take_nil, List.not_mem_nil,
      false_implies, implies_true, iff_true]
    exact (connect_eq_retryLimit_iff attempts [] _).mpr (by simp)
  | attempts + 1, d :: ds, w => by
    rw [List.take_succ_cons, List.forall_mem_cons]
    cases d with
    | failed message =>
      simp only [connect, List.headD_cons, List.tail_cons]
      rw [connect_eq_retryLimit_iff attempts ds]
      simp
    | opened channelError =>
      simp only [connect, List.headD_cons]
      cases channelError <;> simp

theorem closed_reconnectOnSignal (dials : List Dial) (w : World) :
    (reconnectOnSignal dials w).1.closed = w.closed := by
  unfold reconnectOnSignal
  split
  · rfl
  · exact closed_connect _ _ _

theorem opened_le_reconnectOnSignal (dials : List Dial) (w : World) :
    w.opened ≤ (reconnectOnSignal dials w).1.opened := by
  unfold reconnectOnSignal
  split
  · exact Nat.le_refl w.opened
  · rename_i senders _
    exact opened_le_connect connectionRetryLimit dials { w with senders := senders }

theorem channel_of_mem_declareAndPublish (answers : PushAnswers) (data : List UInt8) (w : World) :
    ∀ call ∈ (declareAndPublish answers data w).1, call.channel = w.publisher.channel := by
  intro call mem
  unfold declareAndPublish at mem
  dsimp only at mem
  split at mem
  · simp_all [Call.channel]
  · split at mem
    · simp_all [Call.channel]
    · split at mem <;>
      · simp only [List.mem_cons, List.not_mem_nil, or_false] at mem
        rcases mem with rfl | rfl <;> simp_all [Call.channel]

theorem world_push (answers : PushAnswers) (body : Except String (List UInt8)) (w : World) :
    (push answers body w).1 = (reconnectOnSignal answers.dials w).1 := by
  unfold push
  generalize reconnectOnSignal answers.dials w = reconnected
  obtain ⟨w', _ | _⟩ := reconnected
  · rfl
  · cases body <;> rfl

/-- A `Push` makes calls only after its reconnect succeeded, and makes them on
the channel the reconnect left. -/
theorem channel_of_mem_push (answers : PushAnswers) (body : Except String (List UInt8)) (w : World) :
    ∀ call ∈ (push answers body w).2.1, (reconnectOnSignal answers.dials w).2 = .ok () ∧
      call.channel = (reconnectOnSignal answers.dials w).1.publisher.channel := by
  intro call mem
  unfold push at mem
  generalize reconnectOnSignal answers.dials w = reconnected at mem ⊢
  obtain ⟨w', _ | _⟩ := reconnected
  · simp at mem
  · cases body with
    | error cause => simp at mem
    | ok data => exact ⟨rfl, channel_of_mem_declareAndPublish answers data w' call mem⟩

/-! ## Runs -/

/-- Every connection the broker closed had been opened. -/
def World.ClosedOpened (w : World) : Prop :=
  ∀ c ∈ w.closed, c < w.opened

theorem closedOpened_push (answers : PushAnswers) (body : Except String (List UInt8)) (w : World)
    (below : w.ClosedOpened) : (push answers body w).1.ClosedOpened := by
  intro c closedConn
  rw [world_push, closed_reconnectOnSignal] at closedConn
  rw [world_push]
  exact Nat.lt_of_lt_of_le (below c closedConn) (opened_le_reconnectOnSignal _ _)

theorem closedOpened_brokerClose (w : World) (c : ConnId) (below : w.ClosedOpened) :
    (w.brokerClose c).ClosedOpened := by
  unfold World.brokerClose
  split
  · rename_i open_
    intro c' closedConn
    rcases List.mem_cons.mp closedConn with rfl | earlier
    · exact open_.1
    · exact below c' earlier
  · exact below

theorem closedOpened_register (w : World) (c : ConnId) (below : w.ClosedOpened) :
    (w.register c).ClosedOpened := by
  unfold World.register
  split
  · exact below
  · exact below

theorem closedOpened_newPublisher {uri queueName : String} {dials : List Dial} {w : World}
    (created : newPublisher uri queueName dials = .ok w) : w.ClosedOpened := by
  unfold newPublisher at created
  split at created
  · rename_i connected
    cases created
    intro c closedConn
    have none_closed : w.closed = [] := by
      have kept := closed_connect connectionRetryLimit dials ⟨⟨uri, queueName, none, none⟩, 0, [], [], [], []⟩
      rwa [connected] at kept
    simp [none_closed] at closedConn
  · cases created

/-- The induction rule for runs: an invariant that every event keeps holds at
the start of every recorded `Push`, and each record is what `push` returned
from its start. -/
theorem records_of_invariant (inv : World → Prop)
    (push_inv : ∀ answers body w, inv w → inv (push answers body w).1)
    (close_inv : ∀ w c, inv w → inv (w.brokerClose c))
    (register_inv : ∀ w c, inv w → inv (w.register c)) :
    ∀ (events : List Event) (w : World), inv w → ∀ record ∈ (run events w).2,
      inv record.start ∧ ∃ answers body, (push answers body record.start).2 = (record.calls, record.result)
  | [], _, _, record, recorded => by simp [run] at recorded
  | .brokerClose c :: rest, w, holds, record, recorded =>
    records_of_invariant inv push_inv close_inv register_inv rest _ (close_inv w c holds) record recorded
  | .register c :: rest, w, holds, record, recorded =>
    records_of_invariant inv push_inv close_inv register_inv rest _ (register_inv w c holds) record recorded
  | .push answers body :: rest, w, holds, record, recorded => by
    have next := push_inv answers body w holds
    unfold run at recorded
    generalize pushed : push answers body w = result at recorded
    obtain ⟨w', calls, outcome⟩ := result
    rw [pushed] at next
    have own : inv w ∧ ∃ answers body, (push answers body w).2 = (calls, outcome) :=
      ⟨holds, answers, body, by rw [pushed]⟩
    dsimp only at recorded
    split at recorded
    · rcases List.mem_singleton.mp recorded with rfl
      exact own
    · generalize ran : run rest w' = later at recorded
      obtain ⟨final, records⟩ := later
      rcases List.mem_cons.mp recorded with rfl | earlier
      · exact own
      · exact records_of_invariant inv push_inv close_inv register_inv rest w' next record
          (by rw [ran]; exact earlier)

end Forge.Source.Amqp
