import Forge.Source.Amqp

/-!
# The publisher after its connection closed

A `Push` that starts after the publisher's connection has closed may call
`QueueDeclare` on a channel of that connection, after an earlier reconnect
failed (`publisher_uses_dead_channel`). The only trigger for re-dialling is
the one signal the connection's watcher sends on `p.err`. A `Push` that
receives it and whose five dials all fail returns an error, and leaves
`p.channel` on the closed connection with no watcher left to signal again.
The next `Push` finds no signal and declares the queue on the closed
connection's channel.

What does hold: a `Push` that does receive the signal makes its calls on the
connection its reconnect just opened, which is open
(`signalled_push_uses_new_connection`), by an invariant of every run (the
broker closes only connections that were opened).
-/

namespace Forge.Guarantees.PublisherReconnect
open Forge.Source.Amqp

/-- The publisher's channel is nil or belongs to a connection the broker closed. -/
def ChannelDead (w : World) : Prop :=
  w.publisher.channel = none ∨ ∃ c, w.publisher.channel = some c ∧ c ∈ w.closed

/-- Over every run from a created publisher, a `Push` that starts with a dead
channel makes no call on that channel and none on a nil one. -/
def NeverPublishesOnDead : Prop :=
  ∀ (uri queueName : String) (dials : List Dial) (w₀ : World) (events : List Event),
    newPublisher uri queueName dials = .ok w₀ →
    ∀ record ∈ (run events w₀).2, ChannelDead record.start →
      ∀ call ∈ record.calls, call.channel ≠ record.start.publisher.channel ∧ call.channel ≠ none

def refused : PushAnswers :=
  ⟨List.replicate connectionRetryLimit (.failed "dial tcp: connect: connection refused"),
    .ok "forge", .ok ()⟩

def answering : PushAnswers := ⟨[], .ok "forge", .ok ()⟩

/-- The watcher registers, the broker closes the connection, a `Push`
consumes the signal and fails to reconnect, and a second `Push` follows. -/
def lostSignal : List Event :=
  [.register 0, .brokerClose 0, .push refused (.ok [110, 117, 108, 108]),
    .push answering (.ok [110, 117, 108, 108])]

/-- The second `Push` starts on the closed connection 0's channel and
declares the queue on it. -/
theorem lost_signal_declares_on_closed :
    ∃ w₀, newPublisher "amqp://rabbitmq:5672" "forge" [.opened none] = .ok w₀ ∧
      ∃ record ∈ (run lostSignal w₀).2, record.start.publisher.channel = some 0 ∧
        0 ∈ record.start.closed ∧ Call.queueDeclare (some 0) "forge" ∈ record.calls := by
  refine ⟨_, rfl, ?_⟩
  decide +kernel

theorem publisher_uses_dead_channel : ¬ NeverPublishesOnDead := by
  intro never
  obtain ⟨w₀, created, record, recorded, onChannel, isClosed, declared⟩ :=
    lost_signal_declares_on_closed
  have respected := never _ _ _ w₀ lostSignal created record recorded
    (.inr ⟨0, onChannel, isClosed⟩) _ declared
  exact respected.1 (by simp [Call.channel, onChannel])

/-! ## What does hold -/

/-- In every run from a created publisher, a `Push` that starts with a close
signal pending makes its calls only on the channel of the connection its
reconnect opened, numbered after every connection before it, which the
broker has not closed. -/
theorem signalled_push_uses_new_connection (uri queueName : String) (dials : List Dial)
    (w₀ : World) (events : List Event) (created : newPublisher uri queueName dials = .ok w₀) :
    ∀ record ∈ (run events w₀).2, record.start.senders ≠ [] →
      ∀ call ∈ record.calls,
        call.channel = some record.start.opened ∧ record.start.opened ∉ record.start.closed := by
  intro record recorded signalled call called
  obtain ⟨below, answers, body, pushed⟩ :=
    records_of_invariant World.ClosedOpened closedOpened_push closedOpened_brokerClose
      closedOpened_register events w₀ (closedOpened_newPublisher created) record recorded
  have fresh : record.start.opened ∉ record.start.closed :=
    fun closedConn => Nat.lt_irrefl _ (below _ closedConn)
  have made : call ∈ (push answers body record.start).2.1 := by
    rw [pushed]
    exact called
  obtain ⟨reconnected, onChannel⟩ := channel_of_mem_push answers body record.start call made
  obtain ⟨sender, senders, pending⟩ := List.exists_cons_of_ne_nil signalled
  unfold reconnectOnSignal at reconnected onChannel
  rw [pending] at reconnected onChannel
  exact ⟨onChannel.trans (channel_of_connect_ok _ _ _ reconnected), fresh⟩

def reconnecting : List Event :=
  [.register 0, .brokerClose 0, .push ⟨[.opened none], .ok "forge", .ok ()⟩ (.ok [110, 117, 108, 108])]

theorem reconnecting_push_uses_connection_one :
    ∃ w₀, newPublisher "amqp://rabbitmq:5672" "forge" [.opened none] = .ok w₀ ∧
      ∀ record ∈ (run reconnecting w₀).2, record.start.senders ≠ [] →
        ∀ call ∈ record.calls,
          call.channel = some record.start.opened ∧ record.start.opened ∉ record.start.closed :=
  ⟨_, rfl, signalled_push_uses_new_connection "amqp://rabbitmq:5672" "forge" [.opened none] _
    reconnecting rfl⟩

example : ((run reconnecting ⟨⟨"amqp://rabbitmq:5672", "forge", some 0, some 0⟩, 1, [], [0], [], []⟩).2.map
    fun record => record.calls) = [[.queueDeclare (some 1) "forge", .publish (some 1) "forge" [110, 117, 108, 108]]] := by
  decide

/-! ## The bounded retries of `connect` -/

/-- `connect` reads at most `connectionRetryLimit` answers of the dialer,
stops at the first dial that opens a connection and returns nil exactly when
that connection's `Channel()` succeeded, its error otherwise, and fails with
the retry-limit error exactly when all `connectionRetryLimit` dials failed. -/
theorem connect_retries_bounded (dials : List Dial) (w : World) :
    connect connectionRetryLimit (dials.take connectionRetryLimit) w = connect connectionRetryLimit dials w ∧
      (∀ failures channelError rest, failures.length < connectionRetryLimit →
        (∀ d ∈ failures, ∃ message, d = .failed message) → dials = failures ++ .opened channelError :: rest →
        connect connectionRetryLimit dials w =
          (w.open channelError, match channelError with
            | none => .ok ()
            | some cause => .error (.channel w.publisher.uri cause))) ∧
      ((connect connectionRetryLimit dials w).2 = .error .retryLimit ↔
        ∀ d ∈ dials.take connectionRetryLimit, ∃ message, d = .failed message) := by
  refine ⟨connect_take _ dials w, ?_, connect_eq_retryLimit_iff _ dials w⟩
  rintro failures channelError rest fewer failed rfl
  exact connect_of_opened channelError rest failures _ w fewer failed

def undialled : World := ⟨⟨"amqp://rabbitmq:5672", "forge", none, none⟩, 0, [], [], [], []⟩

theorem third_dial_connects :
    connect connectionRetryLimit [.failed "refused", .failed "refused", .opened none] undialled =
        (undialled.open none, .ok ()) ∧
      (connect connectionRetryLimit (List.replicate 5 (.failed "refused")) undialled).2 = .error .retryLimit :=
  ⟨(connect_retries_bounded _ undialled).2.1 [.failed "refused", .failed "refused"] none [] (by decide)
      (by simp) rfl,
    (connect_retries_bounded (List.replicate 5 (.failed "refused")) undialled).2.2.mpr
      fun _ mem => ⟨"refused", List.eq_of_mem_replicate (List.mem_of_mem_take mem)⟩⟩

end Forge.Guarantees.PublisherReconnect
