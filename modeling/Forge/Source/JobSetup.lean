import Forge.Source.Plugins
import Forge.Source.Amqp
import Forge.Lib.Threads

/-!
# Setting up and tearing down a build job

Source: `internal/buildjob/buildjob.go` (`New`, `Cleanup`),
`internal/message/message.go` (`NewProducer`), `internal/builder/builder.go`
with `embedded.NewDriver`, and the `build` command of `cmd/build.go`.

`New` loads the Kubernetes configuration and creates the two API clients, the
message producer when broker options are given, the preparer plugins and the
image builder, in that order, and returns at the first failure. The
configuration, the clients and the BuildKit client are oracles; the producer
is `amqp.NewPublisher`, whose `connect` opens a connection at the first dial
that succeeds and keeps it open when `Channel()` then fails; the plugins are
`loadPlugins`.

What the job holds outside the process are its resources: the producer's
AMQP connection and the plugins' processes. A run of the command is a list of
events: a resource acquired or released, `Run` returning, the signal
received, the process exiting. `Cleanup` runs the steps `New` registered:
closing the producer, then killing the plugins in order.

The `build` command registers for SIGINT and SIGTERM, calls `New` (a failure
panics), defers `Cleanup(false)`, starts a goroutine that waits for a signal
and then runs `Cleanup(true)` and `os.Exit(0)`, and calls `Run`; a failure
of `Run` panics, which runs the deferred call and exits with status 2. `Run`
is one step. From the goroutine's start, its steps and the main goroutine's
interleave in any way, up to whichever exit comes first (`Lib.Threads`).
-/

namespace Forge.Source.JobSetup
open Forge.Source.Plugins Forge.Source.Amqp Forge.Lib.Walk Forge.Lib.Threads Forge.Lib.Strings

/-! ## `New` -/

/-- `message.Options`. -/
structure MessageOptions where
  broker : String
  amqpURI : String
  amqpQueue : String
  deriving DecidableEq, Repr

def amqpBroker : String := "amqp"

/-- The publisher `NewPublisher` starts from. -/
def publisherStart (uri queueName : String) : World :=
  ⟨⟨uri, queueName, none, none⟩, 0, [], [], [], []⟩

theorem newPublisher_eq (uri queueName : String) (dials : List Dial) :
    newPublisher uri queueName dials =
      match connect connectionRetryLimit dials (publisherStart uri queueName) with
      | (w, .ok ()) => .ok w
      | (_, .error err) => .error err :=
  rfl

/-- `message.NewProducer`, with whether it left a connection open. -/
def newProducer (opts : MessageOptions) (dials : List Dial) : Bool × Except String Unit :=
  if opts.broker = amqpBroker then
    let (w, connected) := connect connectionRetryLimit dials (publisherStart opts.amqpURI opts.amqpQueue)
    (w.opened ≠ 0, match connected with
      | .ok () => .ok ()
      | .error err => .error err.message)
  else (false, .error (opts.broker ++ " is not supported"))

/-- What the job holds outside its process. -/
inductive Resource where
  /-- the producer's AMQP connection -/
  | producer
  /-- a plugin's process, by number -/
  | process (n : Nat)
  deriving DecidableEq, Repr

/-- An event of a run of the `build` command. -/
inductive Event where
  | acquire (r : Resource)
  | release (r : Resource)
  /-- `Run` returns, with an error or not -/
  | run (failed : Bool)
  /-- the signal goroutine receives from `stopper` -/
  | receive
  | exit (status : Nat)
  deriving DecidableEq, Repr

def Event.isExit : Event → Bool
  | .exit _ => true
  | _ => false

/-- The fields of `buildjob.Config` that `New` reads. -/
structure Config where
  brokerOpts : Option MessageOptions
  preparerPluginsPath : String

/-- What `New` meets: the Kubernetes configuration and clients, the broker's
answers to the dials, the plugins path as the walk finds it and what each
launch does, and the BuildKit client of `NewDriver`. -/
structure Outside where
  loadKubernetesConfig : Except String Unit
  kubernetesClient : Except String Unit
  forgeClient : Except String Unit
  dials : List Dial
  pluginsRoot : Option Tree
  launch : String → Launch
  buildkitClient : Except String Unit

/-- The fields of `Job` that `Cleanup` reads: the plugins, and each cleanup
step as the resources it releases. -/
structure Job where
  plugins : List Plugin
  cleanupSteps : List (List Resource)

/-- `Cleanup`: the steps in order. -/
def Job.cleanup (job : Job) : List Event :=
  job.cleanupSteps.flatten.map .release

/-- The processes `0 … n-1` started. -/
def startedProcesses (n : Nat) : List Event :=
  (List.range n).map fun i => .acquire (.process i)

/-- The producer's part of `New`: what it acquires, and the cleanup step it
registers. -/
def newProducerStep : Option MessageOptions → List Dial → List Event × Except String (List (List Resource))
  | none, _ => ([], .ok [])
  | some opts, dials =>
    let (opened, produced) := newProducer opts dials
    (if opened then [.acquire .producer] else [], produced.map fun () => [[.producer]])

/-- `New(cfg)`: what it acquires, and the job or the error. -/
def new (cfg : Config) (out : Outside) : List Event × Except String Job :=
  match out.loadKubernetesConfig with
  | .error err => ([], .error ("cannot load k8s config: " ++ err))
  | .ok () =>
    match out.kubernetesClient with
    | .error err => ([], .error ("cannot create k8s api client: " ++ err))
    | .ok () =>
      match out.forgeClient with
      | .error err => ([], .error ("cannot create forge api client: " ++ err))
      | .ok () =>
        match newProducerStep cfg.brokerOpts out.dials with
        | (opened, .error err) => (opened, .error err)
        | (opened, .ok producerSteps) =>
          let (loading, loaded) := loadPlugins out.launch cfg.preparerPluginsPath out.pluginsRoot
          let acquired := opened ++ startedProcesses loading.started
          match loaded with
          | .error err =>
            (acquired, .error ("unable to load preparer plugins path " ++ quote cfg.preparerPluginsPath ++
              ": " ++ err))
          | .ok () =>
            -- `builder.New` is `embedded.NewDriver`, which creates the BuildKit client
            match out.buildkitClient with
            | .error err =>
              (acquired, .error ("image builder initialization failed: cannot create buildkit client: " ++ err))
            | .ok () =>
              (acquired, .ok ⟨loading.plugins, producerSteps ++ [loading.plugins.map (.process ·.process)]⟩)

/-! ## The `build` command -/

/-- The main goroutine after `New`: `Run`, the deferred `Cleanup(false)`, and
the exit, by a panic when `Run` failed. -/
def mainSteps (job : Job) (runFailed : Bool) : List Event :=
  .run runFailed :: job.cleanup ++ [.exit (if runFailed then 2 else 0)]

/-- The signal goroutine: `<-stopper`, `Cleanup(true)`, `os.Exit(0)`. -/
def signalSteps (job : Job) : List Event :=
  .receive :: job.cleanup ++ [.exit 0]

/-- The runs of the `build` command: `New`'s acquisitions, then the panic of
a failed `New`, or a schedule of the main goroutine with a prefix of the
signal goroutine (none of it when no signal comes) cut at the first exit. -/
def BuildRun (cfg : Config) (out : Outside) (runFailed : Bool) (trace : List Event) : Prop :=
  match new cfg out with
  | (acquired, .error _) => trace = acquired ++ [.exit 2]
  | (acquired, .ok job) => ∃ received schedule, received <+: signalSteps job ∧
      Interleave (mainSteps job runFailed) received schedule ∧
      trace = acquired ++ untilFirst Event.isExit schedule

/-! ## What `New` acquires -/

theorem opened_of_connect_ok :
    ∀ (attempts : Nat) (dials : List Dial) (w : World), (connect attempts dials w).2 = .ok () →
      w.opened < (connect attempts dials w).1.opened
  | 0, _, _, connected => by simp [connect] at connected
  | attempts + 1, dials, w, connected => by
    unfold connect at connected ⊢
    split at connected
    · exact opened_of_connect_ok attempts dials.tail _ connected
    · exact Nat.lt_succ_self w.opened

theorem newProducerStep_of_ok {brokerOpts : Option MessageOptions} {dials : List Dial}
    {opened : List Event} {steps : List (List Resource)}
    (produced : newProducerStep brokerOpts dials = (opened, .ok steps)) :
    (brokerOpts = none ∧ opened = [] ∧ steps = []) ∨
      (brokerOpts.isSome ∧ opened = [.acquire .producer] ∧ steps = [[.producer]]) := by
  cases brokerOpts with
  | none =>
    simp only [newProducerStep, Prod.mk.injEq, Except.ok.injEq] at produced
    exact .inl ⟨rfl, produced.1.symm, produced.2.symm⟩
  | some opts =>
    right
    unfold newProducerStep newProducer at produced
    by_cases isAmqp : opts.broker = amqpBroker
    · simp only [isAmqp, ↓reduceIte] at produced
      cases connected : connect connectionRetryLimit dials (publisherStart opts.amqpURI opts.amqpQueue) with
      | mk w result =>
        cases result with
        | error err => simp [connected, Except.map] at produced
        | ok u =>
          have opens := opened_of_connect_ok connectionRetryLimit dials _ (by rw [connected])
          rw [connected] at opens
          have nonzero : w.opened ≠ 0 := Nat.ne_zero_of_lt opens
          simp only [connected, nonzero, ne_eq, not_false_eq_true, decide_true, ↓reduceIte,
            Except.map, Prod.mk.injEq, Except.ok.injEq] at produced
          exact ⟨rfl, produced.1.symm, produced.2.symm⟩
    · simp [isAmqp, Except.map] at produced

/-- A `New` that succeeds got the producer and every plugin, and registered
a cleanup step for each. -/
theorem new_eq_ok {cfg : Config} {out : Outside} {job : Job} (setUp : (new cfg out).2 = .ok job) :
    ∃ opened steps, newProducerStep cfg.brokerOpts out.dials = (opened, .ok steps) ∧
      (loadPlugins out.launch cfg.preparerPluginsPath out.pluginsRoot).2 = .ok () ∧
      (new cfg out).1 = opened ++ startedProcesses (loadPlugins out.launch cfg.preparerPluginsPath out.pluginsRoot).1.started ∧
      job = ⟨(loadPlugins out.launch cfg.preparerPluginsPath out.pluginsRoot).1.plugins,
        steps ++ [(loadPlugins out.launch cfg.preparerPluginsPath out.pluginsRoot).1.plugins.map (.process ·.process)]⟩ := by
  unfold new at setUp ⊢
  cases configured : out.loadKubernetesConfig with
  | error err => simp [configured] at setUp
  | ok u =>
    cases created : out.kubernetesClient with
    | error err => simp [configured, created] at setUp
    | ok u =>
      cases forged : out.forgeClient with
      | error err => simp [configured, created, forged] at setUp
      | ok u =>
        simp only [configured, created, forged] at setUp ⊢
        cases produced : newProducerStep cfg.brokerOpts out.dials with
        | mk opened result =>
          cases result with
          | error err => simp [produced] at setUp
          | ok steps =>
            simp only [produced] at setUp ⊢
            cases loadedIs : loadPlugins out.launch cfg.preparerPluginsPath out.pluginsRoot with
            | mk loading loaded =>
              simp only [loadedIs] at setUp ⊢
              cases loaded with
              | error err => cases setUp
              | ok u =>
                cases built : out.buildkitClient with
                | error err => simp [built] at setUp
                | ok u =>
                  simp only [built, Except.ok.injEq] at setUp
                  exact ⟨opened, steps, rfl, rfl, rfl, setUp.symm⟩

end Forge.Source.JobSetup
