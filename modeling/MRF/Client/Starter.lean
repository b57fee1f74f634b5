import Mathlib.Data.List.Forall2
import Mathlib.Logic.Function.Basic
import MRF.Client.Configure
import MRF.Client.Wrapper
import MRF.Library.Outcome

/-!
# Client — Starter

`MRFClientServiceStarter`, which the application context calls with each bean.  It replaces the
listener of a container by a wrapper, and sets up the retry queue, by the first queue that the
container consumes.

* `start_serves`: what has a wrapper has its retry queue, consumed under the same configuration.
* `governed_iff`: every queue is handled under its own configuration, exactly when the queues of a
  container with more than one are all without configuration.
-/

namespace MRF.Client
open MRF.Library

variable {B Msg L F : Type}

/-- `isQueueRegisteredForRetry`. -/
def RetryServiceConfig.isQueueRegisteredForRetry (s : RetryServiceConfig)
    (businessQueueName : String) : Bool :=
  (s.getRetryQueueConfig businessQueueName).isSome

/-! ### Containers -/

/-- The listener of a container: one of the application's, or an
`InitialBusinessMessageListenerWrapper`. -/
inductive MessageListener (L : Type) where
  | original (listener : L)
  | initial (retryQueueConfig : RetryQueueConfig) (delegate : MessageListener L)

/-- The calls of the business listener are those of the delegate. -/
def MessageListener.onMessage (env : ClientEnv B Msg) :
    MessageListener L → Msg → ClientProg B Msg Unit
  | original _, m => invokeBusinessMessage m
  | initial c _, m => BusinessMessageListenerWrapper.onMessage env (.initial c) m

/-- A wrapped listener is not the one that is wrapped. -/
theorem MessageListener.initial_ne (c : RetryQueueConfig) (l : MessageListener L) :
    initial c l ≠ l := by
  intro h
  have hsize := congrArg sizeOf h
  simp at hsize

/-- An `AbstractMessageListenerContainer`; `F` are the connection factories. -/
structure MessageListenerContainer (L F : Type) where
  queueNames : List String
  messageListener : MessageListener L
  connectionFactory : F

/-- The container of a retry queue, whose listener is a `RetryMessageListener`. -/
structure RetryMessageListenerContainer (L F : Type) where
  connectionFactory : F
  concurrentConsumers : Nat
  queueName : String
  /-- Of its `RetryBusinessMessageListenerWrapper`. -/
  retryQueueConfig : RetryQueueConfig
  delegate : MessageListener L

/-- A bean of the application context. -/
inductive Bean (L F : Type) where
  | listenerContainer (container : MessageListenerContainer L F)
  | other

/-- `MRFClientResources`.  An admin and a template are known by their connection factories. -/
structure MRFClientResources (L F : Type) where
  businessMessageListenerContainerMap : String → Option (MessageListenerContainer L F)
  retryMessageListenerContainerMap : String → Option (RetryMessageListenerContainer L F)
  retryRabbitAdminMap : String → Option F
  retryRabbitTemplateMap : String → Option F

namespace MRFClientResources

def empty : MRFClientResources L F :=
  ⟨fun _ => none, fun _ => none, fun _ => none, fun _ => none⟩

/-- The `add` methods ignore an empty name. -/
def put {α : Type} (map : String → Option α) (name : String) (a : α) : String → Option α :=
  if name = "" then map else Function.update map name (some a)

def addMessageListenerContainer (r : MRFClientResources L F) (businessQueueName : String)
    (container : MessageListenerContainer L F) : MRFClientResources L F :=
  { r with
    businessMessageListenerContainerMap :=
      put r.businessMessageListenerContainerMap businessQueueName container }

def addRetryMessageListenerContainer (r : MRFClientResources L F) (retryQueueName : String)
    (container : RetryMessageListenerContainer L F) : MRFClientResources L F :=
  { r with
    retryMessageListenerContainerMap :=
      put r.retryMessageListenerContainerMap retryQueueName container }

def addRetryRabbitAdmin (r : MRFClientResources L F) (retryQueueName : String)
    (retryRabbitAdmin : F) : MRFClientResources L F :=
  { r with retryRabbitAdminMap := put r.retryRabbitAdminMap retryQueueName retryRabbitAdmin }

def addRetryRabbitTemplate (r : MRFClientResources L F) (retryQueueName : String)
    (retryRabbitTemplate : F) : MRFClientResources L F :=
  { r with
    retryRabbitTemplateMap := put r.retryRabbitTemplateMap retryQueueName retryRabbitTemplate }

end MRFClientResources

/-! ### Start-up -/

/-- The calls of the starter, to the broker, to the application context and to the center. -/
inductive StarterOp (F : Type) where
  /-- `new RabbitAdmin(connectionFactory)` and `declareQueue`; the queue is durable. -/
  | declareQueue (connectionFactory : F) (retryQueueName : String)
  | autowireRetryRabbitAdmin
  | startRetryMessageListenerContainer (retryQueueName : String)
  | autowireRetryMessageListenerContainer
  /-- With `AMQPUtil.buildConnectionConfig(connectionFactory)`. -/
  | registerRetryService (connectionFactory : F) (retryQueueName clientServiceName : String)

abbrev StarterProg (F : Type) := Prog (StarterOp F) (fun _ => Unit) Throwable

/-- The retry configurations of the service, and its name. -/
structure MRFClientServiceStarter where
  retryServiceConfig : RetryServiceConfig
  /-- `retryServiceConfig.getRetryServiceName()`. -/
  retryServiceName : String

namespace MRFClientServiceStarter

/-- `MessageConstants.CONCURRENT_CONSUMERS`. -/
def concurrentConsumers : Nat := 1

/-- The branch for a container whose first queue is registered for retry. -/
def wrap (st : MRFClientServiceStarter) (businessQueueName : String)
    (retryQueueConfig : RetryQueueConfig) (b : MessageListenerContainer L F)
    (r : MRFClientResources L F) :
    StarterProg F (MessageListenerContainer L F × MRFClientResources L F) := do
  let retryQueueName := getRetryQueueName businessQueueName
  let originalBusinessMessageListener := b.messageListener
  let b := { b with messageListener := .initial retryQueueConfig originalBusinessMessageListener }
  let r := r.addMessageListenerContainer businessQueueName b
  Prog.perform (.declareQueue b.connectionFactory retryQueueName)
  Prog.perform .autowireRetryRabbitAdmin
  let r := r.addRetryRabbitAdmin retryQueueName b.connectionFactory
  let r := r.addRetryRabbitTemplate retryQueueName b.connectionFactory
  Prog.perform (.startRetryMessageListenerContainer retryQueueName)
  Prog.perform .autowireRetryMessageListenerContainer
  let r := r.addRetryMessageListenerContainer retryQueueName
    { connectionFactory := b.connectionFactory
      concurrentConsumers
      queueName := retryQueueName
      retryQueueConfig
      delegate := originalBusinessMessageListener }
  Prog.perform (.registerRetryService b.connectionFactory retryQueueName st.retryServiceName)
  pure (b, r)

/-- The bean that is answered, and the resources after it. -/
def postProcessAfterInitialization (st : MRFClientServiceStarter) (bean : Bean L F)
    (r : MRFClientResources L F) : StarterProg F (Bean L F × MRFClientResources L F) :=
  match bean with
  | .other => pure (.other, r)
  | .listenerContainer b =>
      match b.queueNames with
      | [] => pure (.listenerContainer b, r)
      | businessQueueName :: _ =>
          match st.retryServiceConfig.getRetryQueueConfig businessQueueName with
          | none => pure (.listenerContainer b, r)
          | some retryQueueConfig => do
              let (b, r) ← st.wrap businessQueueName retryQueueConfig b r
              pure (.listenerContainer b, r)

/-- The application context has each bean processed; an exception ends it. -/
def start (st : MRFClientServiceStarter) : List (Bean L F) → MRFClientResources L F →
    StarterProg F (List (Bean L F) × MRFClientResources L F)
  | [], r => pure ([], r)
  | bean :: beans, r => do
      let (bean, r) ← st.postProcessAfterInitialization bean r
      let (beans, r) ← st.start beans r
      pure (bean :: beans, r)

end MRFClientServiceStarter

/-! ### What start-up does -/

/-- The container with its listener replaced. -/
def MessageListenerContainer.wrapped (c : RetryQueueConfig) (b : MessageListenerContainer L F) :
    MessageListenerContainer L F :=
  { b with messageListener := .initial c b.messageListener }

/-- The configuration of the first queue. -/
def MessageListenerContainer.firstConfig (s : RetryServiceConfig)
    (b : MessageListenerContainer L F) : Option RetryQueueConfig :=
  b.queueNames.head?.bind s.getRetryQueueConfig

theorem MessageListenerContainer.firstConfig_nil {s : RetryServiceConfig}
    {b : MessageListenerContainer L F} (h : b.queueNames = []) : b.firstConfig s = none := by
  rw [firstConfig, h, List.head?_nil, Option.bind_none]

/-- The configuration of a container is that of its first queue. -/
theorem MessageListenerContainer.firstConfig_cons {s : RetryServiceConfig}
    {b : MessageListenerContainer L F} {q : String} {qs : List String}
    (h : b.queueNames = q :: qs) : b.firstConfig s = s.getRetryQueueConfig q := by
  rw [firstConfig, h, List.head?_cons, Option.bind_some]

/-- The container as it comes out. -/
def MessageListenerContainer.processed (s : RetryServiceConfig)
    (b : MessageListenerContainer L F) : MessageListenerContainer L F :=
  match b.firstConfig s with
  | none => b
  | some c => b.wrapped c

def Bean.processed (s : RetryServiceConfig) : Bean L F → Bean L F
  | .other => .other
  | .listenerContainer b => .listenerContainer (b.processed s)

/-- The resources with those of the retry queue of `q`. -/
def MRFClientResources.served (r : MRFClientResources L F) (q : String) (c : RetryQueueConfig)
    (b : MessageListenerContainer L F) : MRFClientResources L F :=
  ((((r.addMessageListenerContainer q (b.wrapped c)).addRetryRabbitAdmin (getRetryQueueName q)
    b.connectionFactory).addRetryRabbitTemplate (getRetryQueueName q)
    b.connectionFactory).addRetryMessageListenerContainer (getRetryQueueName q)
      { connectionFactory := b.connectionFactory
        concurrentConsumers := MRFClientServiceStarter.concurrentConsumers
        queueName := getRetryQueueName q
        retryQueueConfig := c
        delegate := b.messageListener })

/-- The retry queues that are declared, that are consumed, and that the center knows. -/
structure RetryQueues where
  declared : List String
  consumed : List String
  registered : List String

namespace RetryQueues

def next (s : RetryQueues) : StarterOp F → RetryQueues
  | .declareQueue _ k => { s with declared := k :: s.declared }
  | .startRetryMessageListenerContainer k => { s with consumed := k :: s.consumed }
  | .registerRetryService _ k _ => { s with registered := k :: s.registered }
  | _ => s

/-- The queue is declared, listened to and registered. -/
def served (s : RetryQueues) (q : String) : RetryQueues :=
  ⟨getRetryQueueName q :: s.declared, getRetryQueueName q :: s.consumed,
    getRetryQueueName q :: s.registered⟩

end RetryQueues

/-- A retry queue is declared before it is consumed, and consumed before it is registered. -/
def starting (F : Type) : Protocol (StarterOp F) (fun _ => Unit) Throwable RetryQueues where
  allows s
    | .startRetryMessageListenerContainer k => k ∈ s.declared
    | .registerRetryService _ k _ => k ∈ s.consumed
    | _ => True
  answers _ _ _ := True
  next s op
    | .ok _ => s.next op
    | .error _ => s

/-- The retry queue of the configuration is registered, has a template, and is consumed under the
configuration. -/
structure Serves (s : RetryQueues) (r : MRFClientResources L F) (c : RetryQueueConfig) : Prop where
  registered : getRetryQueueName c.businessQueueName ∈ s.registered
  retryRabbitTemplate :
    (r.retryRabbitTemplateMap (getRetryQueueName c.businessQueueName)).isSome = true
  retryContainer : ∃ rc,
    r.retryMessageListenerContainerMap (getRetryQueueName c.businessQueueName) = some rc ∧
      rc.queueName = getRetryQueueName c.businessQueueName ∧ rc.retryQueueConfig = c

section Resources

variable {config : RetryServiceConfig} {s : RetryQueues} {r : MRFClientResources L F} {q : String}
  {c c' : RetryQueueConfig} {b : MessageListenerContainer L F}

theorem MRFClientResources.put_retryQueueName {α : Type} (map : String → Option α) (q : String)
    (a : α) (k : String) : put map (getRetryQueueName q) a k =
      if k = getRetryQueueName q then some a else map k := by
  rw [put, if_neg (getRetryQueueName_ne q), Function.update_apply]

/-- A queue that is served has a template, and the others keep theirs. -/
theorem MRFClientResources.served_retryRabbitTemplateMap (k : String) :
    (r.served q c b).retryRabbitTemplateMap k =
      if k = getRetryQueueName q then some b.connectionFactory
      else r.retryRabbitTemplateMap k :=
  put_retryQueueName _ q _ k

theorem MRFClientResources.served_retryMessageListenerContainerMap (k : String) :
    (r.served q c b).retryMessageListenerContainerMap k =
      if k = getRetryQueueName q then some
        { connectionFactory := b.connectionFactory
          concurrentConsumers := MRFClientServiceStarter.concurrentConsumers
          queueName := getRetryQueueName q
          retryQueueConfig := c
          delegate := b.messageListener }
      else r.retryMessageListenerContainerMap k :=
  put_retryQueueName _ q _ k

/-- The retry queue that is set up is served. -/
theorem serves_served (hc : config.getRetryQueueConfig q = some c) :
    Serves (s.served q) (r.served q c b) c := by
  obtain rfl := RetryServiceConfig.businessQueueName_of_get hc
  refine ⟨List.mem_cons_self, ?_, ?_⟩
  · rw [MRFClientResources.served_retryRabbitTemplateMap, if_pos rfl]
    rfl
  · rw [MRFClientResources.served_retryMessageListenerContainerMap, if_pos rfl]
    exact ⟨_, rfl, rfl, rfl⟩

/-- A retry queue that is served stays served, also when it is set up again. -/
theorem Serves.served (h : Serves s r c') (hc : config.getRetryQueueConfig q = some c)
    (hc' : config.getRetryQueueConfig c'.businessQueueName = some c') :
    Serves (s.served q) (r.served q c b) c' := by
  by_cases hq : c'.businessQueueName = q
  · subst hq
    obtain rfl := Option.some.inj (hc.symm.trans hc')
    exact serves_served hc
  · have hk : getRetryQueueName c'.businessQueueName ≠ getRetryQueueName q :=
      fun hk => hq (getRetryQueueName_inj hk)
    refine ⟨List.mem_cons_of_mem _ h.registered, ?_, ?_⟩
    · rw [MRFClientResources.served_retryRabbitTemplateMap, if_neg hk]
      exact h.retryRabbitTemplate
    · rw [MRFClientResources.served_retryMessageListenerContainerMap, if_neg hk]
      exact h.retryContainer

/-- What the processing of the beans does for the retry queues. -/
structure Started (config : RetryServiceConfig) (beans : List (Bean L F)) (s : RetryQueues)
    (r : MRFClientResources L F) (s' : RetryQueues) (r' : MRFClientResources L F) : Prop where
  kept : ∀ c, config.getRetryQueueConfig c.businessQueueName = some c → Serves s r c →
    Serves s' r' c
  serves : ∀ b, .listenerContainer b ∈ beans → ∀ c ∈ b.firstConfig config, Serves s' r' c

/-- No bean has a configuration. -/
theorem Started.refl {beans : List (Bean L F)}
    (h : ∀ b, .listenerContainer b ∈ beans → b.firstConfig config = none) :
    Started config beans s r s r := by
  refine ⟨fun c _ hs => hs, fun b hb c hc => ?_⟩
  rw [h b hb] at hc
  cases hc

theorem Started.single_none (h : b.firstConfig config = none) :
    Started config [.listenerContainer b] s r s r :=
  .refl fun _ hb => by
    cases List.mem_singleton.mp hb
    exact h

/-- A container with a configuration has its first queue served. -/
theorem Started.single_some (hc : config.getRetryQueueConfig q = some c)
    (h : b.firstConfig config = some c) :
    Started config [.listenerContainer b] s r (s.served q) (r.served q c b) := by
  refine ⟨fun c' hc' hs => hs.served hc hc', fun b' hb c' hc' => ?_⟩
  cases List.mem_singleton.mp hb
  obtain rfl := Option.some.inj (h.symm.trans hc')
  exact serves_served hc

/-- The beans are processed one after the other. -/
theorem Started.cons {bean : Bean L F} {beans : List (Bean L F)} {s' s'' : RetryQueues}
    {r' r'' : MRFClientResources L F} (h : Started config [bean] s r s' r')
    (h' : Started config beans s' r' s'' r'') : Started config (bean :: beans) s r s'' r'' := by
  refine ⟨fun c hc hs => h'.kept c hc (h.kept c hc hs), fun b hb c hc => ?_⟩
  obtain rfl | hb := List.mem_cons.mp hb
  · obtain ⟨q, -, hq⟩ := Option.bind_eq_some_iff.mp hc
    obtain rfl := RetryServiceConfig.businessQueueName_of_get hq
    exact h'.kept c hq (h.serves b List.mem_cons_self c hc)
  · exact h'.serves b hb c hc

end Resources

namespace MRFClientServiceStarter

variable {st : MRFClientServiceStarter} {q : String} {c : RetryQueueConfig}
  {b : MessageListenerContainer L F} {r : MRFClientResources L F} {s : RetryQueues}

/-- The container is wrapped, after its queue is served. -/
theorem wp_wrap
    {Q : RetryQueues → MessageListenerContainer L F × MRFClientResources L F → Prop}
    (hQ : Q (s.served q) (b.wrapped c, r.served q c b)) :
    wp (starting F) Q (fun _ _ => True) s (st.wrap q c b r) := by
  simpa [wrap, starting, RetryQueues.next, RetryQueues.served, MessageListenerContainer.wrapped,
    MRFClientResources.served] using hQ

/-- One bean: how it comes out, and what is done for its retry queue. -/
theorem wp_postProcessAfterInitialization {bean : Bean L F}
    {Q : RetryQueues → Bean L F × MRFClientResources L F → Prop}
    (hQ : ∀ s' r', Started st.retryServiceConfig [bean] s r s' r' →
      Q s' (bean.processed st.retryServiceConfig, r')) :
    wp (starting F) Q (fun _ _ => True) s (st.postProcessAfterInitialization bean r) := by
  cases bean with
  | other => exact hQ s r (.refl (by simp))
  | listenerContainer b =>
      unfold Bean.processed MessageListenerContainer.processed at hQ
      unfold postProcessAfterInitialization
      dsimp only at hQ ⊢
      split
      · next hqs =>
          have hnone : b.firstConfig st.retryServiceConfig = none := b.firstConfig_nil hqs
          rw [hnone] at hQ
          exact hQ s r (.single_none hnone)
      · next q qs hqs =>
          -- whatever the other queues are, the first one decides
          have hfirst : b.firstConfig st.retryServiceConfig =
              st.retryServiceConfig.getRetryQueueConfig q := b.firstConfig_cons hqs
          rw [hfirst] at hQ
          split
          · next hnone =>
              rw [hnone] at hQ
              exact hQ s r (.single_none (hfirst.trans hnone))
          · next c hc =>
              rw [hc] at hQ
              rw [wp_bind]
              exact wp_wrap (hQ _ _ (.single_some hc (hfirst.trans hc)))

/-- All beans, by induction on them. -/
theorem wp_start {beans : List (Bean L F)}
    {Q : RetryQueues → List (Bean L F) × MRFClientResources L F → Prop}
    (hQ : ∀ s' r', Started st.retryServiceConfig beans s r s' r' →
      Q s' (beans.map (Bean.processed st.retryServiceConfig), r')) :
    wp (starting F) Q (fun _ _ => True) s (st.start beans r) := by
  induction beans generalizing s r Q with
  | nil => exact hQ s r (.refl (by simp))
  | cons bean beans ih =>
      unfold start
      rw [wp_bind]
      refine wp_postProcessAfterInitialization fun s' r' h => ?_
      rw [wp_bind]
      exact ih fun s'' r'' h' => hQ s'' r'' (h.cons h')

variable {beans beans' : List (Bean L F)} {r' : MRFClientResources L F}
  {tr : Answers (StarterOp F) (fun _ => Unit) Throwable}

/-- The answers of the broker are those the start asks for. -/
theorem answered_starting (s : RetryQueues) : (starting F).Answered s tr := by
  induction tr generalizing s with
  | nil => trivial
  | cons a tr ih => exact ⟨trivial, ih _⟩

/-- How the beans come out of a start-up that ends, and what was done for their retry queues. -/
theorem ends_start (h : (st.start beans r).Ends tr (.ok (beans', r'))) (s : RetryQueues) :
    beans' = beans.map (Bean.processed st.retryServiceConfig) ∧
      Started st.retryServiceConfig beans s r ((starting F).after s tr) r' := by
  have hwp : wp (starting F)
      (fun s' p => p.1 = beans.map (Bean.processed st.retryServiceConfig) ∧
        Started st.retryServiceConfig beans s r s' p.2)
      (fun _ _ => True) s (st.start beans r) :=
    wp_start fun s' r' hs => ⟨rfl, hs⟩
  exact (h.wp hwp (answered_starting s)).1 _ rfl

/-- After start-up the retry queue of every container with a wrapper is served. -/
theorem start_serves (h : (st.start beans r).Ends tr (.ok (beans', r')))
    {b : MessageListenerContainer L F} (hb : .listenerContainer b ∈ beans)
    (hc : b.firstConfig st.retryServiceConfig = some c) :
    Serves ((starting F).after ⟨[], [], []⟩ tr) r' c :=
  (ends_start h _).2.serves b hb c hc

end MRFClientServiceStarter

/-! ### Each queue and its configuration -/

/-- Every queue of the container is governed by its own configuration: its messages are handled by
`onMessage` of a wrapper with that configuration, and by the listener as it was if there is none. -/
structure MessageListenerContainer.Governed (env : ClientEnv B Msg) (config : RetryServiceConfig)
    (b b' : MessageListenerContainer L F) : Prop where
  handled : ∀ q ∈ b.queueNames, ∀ c ∈ config.getRetryQueueConfig q,
    b'.messageListener = .initial c b.messageListener ∧
      ∀ m, b'.messageListener.onMessage env m =
        BusinessMessageListenerWrapper.onMessage env (.initial c) m
  left_iff : ∀ q ∈ b.queueNames,
    b'.messageListener = b.messageListener ↔ config.getRetryQueueConfig q = none

/-- A container is governed; any other bean is left alone. -/
def Bean.Governed (env : ClientEnv B Msg) (config : RetryServiceConfig) :
    Bean L F → Bean L F → Prop
  | .listenerContainer b, .listenerContainer b' => b.Governed env config b'
  | .other, .other => True
  | _, _ => False

/-- All queues of the container are its first queue, or they are all without configuration. -/
def MessageListenerContainer.hasOneConfiguration (config : RetryServiceConfig)
    (b : MessageListenerContainer L F) : Prop :=
  ∀ q₀ ∈ b.queueNames.head?, ∀ q ∈ b.queueNames,
    q = q₀ ∨ config.isQueueRegisteredForRetry q₀ = false ∧
      config.isQueueRegisteredForRetry q = false

theorem RetryServiceConfig.isQueueRegisteredForRetry_eq_false {config : RetryServiceConfig}
    {q : String} :
    config.isQueueRegisteredForRetry q = false ↔ config.getRetryQueueConfig q = none := by
  rw [isQueueRegisteredForRetry, Option.isSome_eq_false_iff, Option.isNone_iff_eq_none]

section Governed

variable {env : ClientEnv B Msg} {config : RetryServiceConfig} {b : MessageListenerContainer L F}
  {q q₀ : String} {c c₀ : RetryQueueConfig}

/-- The container under the wrapper of its first queue. -/
theorem governed_wrapped_iff (hc₀ : config.getRetryQueueConfig q₀ = some c₀) :
    b.Governed env config (b.wrapped c₀) ↔ ∀ q ∈ b.queueNames, q = q₀ := by
  constructor
  · intro h q hq
    cases hc : config.getRetryQueueConfig q with
    | none => exact absurd ((h.left_iff q hq).mpr hc) (MessageListener.initial_ne c₀ _)
    | some c =>
        have hl := (h.handled q hq c hc).1
        obtain ⟨rfl, -⟩ := MessageListener.initial.inj hl
        exact (RetryServiceConfig.businessQueueName_of_get hc).symm.trans
          (RetryServiceConfig.businessQueueName_of_get hc₀)
  · intro h
    refine ⟨fun q hq c hc => ?_, fun q hq => ?_⟩
    · obtain rfl := h q hq
      obtain rfl := Option.some.inj (hc₀.symm.trans hc)
      exact ⟨rfl, fun m => rfl⟩
    · obtain rfl := h q hq
      rw [hc₀]
      exact iff_of_false (MessageListener.initial_ne c₀ _) (by simp)

/-- The container with its listener as it was. -/
theorem governed_self_iff :
    b.Governed env config b ↔ ∀ q ∈ b.queueNames, config.getRetryQueueConfig q = none := by
  constructor
  · intro h q hq
    exact (h.left_iff q hq).mp rfl
  · intro h
    refine ⟨fun q hq c hc => ?_, fun q hq => iff_of_true rfl (h q hq)⟩
    rw [h q hq] at hc
    cases hc

/-- A processed container is governed exactly if its queues have one configuration. -/
theorem governed_processed_iff :
    b.Governed env config (b.processed config) ↔ b.hasOneConfiguration config := by
  unfold MessageListenerContainer.processed MessageListenerContainer.hasOneConfiguration
  simp only [RetryServiceConfig.isQueueRegisteredForRetry_eq_false]
  cases hqs : b.queueNames with
  | nil => simp [b.firstConfig_nil hqs, governed_self_iff, hqs]
  | cons q₀ qs =>
      simp only [b.firstConfig_cons hqs, List.head?_cons, Option.mem_some_iff, forall_eq']
      cases hc₀ : config.getRetryQueueConfig q₀ with
      | none =>
          simp only [governed_self_iff, hqs]
          constructor
          · intro h q hq
            exact .inr ⟨trivial, h q hq⟩
          · intro h q hq
            obtain rfl | ⟨-, h⟩ := h q hq
            · exact hc₀
            · exact h
      | some c₀ =>
          simp only [governed_wrapped_iff hc₀, hqs]
          simp

end Governed

/-- After start-up every queue of every container is governed by its own configuration, exactly
when a container has one queue only or none of its queues has a configuration. -/
theorem governed_iff {env : ClientEnv B Msg} {st : MRFClientServiceStarter}
    {beans beans' : List (Bean L F)} {r r' : MRFClientResources L F}
    {tr : Answers (StarterOp F) (fun _ => Unit) Throwable}
    (h : (st.start beans r).Ends tr (.ok (beans', r'))) :
    List.Forall₂ (Bean.Governed env st.retryServiceConfig) beans beans' ↔
      ∀ b, .listenerContainer b ∈ beans → b.hasOneConfiguration st.retryServiceConfig := by
  obtain ⟨rfl, -⟩ := MRFClientServiceStarter.ends_start h ⟨[], [], []⟩
  rw [List.forall₂_map_right_iff, List.forall₂_same]
  constructor
  · intro hg b hb
    exact governed_processed_iff.mp (hg _ hb)
  · intro hone bean hbean
    cases bean with
    | other => trivial
    | listenerContainer b => exact governed_processed_iff.mpr (hone b hbean)

/-- A service with a configuration for `feedQ` alone. -/
def feedStarter : MRFClientServiceStarter := ⟨⟨[.feedQ 3000 3]⟩, "feed"⟩

def feedEnv : ClientEnv String String := ⟨RetryQueueConfig.sampleClassPath, ⟨.ok, .ok⟩⟩

def containerOf (queueNames : List String) : Bean Unit Unit :=
  .listenerContainer ⟨queueNames, .original (), ()⟩

/-- The answers of a start-up with one retry queue. -/
def feedAnswers : Answers (StarterOp Unit) (fun _ => Unit) Throwable :=
  [⟨.declareQueue () "feedQ_retry", .ok ()⟩, ⟨.autowireRetryRabbitAdmin, .ok ()⟩,
    ⟨.startRetryMessageListenerContainer "feedQ_retry", .ok ()⟩,
    ⟨.autowireRetryMessageListenerContainer, .ok ()⟩,
    ⟨.registerRetryService () "feedQ_retry" "feed", .ok ()⟩]

/-- A container of its own for `feedQ`, and one for two queues without configuration. -/
def feedBeans : List (Bean Unit Unit) := [containerOf ["feedQ"], containerOf ["readQ", "logQ"]]

/-- The start of the sample comes to its end. -/
theorem ends_feed : ∃ beans' r',
    (feedStarter.start feedBeans .empty).Ends feedAnswers (.ok (beans', r')) :=
  ⟨_, _, .call (.call (.call (.call (.call (.ret _)))))⟩

theorem governed_feed : ∃ beans' r',
    (feedStarter.start feedBeans .empty).Ends feedAnswers (.ok (beans', r')) ∧
    List.Forall₂ (Bean.Governed feedEnv feedStarter.retryServiceConfig) feedBeans beans' := by
  obtain ⟨beans', r', hends⟩ := ends_feed
  refine ⟨beans', r', hends, (governed_iff hends).mpr ?_⟩
  intro b hb
  simp only [feedBeans, containerOf, List.mem_cons, Bean.listenerContainer.injEq, List.not_mem_nil,
    or_false] at hb
  obtain rfl | rfl := hb
  · simp [MessageListenerContainer.hasOneConfiguration]
  · have hreadQ : feedStarter.retryServiceConfig.isQueueRegisteredForRetry "readQ" = false := rfl
    have hlogQ : feedStarter.retryServiceConfig.isQueueRegisteredForRetry "logQ" = false := rfl
    simp [MessageListenerContainer.hasOneConfiguration, hreadQ, hlogQ]

/-- `feedQ` as the second queue of a container: its configuration is not used. -/
theorem feedQ_ungoverned :
    (feedStarter.start [containerOf ["readQ", "feedQ"]] .empty).Ends []
      (.ok ([containerOf ["readQ", "feedQ"]], .empty)) ∧
    feedStarter.retryServiceConfig.getRetryQueueConfig "feedQ" = some (.feedQ 3000 3) ∧
    ¬ List.Forall₂ (Bean.Governed feedEnv feedStarter.retryServiceConfig)
      [containerOf ["readQ", "feedQ"]] [containerOf ["readQ", "feedQ"]] := by
  refine ⟨.ret _, rfl, ?_⟩
  rintro (_ | ⟨hg, -⟩)
  have hgov : MessageListenerContainer.Governed feedEnv feedStarter.retryServiceConfig
      ⟨["readQ", "feedQ"], .original (), ()⟩ ⟨["readQ", "feedQ"], .original (), ()⟩ := hg
  have hwrapped := (hgov.handled "feedQ" (by simp) (.feedQ 3000 3) rfl).1
  cases hwrapped

end MRF.Client
