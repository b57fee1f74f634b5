import MRF.Center.Payload
import MRF.Center.Registrations

/-!
# Center — Routing

The center together with its registry: where the retry messages go.

A worker and a recover request look for the template of the queue that their row names, and the
map has one template for a queue, whichever service registered it.  `routed_run` says when a
message of the service `A` is routed over the connection that `A` registered; `routes_agree`
compares two runs that differ in the registrations of another service.
-/

namespace MRF.Center
open MRF.Library State MRFServerResources MRFServerCenterStarter

variable {B : Type} [BusinessMsg B] {cfg : MRFServerConfig} {qc : QueueConfig}

/-! ### The center with its registry -/

/-- The center, with its templates and what each request has looked up. -/
structure Wired (B : Type) where
  center : State B
  registry : Registry
  /-- The templates that the requests have found. -/
  templates : Nat → Option ConnectionConfig

/-- A registration, or a step of the center. -/
inductive WiredAction (B : Type) where
  /-- A call of `registerRetryService` that returns normally. -/
  | register (r : Registration)
  | center (a : Action B)

namespace Wired

/-- The center after its start on a table. -/
def start (t : Table ClientConfig) : Wired B := ⟨.empty, init t, fun _ => none⟩

/-- The template that a step of the center looks for. -/
def template (w : Wired B) (a : Action B) : Option ConnectionConfig :=
  match a with
  | .sendRetry v _ _ =>
      (w.center.workers v).bind fun r =>
        getRetryRabbitTemplate w.registry.retryRabbitTemplateMap r.retryQueueName
  | .requestStep _ _ _ =>
      match w.center.call a with
      | some (.getRetryRabbitTemplate q) =>
          getRetryRabbitTemplate w.registry.retryRabbitTemplateMap q
      | _ => none
  | _ => none

/-- The action, with the answer of the registry to whether there is a template. -/
def resolve (w : Wired B) (a : Action B) : Action B :=
  match a with
  | .sendRetry v _ raises => .sendRetry v (w.template a).isSome raises
  | .requestStep i raises _ => .requestStep i raises (w.template a).isSome
  | a => a

/-- The templates that the requests have after a step of the center. -/
def templatesAfter (w : Wired B) (a : Action B) : Nat → Option ConnectionConfig :=
  match a with
  | .requestStep i _ _ =>
      match w.center.call a with
      | some (.getRetryRabbitTemplate _) => Function.update w.templates i (w.template a)
      | _ => w.templates
  | _ => w.templates

/-- One step of the center with its templates. -/
def step (cfg : MRFServerConfig) (qc : QueueConfig) (w : Wired B) : WiredAction B → Option (Wired B)
  | .register r =>
      match MRFServiceImpl.registerRetryService qc r.clientConfig r.faults w.registry with
      | (.ok _, g) => some { w with registry := g }
      | (.error _, _) => none
  | .center a =>
      (w.center.step cfg (w.resolve a)).map fun s =>
        { w with center := s, templates := w.templatesAfter a }

/-- The center takes a connection for a retry message: a worker for its row, a request for its
record. -/
def routes (w : Wired B) : WiredAction B → Option (ConnectionConfig × RetryMessage B)
  | .center (.sendRetry v found raises) =>
      (w.center.workers v).bind fun r =>
        (w.template (.sendRetry v found raises)).map (·, constructRetryMessage r)
  | .center (.requestStep i raises found) =>
      (w.center.requests i).bind fun act =>
        act.state.record.bind fun r =>
          (w.template (.requestStep i raises found)).map
            (·, MRFRecoverService.constructRetryMessage r)
  | _ => none

/-- The center sends a message over a connection: a worker over the one it has just taken, a
request over the one it has. -/
def sends (w : Wired B) : WiredAction B → Option (ConnectionConfig × RetryMessage B)
  | .center (.sendRetry v found raises) =>
      if raises then none else w.routes (.center (.sendRetry v found raises))
  | .center (.requestStep i raises _) =>
      match w.center.requests i with
      | some ⟨_, .call (.convertAndSend _ m) _⟩ =>
          if raises then none else (w.templates i).map (·, m)
      | _ => none
  | _ => none

end Wired

/-! ### Registrations of a service -/

/-- The parameters of a registration. -/
def WiredAction.registers : WiredAction B → Option ClientConfig
  | .register r => some r.clientConfig
  | .center _ => none

/-- The actions, but for the registrations of a service. -/
def withoutRegistrationsOf (service : String) (tr : List (Wired B × WiredAction B)) :
    List (WiredAction B) :=
  (tr.map fun p => p.2).filter fun a =>
    a.registers.all fun c => c.clientServiceName ≠ service

/-- The connection that the service has registered for the queue: the last one, of the rows at the
start and the registrations. -/
def registeredBy (service q : String) (t : Table ClientConfig) (actions : List (WiredAction B)) :
    Option ConnectionConfig :=
  (lastFor q ((t.rows ++ actions.filterMap WiredAction.registers).filter fun c =>
    c.clientServiceName = service)).map fun c => c.toConnectionConfig

/-- Nothing comes between the service `A` and the templates of its queues, in a step.  Messages
of `A` name the queues of `A`.  Another service registers such a queue only when it finds its own
parameters stored, and the call is skipped; and a call of `A` is skipped only while the queue is
connected as it says. -/
structure Separate (A : String) (sender : B → String) (OwnQueue : String → Prop) (w : Wired B)
    (a : WiredAction B) : Prop where
  process : ∀ c m, a = .center (.process c m) → sender m.businessMsg = A →
    OwnQueue m.retryQueueName
  failOver : ∀ m, a = .center (.failOver m) → sender m.businessMsg = A → OwnQueue m.retryQueueName
  others : ∀ c, a.registers = some c → OwnQueue c.retryQueueName → c.clientServiceName ≠ A →
    Registered w.registry c
  own : ∀ c, a.registers = some c → OwnQueue c.retryQueueName → c.clientServiceName = A →
    Registered w.registry c →
    w.registry.retryRabbitTemplateMap c.retryQueueName = some c.toConnectionConfig

variable {A q : String} {sender : B → String} {OwnQueue : String → Prop} {t : Table ClientConfig}
  {w w' : Wired B} {a : WiredAction B} {actions : List (WiredAction B)}
  {tr : List (Wired B × WiredAction B)}

/-- A filter that keeps the last entry of a queue leaves it the last. -/
theorem lastFor_filter {l : List ClientConfig} {p : ClientConfig → Bool}
    (h : ∀ c, lastFor q l = some c → p c = true) : lastFor q (l.filter p) = lastFor q l := by
  induction l using List.reverseRecOn with
  | nil => rfl
  | append_singleton l c ih =>
      rw [lastFor_concat] at h ⊢
      by_cases hc : c.retryQueueName = q
      · rw [if_pos hc] at h ⊢
        have hp := h c rfl
        simp only [List.filter_append, List.filter_cons, hp, if_true, List.filter_nil]
        rw [lastFor_concat, if_pos hc]
      · rw [if_neg hc] at h ⊢
        rw [← ih h, List.filter_append]
        exact lastFor_append _ fun c' hc' => by
          have := List.mem_of_mem_filter hc'
          simp_all

omit [BusinessMsg B] in
/-- A registration is the last of its service. -/
theorem registeredBy_concat (c : ClientConfig) (ha : a.registers = some c) :
    registeredBy A q t (actions ++ [a]) =
      if c.clientServiceName = A ∧ c.retryQueueName = q then some c.toConnectionConfig
      else registeredBy A q t actions := by
  simp only [registeredBy, List.filterMap_append, List.filterMap_cons, ha, List.filterMap_nil,
    ← List.append_assoc, List.filter_append]
  by_cases hA : c.clientServiceName = A
  · simp only [List.filter_cons, hA, decide_true, if_true, List.filter_nil, true_and]
    rw [← List.filter_append, lastFor_concat]
    split <;> rfl
  · simp only [List.filter_cons, hA, decide_false, Bool.false_eq_true, if_false, List.filter_nil,
      List.append_nil, false_and]

omit [BusinessMsg B] in
theorem registeredBy_center (b : Action B) :
    registeredBy A q t (actions ++ [.center b]) = registeredBy A q t actions := by
  simp only [registeredBy, List.filterMap_append, List.filterMap_cons, WiredAction.registers,
    List.filterMap_nil, List.append_nil]

omit [BusinessMsg B] in
/-- The registrations of another service do not count. -/
theorem registeredBy_without {service : String} (hne : service ≠ A) :
    registeredBy A q t (withoutRegistrationsOf service tr) =
      registeredBy A q t (tr.map fun p => p.2) := by
  have h : ((withoutRegistrationsOf service tr).filterMap WiredAction.registers).filter
      (fun c => c.clientServiceName = A) =
      ((tr.map fun p => p.2).filterMap WiredAction.registers).filter
        fun c => c.clientServiceName = A := by
    induction tr with
    | nil => rfl
    | cons p tr ih =>
        cases hp : p.2.registers with
        | none => simpa [withoutRegistrationsOf, hp] using ih
        | some c =>
            by_cases hc : c.clientServiceName = service
            · have hcA : c.clientServiceName ≠ A := fun he => hne (hc.symm.trans he)
              simpa [withoutRegistrationsOf, hp, hc, hcA, hne] using ih
            · by_cases hcA : c.clientServiceName = A
              · simpa [withoutRegistrationsOf, hp, hcA, hne.symm] using ih
              · simpa [withoutRegistrationsOf, hp, hc, hcA] using ih
  simp only [registeredBy, List.filter_append, h]

/-! ### Where the messages of a service go -/

/-- The queues of `A` are connected as `A` registered them last, and what carries a message of `A`
names a queue of `A`. -/
structure Connected (A : String) (sender : B → String) (OwnQueue : String → Prop)
    (t : Table ClientConfig) (actions : List (WiredAction B)) (w : Wired B) : Prop where
  map : ∀ q, OwnQueue q → q ≠ "" →
    w.registry.retryRabbitTemplateMap q = registeredBy A q t actions
  records : ∀ x q b, w.center.Records x q b → sender b = A → OwnQueue q
  pends : ∀ m, w.center.Pends m → sender m.businessMsg = A → OwnQueue m.retryQueueName
  conform : RequestsConform w.center

omit [BusinessMsg B] in
/-- At the start, each of the queues is connected as its row says. -/
theorem connected_start (ht : ∀ q c, OwnQueue q → lastFor q t.rows = some c →
    c.clientServiceName = A) : Connected A sender OwnQueue t [] (Wired.start t) where
  map q hown hq := by
    have hmap := (history_init t).map q hq
    simp only [changes, changesFrom, List.append_nil] at hmap
    rw [Wired.start, hmap, registeredBy, List.filterMap_nil, List.append_nil,
      lastFor_filter fun c hc => decide_eq_true (ht q c hown hc)]
  records x q b hr := by
    cases hr with
    | row h => rcases h with ⟨r, h, -⟩ | ⟨r, h, -⟩ <;> cases h
    | polled h => rcases h with h | h <;> cases h
    | worker h => cases h
    | held h => rcases h with h | h <;> cases h
    | request h => cases h
  pends m hm := by
    cases hm with
    | queue h => cases h
    | task h => cases h
    | worker h => cases h
  conform _ _ hi := by cases hi

omit [BusinessMsg B] in
/-- The template decides nothing about the message. -/
theorem Wired.message_resolve (b : Action B) :
    w.center.message (w.resolve b) = w.center.message b := by
  cases b <;> rfl

omit [BusinessMsg B] in
theorem Wired.resolve_failOver {b : Action B} {m : RetryMessage B}
    (h : w.resolve b = .failOver m) : b = .failOver m := by
  cases b <;> first | exact h | cases h

omit [BusinessMsg B] in
/-- A registration leaves the queues of `A` connected. -/
theorem Connected.register {r : Registration}
    (hw : Connected A sender OwnQueue t actions w) (hs : Separate A sender OwnQueue w (.register r))
    {g : Registry} {qc' : QueueConfig}
    (h : MRFServiceImpl.registerRetryService qc r.clientConfig r.faults w.registry = (.ok qc', g))
    (hown : OwnQueue q) (hq : q ≠ "") :
    g.retryRabbitTemplateMap q = registeredBy A q t (actions ++ [.register r]) := by
  have hacc := accepts_of_ok h
  have hqr := (names_of_accepts hacc).1
  rw [registeredBy_concat r.clientConfig rfl]
  -- a call that is not skipped is one of `A`, when it is for a queue of `A`
  have written : ¬ Registered w.registry r.clientConfig → ∀ u,
      ({ w.registry with clientConfig := u }.withTemplate r.clientConfig).retryRabbitTemplateMap q =
        if r.clientConfig.clientServiceName = A ∧ r.clientConfig.retryQueueName = q then
          some r.clientConfig.toConnectionConfig
        else registeredBy A q t actions := by
    intro hnot u
    simp only [Registry.withTemplate, addRetryRabbitTemplate, hqr, if_false]
    by_cases he : q = r.clientConfig.retryQueueName
    · have hA : r.clientConfig.clientServiceName = A := by
        by_contra hne
        exact hnot (hs.others _ rfl (he ▸ hown) hne)
      rw [if_pos he, if_pos ⟨hA, he.symm⟩]
    · rw [if_neg he, if_neg fun h => he h.2.symm]
      exact hw.map q hown hq
  rcases registerRetryService_cases hacc h with ⟨hreg, rfl⟩ | ⟨hnot, -, rfl⟩ | ⟨u, hu, rfl⟩
  · split
    · next he =>
        obtain ⟨hA, rfl⟩ := he
        exact hs.own _ rfl hown hA hreg
    · exact hw.map q hown hq
  · exact written hnot _
  · refine written (fun hreg => ?_) u
    have hnone := Table.get_eq_none_of_insert hu
    rw [show w.registry.clientConfig.get _ = _ from hreg] at hnone
    cases hnone

/-- **Every step leaves the queues of `A` connected.** -/
theorem Connected.step (hw : Connected A sender OwnQueue t actions w)
    (h : w.step cfg qc a = some w') (hs : Separate A sender OwnQueue w a) :
    Connected A sender OwnQueue t (actions ++ [a]) w' := by
  cases a with
  | register r =>
      simp only [Wired.step] at h
      split at h
      · next hreg =>
          cases h
          exact ⟨fun q hown hq => hw.register hs hreg hown hq, hw.records, hw.pends, hw.conform⟩
      · cases h
  | center b =>
      obtain ⟨s', hs', rfl⟩ := Option.map_eq_some_iff.mp h
      have hst := step_stepped hs'
      refine ⟨fun q hown hq => ?_, fun x q b' hr hb => ?_, fun m hm hb => ?_, hw.conform.step hst⟩
      · rw [registeredBy_center]
        exact hw.map q hown hq
      · rcases hst.records_inv hr with hr | ⟨-, c, m, hm, rfl, rfl, -⟩
        · exact hw.records x q b' hr hb
        · rw [Wired.message_resolve] at hm
          rcases message_cases hm with rfl | hm
          · exact hs.process c m rfl hb
          · exact hw.pends m hm hb
      · rcases hst.pends_inv hm with hm | ha
        · exact hw.pends m hm hb
        · exact hs.failOver m (congrArg _ (Wired.resolve_failOver ha)) hb

/-- A run in which the services keep apart leaves the queues connected. -/
theorem Connected.run (h : Run (Guarded (stepOf (Wired.step cfg qc)) (Separate A sender OwnQueue))
    w tr w') (hw : Connected A sender OwnQueue t actions w) :
    Connected A sender OwnQueue t (actions ++ tr.map fun p => p.2) w' := by
  induction h generalizing actions with
  | nil => simpa only [List.map_nil, List.append_nil] using hw
  | cons hstep _ ih =>
      have hrest := ih (hw.step hstep.1 hstep.2)
      rwa [List.append_assoc] at hrest

/-- A template is found in the map, under a name that is not empty. -/
theorem getRetryRabbitTemplate_eq_some {map : String → Option ConnectionConfig}
    {conn : ConnectionConfig} (h : getRetryRabbitTemplate map q = some conn) :
    q ≠ "" ∧ map q = some conn := by
  unfold getRetryRabbitTemplate at h
  split at h
  · cases h
  · next hq => exact ⟨hq, h⟩

omit [BusinessMsg B] in
/-- A message of `A` is routed over the connection of `A`. -/
theorem Connected.routes (hw : Connected A sender OwnQueue t actions w) {conn : ConnectionConfig}
    {m : RetryMessage B} (h : w.routes a = some (conn, m)) (hm : sender m.businessMsg = A) :
    registeredBy A m.retryQueueName t actions = some conn := by
  have found : ∀ q, OwnQueue q →
      getRetryRabbitTemplate w.registry.retryRabbitTemplateMap q = some conn →
      registeredBy A q t actions = some conn := by
    intro q hown hq
    obtain ⟨hne, hmap⟩ := getRetryRabbitTemplate_eq_some hq
    exact (hw.map q hown hne).symm.trans hmap
  cases a with
  | register r => cases h
  | center b =>
      cases b with
      | sendRetry v fnd raises =>
          obtain ⟨r, hr, h⟩ := Option.bind_eq_some_iff.mp h
          obtain ⟨conn', htemp, h⟩ := Option.map_eq_some_iff.mp h
          cases h
          have hrec : w.center.Records r.msgID r.retryQueueName r.businessMsg :=
            .worker hr rfl rfl rfl
          simp only [Wired.template, hr, Option.bind_some] at htemp
          exact found _ (hw.records _ _ _ hrec hm) htemp
      | requestStep i raises fnd =>
          obtain ⟨⟨st, rest⟩, hi, h⟩ := Option.bind_eq_some_iff.mp h
          obtain ⟨r, hr, h⟩ := Option.bind_eq_some_iff.mp h
          obtain ⟨conn', htemp, h⟩ := Option.map_eq_some_iff.mp h
          cases h
          have hrec : w.center.Records r.msgID r.retryQueueName r.businessMsg :=
            .request hi hr rfl rfl rfl
          simp only [Wired.template] at htemp
          split at htemp
          · next q hcall =>
              -- the protocol: the request looks for the queue of its record
              have hq : q = r.retryQueueName := by
                simp only [State.call, hi] at hcall
                split at hcall
                · next heq =>
                    cases heq
                    cases hcall
                    have hallow := (hw.conform i _ hi).allows rfl
                    cases st with
                    | out r' => cases hr; exact hallow
                    | _ => exact hallow.elim
                · cases hcall
              exact found r.retryQueueName (hw.records _ _ _ hrec hm) (by rw [← hq]; exact htemp)
          · cases htemp
      | _ => cases h

/-- Where the service `A` is left alone: at the start the last row for a queue of `A` is a row of
`A`, and no step comes between `A` and its templates. -/
structure LeavesAlone (cfg : MRFServerConfig) (qc : QueueConfig) (A : String) (sender : B → String)
    (OwnQueue : String → Prop) (t : Table ClientConfig) (tr : List (Wired B × WiredAction B))
    (w : Wired B) : Prop where
  start : ∀ q c, OwnQueue q → lastFor q t.rows = some c → c.clientServiceName = A
  run : Run (Guarded (stepOf (Wired.step cfg qc)) (Separate A sender OwnQueue)) (Wired.start t) tr w

/-- A run that leaves the service alone leaves its queues connected. -/
theorem LeavesAlone.connected (h : LeavesAlone cfg qc A sender OwnQueue t tr w) :
    Connected A sender OwnQueue t (tr.map fun p => p.2) w :=
  (connected_start h.start).run h.run

variable {w₁ w₂ : Wired B} {a₁ a₂ : WiredAction B} {tr₁ tr₂ : List (Wired B × WiredAction B)}
  {conn₁ conn₂ : ConnectionConfig} {m₁ m₂ : RetryMessage B} {service : String}

/-- **Another service does not disturb `A`.**  In two runs that differ in the registrations of
the other service, and leave `A` alone, the messages of `A` go over the connection that `A`
registered. -/
theorem routes_agree (hne : service ≠ A)
    (h₁ : LeavesAlone cfg qc A sender OwnQueue t tr₁ w₁)
    (h₂ : LeavesAlone cfg qc A sender OwnQueue t tr₂ w₂)
    (hdiff : withoutRegistrationsOf service tr₁ = withoutRegistrationsOf service tr₂)
    (hr₁ : w₁.routes a₁ = some (conn₁, m₁)) (hr₂ : w₂.routes a₂ = some (conn₂, m₂))
    (hm₁ : sender m₁.businessMsg = A) (hm₂ : sender m₂.businessMsg = A)
    (hq : m₁.retryQueueName = m₂.retryQueueName) :
    conn₁ = conn₂ ∧
      registeredBy A m₁.retryQueueName t (tr₁.map fun p => p.2) = some conn₁ := by
  have hc₁ := h₁.connected.routes hr₁ hm₁
  have hc₂ := h₂.connected.routes hr₂ hm₂
  refine ⟨Option.some.inj (hc₁.symm.trans (Eq.trans ?_ hc₂)), hc₁⟩
  rw [← registeredBy_without hne, hdiff, registeredBy_without hne, hq]

/-- Another service, with a queue of any name. -/
def readConfig (retryQueueName : String) : ClientConfig :=
  { feedConfig "mq2" with retryQueueName, clientServiceName := "ReadService" }

/-- The service of `feedConfig` registers, then the services of `others`, and a message of the first
is stored, polled and handed to a worker. -/
def polledAfter (others : List ClientConfig) : List (WiredAction String) :=
  (feedConfig "mq1" :: others).map (fun c => .register ⟨c, []⟩) ++ polled.map .center

/-- The worker of `polledAfter` looks for the template. -/
def sendPolled : WiredAction String := .center (.sendRetry 0 true false)

/-- Registrations of another queue keep apart. -/
theorem separate_polledAfter {others : List ClientConfig} {w : Wired String}
    {a : WiredAction String} (ha : a ∈ polledAfter others)
    (hother : ∀ c ∈ others, c.retryQueueName ≠ "feed_retry")
    (hw : ∀ c, a.registers = some c → ¬ Registered w.registry c) :
    Separate "FeedService" (fun _ => "FeedService") (· = "feed_retry") w a where
  process c m he _ := by
    subst he
    simp only [polledAfter, polled, List.map_cons, List.map_nil, List.mem_append, List.mem_cons,
      List.mem_map, reduceCtorEq, and_false, exists_false, false_or, WiredAction.center.injEq,
      Action.process.injEq, List.not_mem_nil, or_false] at ha
    rw [ha.2]
    rfl
  failOver m he _ := by
    subst he
    simp [polledAfter, polled] at ha
  others c hc hq hne := by
    cases a with
    | register r =>
        cases hc
        simp only [polledAfter, polled, List.map_cons, List.map_nil, List.mem_append, List.mem_cons,
          List.mem_map, reduceCtorEq, WiredAction.register.injEq, List.not_mem_nil, or_false] at ha
        rcases ha with rfl | ⟨c, hc, rfl⟩
        · exact absurd rfl hne
        · exact absurd hq (hother c hc)
    | center b => cases hc
  own c hc _ _ hreg := absurd hreg (hw c hc)

instance (g : Registry) (c : ClientConfig) : Decidable (Registered g c) :=
  inferInstanceAs (Decidable (_ = _))

/-- The polled message, after registrations of another queue. -/
theorem leavesAlone_polledAfter {others : List ClientConfig} {w : Wired String}
    (h : exec (Wired.step .sample exceptionQueue) (Wired.start .empty) (polledAfter others) =
      some w)
    (hother : ∀ c ∈ others, c.retryQueueName ≠ "feed_retry")
    (hnew : ∀ p ∈ trace (Wired.step .sample exceptionQueue) (Wired.start .empty)
      (polledAfter others), p.2.registers.all fun c => ¬ Registered p.1.registry c) :
    LeavesAlone .sample exceptionQueue "FeedService" (fun _ => "FeedService") (· = "feed_retry")
      .empty (trace (Wired.step .sample exceptionQueue) (Wired.start .empty) (polledAfter others))
      w where
  start _ _ _ h := nomatch h
  run := (Run.of_exec h).to_guarded fun p hp =>
    separate_polledAfter (mem_trace hp) hother fun c hc => by
      have hp := hnew p hp
      rw [hc] at hp
      simpa using hp

/-- A registration of another queue does not change where the message goes. -/
theorem routes_agree_sample :
    ∃ w₁ w₂ p₁ p₂, exec (Wired.step .sample exceptionQueue) (Wired.start .empty) (polledAfter []) =
        some w₁ ∧
      exec (Wired.step .sample exceptionQueue) (Wired.start .empty)
        (polledAfter [readConfig "read_retry"]) = some w₂ ∧
      w₁.routes sendPolled = some p₁ ∧ w₂.routes sendPolled = some p₂ ∧ p₁.1 = p₂.1 := by
  obtain ⟨w₁, h₁⟩ : ∃ w, exec (Wired.step .sample exceptionQueue) (Wired.start .empty)
    (polledAfter []) = some w := ⟨_, rfl⟩
  obtain ⟨w₂, h₂⟩ : ∃ w, exec (Wired.step .sample exceptionQueue) (Wired.start .empty)
    (polledAfter [readConfig "read_retry"]) = some w := ⟨_, rfl⟩
  have hl₁ := leavesAlone_polledAfter h₁ nofun (by decide)
  have hl₂ := leavesAlone_polledAfter h₂ (by decide) (by decide)
  have hr₁ : w₁.routes sendPolled = some ((feedConfig "mq1").toConnectionConfig,
    sampleMessage .defaultMsgFlag 1 "post 1") := by cases h₁; rfl
  have hr₂ : w₂.routes sendPolled = some ((feedConfig "mq1").toConnectionConfig,
    sampleMessage .defaultMsgFlag 1 "post 1") := by cases h₂; rfl
  refine ⟨w₁, w₂, _, _, h₁, h₂, hr₁, hr₂, ?_⟩
  have hne : "ReadService" ≠ "FeedService" := by decide
  exact (routes_agree hne hl₁ hl₂ rfl hr₁ hr₂ rfl rfl rfl).1

/-- A service that registers a queue of the same name takes the messages of the first to its own
broker. -/
theorem routes_disagree :
    ∃ w₁ w₂ p₁ p₂, exec (Wired.step .sample exceptionQueue) (Wired.start .empty) (polledAfter []) =
        some w₁ ∧
      exec (Wired.step .sample exceptionQueue) (Wired.start .empty)
        (polledAfter [readConfig "feed_retry"]) = some w₂ ∧
      w₁.routes sendPolled = some p₁ ∧ w₂.routes sendPolled = some p₂ ∧ p₁.2 = p₂.2 ∧
      p₁.1 ≠ p₂.1 ∧ p₁.1 = (feedConfig "mq1").toConnectionConfig ∧
      p₂.1 = (readConfig "feed_retry").toConnectionConfig :=
  ⟨_, _, _, _, rfl, rfl, rfl, rfl, rfl, by decide, rfl, rfl⟩

/-! ### Messages go where they were routed -/

/-- The connection that a request has was taken for its record. -/
def Routed (tr : List (Wired B × WiredAction B)) (w : Wired B) : Prop :=
  ∀ i act r conn, w.center.requests i = some act → act.state = .ready r →
    w.templates i = some conn →
    ∃ p ∈ tr, p.1.routes p.2 = some (conn, MRFRecoverService.constructRetryMessage r)

omit [BusinessMsg B] in
/-- A request is ready to send a record since it found the template. -/
theorem requestProtocol_ready {st : RequestState B} {op : RecoverOp B}
    {res : Except String op.Res} {r : Recover B}
    (h : requestProtocol.next st op res = .ready r) :
    st = .out r ∧ ∃ q, op = .getRetryRabbitTemplate q := by
  cases op with
  | getRecover y => rcases res with e | _ | r' <;> cases st <;> cases h
  | checkOutRecover y => cases st <;> cases res <;> cases h
  | deleteRecover y => cases st <;> cases h
  | getRetryRabbitTemplate q =>
      cases st with
      | out r' =>
          rcases res with e | _ | _
          · cases h
          · cases h
          · cases h
            exact ⟨rfl, q, rfl⟩
      | _ => cases h
  | convertAndSend k m => cases st <;> cases h

/-- A request that is ready was ready before, and has not moved, or has just found the template. -/
theorem State.Stepped.ready_inv {s s' : State B} {b : Action B} (h : Stepped cfg s b s') {i : Nat}
    {act : Request B} {r : Recover B} (hi : s'.requests i = some act) (hst : act.state = .ready r) :
    (s.requests i = some act ∧ ∀ raises found, b ≠ .requestStep i raises found) ∨
      ∃ raises found q act₀, b = .requestStep i raises found ∧ s.requests i = some act₀ ∧
        act₀.state = .out r ∧ s.call b = some (.getRetryRabbitTemplate q) := by
  rcases h.requests_inv hi with
    ⟨hi, hne⟩ | ⟨req, rfl⟩ | ⟨raises, found, act₀, op, k, rfl, hi₀, hk, rfl⟩
  · exact .inl ⟨hi, hne⟩
  · cases hst
  · obtain ⟨hout, q, rfl⟩ := requestProtocol_ready hst
    exact .inr ⟨raises, found, q, act₀, rfl, hi₀, hout, call_requestStep hi₀ hk⟩

omit [BusinessMsg B] in
theorem Wired.templatesAfter_of_ne {b : Action B} {i : Nat}
    (h : ∀ raises found, b ≠ .requestStep i raises found) :
    w.templatesAfter b i = w.templates i := by
  cases b with
  | requestStep j raises found =>
      have hij : i ≠ j := fun he => h raises found (he ▸ rfl)
      simp only [Wired.templatesAfter]
      cases w.center.call (.requestStep j raises found) with
      | none => rfl
      | some op =>
          cases op with
          | getRetryRabbitTemplate q => exact Function.update_of_ne hij _ _
          | _ => rfl
  | _ => rfl

omit [BusinessMsg B] in
theorem Wired.resolve_requestStep {b : Action B} {i : Nat} {raises found : Bool}
    (h : w.resolve b = .requestStep i raises found) :
    ∃ found', b = .requestStep i raises found' := by
  cases b with
  | requestStep j raises' found' => cases h; exact ⟨found', rfl⟩
  | _ => cases h

/-- A template that a request has was taken for its record. -/
theorem Routed.step (hw : Routed tr w) (h : w.step cfg qc a = some w') :
    Routed (tr ++ [(w, a)]) w' := by
  have old : ∀ {i act r conn}, w.center.requests i = some act → act.state = .ready r →
      w.templates i = some conn → ∃ p ∈ tr ++ [(w, a)],
        p.1.routes p.2 = some (conn, MRFRecoverService.constructRetryMessage r) := by
    intro i act r conn hi hst htemp
    obtain ⟨p, hp, hroute⟩ := hw i act r conn hi hst htemp
    exact ⟨p, List.mem_append_left _ hp, hroute⟩
  cases a with
  | register r =>
      simp only [Wired.step] at h
      split at h
      · cases h
        exact fun i act r conn hi hst htemp => old hi hst htemp
      · cases h
  | center b =>
      obtain ⟨s', hs', rfl⟩ := Option.map_eq_some_iff.mp h
      intro i act r conn hi hst htemp
      rcases (step_stepped hs').ready_inv hi hst with
        ⟨hi₀, hne⟩ | ⟨raises, found, q, act₀, hb, hi₀, hout, hcall⟩
      · have hsame : w.templatesAfter b i = w.templates i :=
          Wired.templatesAfter_of_ne fun raises found hb => hne raises _ (by rw [hb]; rfl)
        exact old hi₀ hst (hsame.symm.trans htemp)
      · obtain ⟨found', rfl⟩ := Wired.resolve_requestStep hb
        have hcall' : w.center.call (.requestStep i raises found') =
            some (.getRetryRabbitTemplate q) := hcall
        simp only [Wired.templatesAfter, hcall', Function.update_self] at htemp
        refine ⟨_, List.mem_append_right _ (List.mem_singleton_self _), ?_⟩
        simp only [Wired.routes, hi₀, Option.bind_some, hout, RequestState.record]
        rw [htemp]
        rfl

theorem Routed.run {tr₀ : List (Wired B × WiredAction B)}
    (h : Run (stepOf (Wired.step cfg qc)) w tr w') (hw : Routed tr₀ w) : Routed (tr₀ ++ tr) w' := by
  induction h generalizing tr₀ with
  | nil => rwa [List.append_nil]
  | cons hstep _ ih =>
      have hrest := ih (hw.step hstep)
      rwa [List.append_assoc] at hrest

omit [BusinessMsg B] in
theorem routed_start : Routed [] (Wired.start t : Wired B) := fun _ _ _ _ hi => nomatch hi

theorem requestsConform_run (h : Run (stepOf (Wired.step cfg qc)) (Wired.start t) tr w) :
    RequestsConform w.center := by
  refine h.invariant (I := fun w => RequestsConform w.center) ?_ fun _ _ hi => nomatch hi
  intro w₁ a w₂ hstep hc
  cases a with
  | register r =>
      simp only [stepOf, Wired.step] at hstep
      split at hstep
      · cases hstep; exact hc
      · cases hstep
  | center b =>
      obtain ⟨s', hs', rfl⟩ := Option.map_eq_some_iff.mp hstep
      exact hc.step (step_stepped hs')

/-- **A message is sent over the connection that was taken for it.** -/
theorem sends_routed (h : Run (stepOf (Wired.step cfg qc)) (Wired.start t) tr w)
    {conn : ConnectionConfig} {m : RetryMessage B} (hsend : w.sends a = some (conn, m)) :
    ∃ p ∈ tr ++ [(w, a)], p.1.routes p.2 = some (conn, m) := by
  have hconf := requestsConform_run h
  cases a with
  | register r => cases hsend
  | center b =>
      cases b with
      | sendRetry v found raises =>
          cases raises with
          | true => cases hsend
          | false => exact ⟨_, List.mem_append_right _ (List.mem_singleton_self _), hsend⟩
      | requestStep i raises found =>
          simp only [Wired.sends] at hsend
          split at hsend
          · next st k m' f hi =>
              split at hsend
              · cases hsend
              · obtain ⟨conn', htemp, hsend⟩ := Option.map_eq_some_iff.mp hsend
                cases hsend
                obtain ⟨r, rfl, -, rfl, -⟩ := requestProtocol_send ((hconf i _ hi).allows rfl)
                have hrouted := routed_start.run h
                obtain ⟨p, hp, hroute⟩ := hrouted i _ r conn hi rfl htemp
                exact ⟨p, List.mem_append_left _ hp, hroute⟩
          · cases hsend
      | _ => cases hsend

end MRF.Center
