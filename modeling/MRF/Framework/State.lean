import MRF.Center.State
import MRF.Client.Handling

/-!
# Framework — State

The clients and the center as one machine.  Business messages and retry messages are delivered to
threads of the clients; a thread runs a wrapper's `onMessage` call by call, and the center and
other threads go on in between.  The broker redelivers a message whose `onMessage` throws.  An RPC
may work, raise without being executed, or raise and be executed at any later time.

The log has what the outside can see of a message: what its listener did, that its `onMessage`
returned, that an admin deleted its record.
-/

namespace MRF
open MRF.Library MRF.Center MRF.Client

variable {B Msg : Type} [BusinessMsg B]

/-- The client service: its classes and serializer, and its configurations. -/
structure ClientService (B Msg : Type) where
  env : ClientEnv B Msg
  retryServiceConfig : RetryServiceConfig

/-- The configuration that the listener container of a retry queue was built with. -/
def ClientService.ofRetryQueue (service : ClientService B Msg) (retryQueueName : String) :
    Option RetryQueueConfig :=
  service.retryServiceConfig.retryQueueConfigs.find? fun c =>
    getRetryQueueName c.businessQueueName = retryQueueName

/-- What a thread was given to handle. -/
inductive Source (B Msg : Type) where
  | business (businessQueueName : String) (m : Msg)
  | retry (m : RetryMessage B)

/-- A client thread with a message that the broker waits to have acknowledged. -/
structure ClientThread (B Msg : Type) where
  source : Source B Msg
  config : RetryQueueConfig
  run : Activation (ClientOp B Msg) ClientOp.Res Throwable (Handling B) Unit

/-- What the outside sees. -/
inductive Event (B Msg : Type) where
  /-- The business listener of `m` returned, or threw. -/
  | listened (m : Msg) (outcome : Except Throwable Unit)
  /-- `onMessage` returned, on a message whose listener did `called`. -/
  | returned (source : Source B Msg) (called : Option (Except Throwable Unit))
  /-- An admin deleted a recover row. -/
  | deleted (businessMsg : B)

/-- The center, its clients, and what is on the way between them. -/
structure Framework (B Msg : Type) where
  center : State B
  /-- The messages of the business queues. -/
  business : List (String × Msg)
  threads : Nat → Option (ClientThread B Msg)
  /-- RPCs that have raised at the client, and may still arrive. -/
  rpcs : List (RetryMessage B)
  log : List (Event B Msg)

/-- How a call of a client thread goes. -/
inductive Answer where
  | works
  /-- The call answers null. -/
  | answersNull
  | raises (t : Throwable)
  /-- The RPC raises, and is on its way. -/
  | timesOut (t : Throwable)

namespace Framework

/-- Whatever the service throws arrives at the client as this. -/
def tApplicationException : Throwable := ⟨"org.apache.thrift.TApplicationException"⟩

/-- A step of the center, of the broker or of a client. -/
inductive Step (B : Type) where
  /-- A step of the center that no client takes part in. -/
  | center (a : Center.Action B)
  /-- An RPC arrives that has raised before. -/
  | arrive (n : Nat) (c : Call)
  | deliverBusiness (i n : Nat)
  | deliverRetry (i n : Nat)
  /-- A thread makes its next call. -/
  | call (i : Nat) (c : Call) (answer : Answer)
  /-- A thread is done: its message is acknowledged, or redelivered. -/
  | finish (i : Nat)

/-- The actions of the center that are not a client's. -/
def isInternal : Center.Action B → Bool
  | .process _ _ | .failOver _ | .publish _ | .deliver _ => false
  | _ => true

/-- The center with a message at the end of a queue. -/
def failOver (s : Framework B Msg) (m : RetryMessage B) : Framework B Msg :=
  { s with center := { s.center with exceptionQueue := s.center.exceptionQueue ++ [m] } }

/-- A message goes to its retry queue. -/
def publish (s : Framework B Msg) (m : RetryMessage B) : Framework B Msg :=
  { s with center := { s.center with retryQueues := s.center.retryQueues ++ [m] } }

/-- What the center answers to the RPC. -/
def processAnswer (s : Framework B Msg) (c : Call) (m : RetryMessage B) : Except Throwable Unit :=
  match (MRFServiceImpl.process (s.center.env c) m s.center.tables).1 with
  | .ok () => .ok ()
  | .error _ => .error tApplicationException

/-- The answer to a call of a client thread. -/
def serve (s : Framework B Msg) (c : Call) : (op : ClientOp B Msg) → Answer →
    Option (Except Throwable op.Res × Framework B Msg)
  | .invokeBusinessMessage m, .works =>
      some (.ok (), { s with log := s.log ++ [.listened m (.ok ())] })
  | .invokeBusinessMessage m, .raises t =>
      some (.error t, { s with log := s.log ++ [.listened m (.error t)] })
  | .getThriftConnection, .works => some (.ok true, s)
  | .getThriftConnection, .answersNull => some (.ok false, s)
  | .process m, .works => some (s.processAnswer c m, { s with center := s.center.process c m })
  | .process m, .timesOut t => some (.error t, { s with rpcs := s.rpcs ++ [m] })
  | .getExceptionRabbitTemplate, .works => some (.ok true, s)
  | .getExceptionRabbitTemplate, .answersNull => some (.ok false, s)
  | .sendToExceptionQueue m, .works => some (.ok (), s.failOver m)
  | .sendToRetryQueue m, .works => some (.ok (), s.publish m)
  | .doRecoverCallback _, .works => some (.ok (), s)
  | _, .raises t => some (.error t, s)
  | _, _ => none

/-- The deleted row, if the step was an admin's delete. -/
def deletions (c c' : State B) (a : Center.Action B) : List (Event B Msg) :=
  match c.call a with
  | some (.deleteRecover x) =>
      match c.tables.recover.get x, c'.tables.recover.get x with
      | some r, none => [.deleted r.businessMsg]
      | _, _ => []
  | _ => []

/-- A business message is delivered to a free thread. -/
def deliverBusiness (service : ClientService B Msg) (s : Framework B Msg) (i n : Nat) :
    Option (Framework B Msg) :=
  match s.threads i, s.business[n]? with
  | none, some (q, m) =>
      (service.retryServiceConfig.getRetryQueueConfig q).map fun c => { s with
        business := s.business.eraseIdx n
        threads := Function.update s.threads i
          (some ⟨.business q m, c, ⟨.start, (BusinessMessageListenerWrapper.initial c).onMessage
            service.env m⟩⟩) }
  | _, _ => none

/-- A retry message is delivered to a free thread. -/
def deliverRetry (service : ClientService B Msg) (s : Framework B Msg) (i n : Nat) :
    Option (Framework B Msg) :=
  match s.threads i, s.center.retryQueues[n]? with
  | none, some m =>
      (service.ofRetryQueue m.retryQueueName).map fun c => { s with
        center := { s.center with retryQueues := s.center.retryQueues.eraseIdx n }
        threads := Function.update s.threads i
          (some ⟨.retry m, c, ⟨.start, RetryMessageListener.onMessage service.env c (some m)⟩⟩) }
  | _, _ => none

/-- A thread makes its next call, and gets its answer. -/
def call (s : Framework B Msg) (i : Nat) (c : Call) (answer : Answer) : Option (Framework B Msg) :=
  match s.threads i with
  | some th =>
      match th.run.rest with
      | .call op k =>
          (s.serve c op answer).map fun p => { p.2 with
            threads := Function.update s.threads i
              (some { th with run := ⟨th.run.state.next op p.1, k p.1⟩ }) }
      | _ => none
  | none => none

/-- The broker gets the message back. -/
def redeliver (s : Framework B Msg) : Source B Msg → Framework B Msg
  | .business q m => { s with business := s.business ++ [(q, m)] }
  | .retry m => s.publish m

/-- A thread has come to its end. -/
def finish (s : Framework B Msg) (i : Nat) : Option (Framework B Msg) :=
  match s.threads i with
  | some th =>
      match th.run.rest with
      | .ret () => some { s with
          threads := Function.update s.threads i none
          log := s.log ++ [.returned th.source th.run.state.called] }
      | .throw _ => some { s.redeliver th.source with threads := Function.update s.threads i none }
      | .call _ _ => none
  | none => none

/-- One step of the whole system; `none` where it is not enabled. -/
def step (cfg : MRFServerConfig) (service : ClientService B Msg) (s : Framework B Msg) :
    Step B → Option (Framework B Msg)
  | .center a =>
      if isInternal a then
        (s.center.step cfg a).map fun c => { s with
          center := c
          log := s.log ++ deletions s.center c a }
      else none
  | .arrive n c =>
      match s.rpcs[n]? with
      | some m => some { s with center := s.center.process c m, rpcs := s.rpcs.eraseIdx n }
      | none => none
  | .deliverBusiness i n => s.deliverBusiness service i n
  | .deliverRetry i n => s.deliverRetry service i n
  | .call i c answer => s.call i c answer
  | .finish i => s.finish i

/-! ### The steps -/

variable {cfg : MRFServerConfig} {service : ClientService B Msg} {s s' : Framework B Msg}

/-- The answers that a call can get, each with what it leaves. -/
inductive Served (s : Framework B Msg) (c : Call) :
    (op : ClientOp B Msg) → Except Throwable op.Res → Framework B Msg → Prop where
  | listened (m : Msg) (outcome : Except Throwable Unit) :
      Served s c (.invokeBusinessMessage m) outcome
        { s with log := s.log ++ [.listened m outcome] }
  | connection (found : Bool) : Served s c .getThriftConnection (.ok found) s
  | process (m : RetryMessage B) :
      Served s c (.process m) (s.processAnswer c m) { s with center := s.center.process c m }
  | timedOut (m : RetryMessage B) (t : Throwable) :
      Served s c (.process m) (.error t) { s with rpcs := s.rpcs ++ [m] }
  | template (found : Bool) : Served s c .getExceptionRabbitTemplate (.ok found) s
  | failedOver (m : RetryMessage B) : Served s c (.sendToExceptionQueue m) (.ok ()) (s.failOver m)
  | published (m : RetryMessage B) : Served s c (.sendToRetryQueue m) (.ok ()) (s.publish m)
  | calledBack (m : Msg) : Served s c (.doRecoverCallback m) (.ok ()) s
  | raised {op : ClientOp B Msg} (t : Throwable) (h : ∀ m, op ≠ .invokeBusinessMessage m) :
      Served s c op (.error t) s

/-- A call that is served takes one of the ways below. -/
theorem serve_served {c : Call} {op : ClientOp B Msg} {answer : Answer}
    {r : Except Throwable op.Res} (h : s.serve c op answer = some (r, s')) :
    Served s c op r s' := by
  cases op with
  | invokeBusinessMessage m => cases answer <;> cases h <;> exact .listened m _
  | getThriftConnection =>
      cases answer <;> cases h
      · exact .connection true
      · exact .connection false
      · exact .raised _ nofun
  | process m =>
      cases answer <;> cases h
      · exact .process m
      · exact .raised _ nofun
      · exact .timedOut m _
  | getExceptionRabbitTemplate =>
      cases answer <;> cases h
      · exact .template true
      · exact .template false
      · exact .raised _ nofun
  | sendToExceptionQueue m =>
      cases answer <;> cases h
      · exact .failedOver m
      · exact .raised _ nofun
  | sendToRetryQueue m =>
      cases answer <;> cases h
      · exact .published m
      · exact .raised _ nofun
  | doRecoverCallback m =>
      cases answer <;> cases h
      · exact .calledBack m
      · exact .raised _ nofun

/-- The enabled steps of a state, each with the state it leads to. -/
inductive Stepped (cfg : MRFServerConfig) (service : ClientService B Msg) (s : Framework B Msg) :
    Step B → Framework B Msg → Prop where
  | center {a : Center.Action B} {c : State B} (hi : isInternal a = true)
      (h : s.center.step cfg a = some c) :
      Stepped cfg service s (.center a)
        { s with center := c, log := s.log ++ deletions s.center c a }
  | arrive {n : Nat} {c : Call} {m : RetryMessage B} (hn : s.rpcs[n]? = some m) :
      Stepped cfg service s (.arrive n c)
        { s with center := s.center.process c m, rpcs := s.rpcs.eraseIdx n }
  | deliverBusiness {i n : Nat} {q : String} {m : Msg} {c : RetryQueueConfig}
      (hi : s.threads i = none) (hn : s.business[n]? = some (q, m))
      (hc : service.retryServiceConfig.getRetryQueueConfig q = some c) :
      Stepped cfg service s (.deliverBusiness i n) { s with
        business := s.business.eraseIdx n
        threads := Function.update s.threads i
          (some ⟨.business q m, c, ⟨.start, (BusinessMessageListenerWrapper.initial c).onMessage
            service.env m⟩⟩) }
  | deliverRetry {i n : Nat} {m : RetryMessage B} {c : RetryQueueConfig}
      (hi : s.threads i = none) (hn : s.center.retryQueues[n]? = some m)
      (hc : service.ofRetryQueue m.retryQueueName = some c) :
      Stepped cfg service s (.deliverRetry i n) { s with
        center := { s.center with retryQueues := s.center.retryQueues.eraseIdx n }
        threads := Function.update s.threads i
          (some ⟨.retry m, c, ⟨.start, RetryMessageListener.onMessage service.env c (some m)⟩⟩) }
  | call {i : Nat} {c : Call} {answer : Answer} {th : ClientThread B Msg} {op : ClientOp B Msg}
      {k : Except Throwable op.Res → ClientProg B Msg Unit} {r : Except Throwable op.Res}
      {s₁ : Framework B Msg} (hi : s.threads i = some th) (hk : th.run.rest = .call op k)
      (hs : s.serve c op answer = some (r, s₁)) :
      Stepped cfg service s (.call i c answer) { s₁ with
        threads := Function.update s.threads i
          (some { th with run := ⟨th.run.state.next op r, k r⟩ }) }
  | returned {i : Nat} {th : ClientThread B Msg} (hi : s.threads i = some th)
      (hr : th.run.rest = .ret ()) :
      Stepped cfg service s (.finish i) { s with
        threads := Function.update s.threads i none
        log := s.log ++ [.returned th.source th.run.state.called] }
  | thrown {i : Nat} {th : ClientThread B Msg} {e : Throwable} (hi : s.threads i = some th)
      (hr : th.run.rest = .throw e) :
      Stepped cfg service s (.finish i)
        { s.redeliver th.source with threads := Function.update s.threads i none }

/-- **The steps of the framework.** -/
theorem step_stepped {a : Step B} (h : s.step cfg service a = some s') :
    Stepped cfg service s a s' := by
  cases a with
  | center a =>
      simp only [step] at h
      split at h
      · next hi =>
          obtain ⟨c, hc, rfl⟩ := Option.map_eq_some_iff.mp h
          exact .center hi hc
      · cases h
  | arrive n c =>
      simp only [step] at h
      split at h
      · next hn => cases h; exact .arrive hn
      · cases h
  | deliverBusiness i n =>
      simp only [step, deliverBusiness] at h
      split at h
      · next hi hn =>
          obtain ⟨c, hc, rfl⟩ := Option.map_eq_some_iff.mp h
          exact .deliverBusiness hi hn hc
      · cases h
  | deliverRetry i n =>
      simp only [step, deliverRetry] at h
      split at h
      · next hi hn =>
          obtain ⟨c, hc, rfl⟩ := Option.map_eq_some_iff.mp h
          exact .deliverRetry hi hn hc
      · cases h
  | call i c answer =>
      simp only [step, call] at h
      split at h
      · next hi =>
          split at h
          · next hk =>
              obtain ⟨p, hs, rfl⟩ := Option.map_eq_some_iff.mp h
              exact .call hi hk hs
          · cases h
      · cases h
  | finish i =>
      simp only [step, finish] at h
      split at h
      · next hi =>
          split at h
          · next hr => cases h; exact .returned hi hr
          · next hr => cases h; exact .thrown hi hr
          · cases h
      · cases h

/-- Each of these steps is enabled. -/
theorem Stepped.step_eq (h : Stepped cfg service s a s') : s.step cfg service a = some s' := by
  cases h with
  | center hi h => simp only [step, hi, if_true, h, Option.map_some]
  | arrive hn => simp only [step, hn]
  | deliverBusiness hi hn hc =>
      simp only [step, Framework.deliverBusiness, hi, hn, hc, Option.map_some]
  | deliverRetry hi hn hc => simp only [step, Framework.deliverRetry, hi, hn, hc, Option.map_some]
  | call hi hk hs => simp only [step, Framework.call, hi, hk, hs, Option.map_some]
  | returned hi hr => simp only [step, finish, hi, hr]
  | thrown hi hr => simp only [step, finish, hi, hr]

/-- The action of the center that a step is. -/
def centerAction (s : Framework B Msg) : Step B → Option (Center.Action B)
  | .center a => some a
  | .arrive n c => (s.rpcs[n]?).map fun m => .process c m
  | .deliverBusiness _ _ => none
  | .deliverRetry _ n => some (.deliver n)
  | .call i c answer =>
      match s.threads i, answer with
      | some th, .works =>
          match th.run.rest with
          | .call (.process m) _ => some (.process c m)
          | .call (.sendToExceptionQueue m) _ => some (.failOver m)
          | .call (.sendToRetryQueue m) _ => some (.publish m)
          | _ => none
      | _, _ => none
  | .finish i =>
      match s.threads i with
      | some th =>
          match th.run.rest, th.source with
          | .throw _, .retry m => some (.publish m)
          | _, _ => none
      | none => none

/-- The message that a step applies to the tables. -/
def message (s : Framework B Msg) (a : Step B) : Option (Call × RetryMessage B) :=
  (s.centerAction a).bind s.center.message

/-- What a step does to the center. -/
theorem Stepped.center_stepped {a : Step B} (h : Stepped cfg service s a s') :
    (s.centerAction a = none ∧ s'.center = s.center) ∨
      ∃ a', s.centerAction a = some a' ∧ State.Stepped cfg s.center a' s'.center := by
  cases h with
  | center hi h => exact .inr ⟨_, rfl, State.step_stepped h⟩
  | @arrive n c m hn =>
      exact .inr ⟨.process c m, by simp only [centerAction, hn, Option.map_some], .process c m⟩
  | deliverBusiness hi hn hc => exact .inl ⟨rfl, rfl⟩
  | deliverRetry hi hn hc =>
      exact .inr ⟨_, rfl, .deliver (List.getElem?_eq_some_iff.mp hn).1⟩
  | @call i c answer th op k r s₁ hi hk hs =>
      cases answer with
      | works =>
          cases op with
          | process m =>
              cases hs
              exact .inr ⟨.process c m, by simp only [centerAction, hi, hk], .process c m⟩
          | sendToExceptionQueue m =>
              cases hs
              exact .inr ⟨.failOver m, by simp only [centerAction, hi, hk], .failOver m⟩
          | sendToRetryQueue m =>
              cases hs
              exact .inr ⟨.publish m, by simp only [centerAction, hi, hk], .publish m⟩
          | _ => cases hs; exact .inl ⟨by simp only [centerAction, hi, hk], rfl⟩
      | _ => cases op <;> cases hs <;> exact .inl ⟨by simp only [centerAction, hi], rfl⟩
  | @returned i th hi hr =>
      refine .inl ⟨?_, rfl⟩
      simp only [centerAction, hi, hr]
  | @thrown i th e hi hr =>
      cases hsrc : th.source with
      | business q m => exact .inl ⟨by simp only [centerAction, hi, hr, hsrc], rfl⟩
      | retry m => exact .inr ⟨.publish m, by simp only [centerAction, hi, hr, hsrc], .publish m⟩

omit [BusinessMsg B] in
/-- Nothing but business messages, at the start. -/
def start (business : List (String × Msg)) : Framework B Msg :=
  { center := .empty, business, threads := fun _ => none, rpcs := [], log := [] }

end Framework

/-! ### Samples -/

theorem feed_ne : "feed" ≠ "" := by decide

theorem neg_one_le_interval : (-1 : Int64) ≤ 5000 := by decide

theorem neg_one_le_times : (-1 : Int32) ≤ 3 := by decide

/-- A client with one business queue; its serializer refuses an empty message. -/
def ClientService.sample (retryInterval : Int64) (retryTimes : Int32)
    (hi : -1 ≤ retryInterval) (ht : -1 ≤ retryTimes) : ClientService String String where
  env :=
    { classPath := ⟨fun _ => true, fun _ _ => true⟩
      serializer := ⟨fun m => if m = "" then .error nullPointerException else .ok m, .ok⟩ }
  retryServiceConfig :=
    ⟨[⟨"feed", retryInterval, retryTimes, [], false, feed_ne, hi, ht⟩]⟩

/-- What the listener and the network throw. -/
def sampleThrowable : Throwable := ⟨"java.lang.IllegalStateException"⟩

end MRF
