import MRF.Framework.Steps

/-!
# Framework — Sound

What holds of everything that is on its way, in every state.  A thread keeps to the protocol of
its handling; a message that a client sends has the id, the queue and the business message of the
message it handles; a record has those of a message.  So what is true of the business messages at
the start stays true of every record and message: `Sound` says so for any property `Ok` of an id,
a queue and a business message.
-/

namespace MRF
open MRF.Library MRF.Center MRF.Client BusinessMessageListenerWrapper

variable {B Msg : Type} [BusinessMsg B]

/-- The serializer makes this of the message. -/
abbrev ClientService.Serializes (service : ClientService B Msg) (m : Msg) (b : B) : Prop :=
  service.env.serializer.serialize m = .ok b

/-- What was serialized deserializes, and is not empty. -/
def Client.MessageSerializer.RoundTrips (ser : MessageSerializer B Msg) : Prop :=
  ∀ m b, ser.serialize m = .ok b → ser.deserialize b = .ok m ∧ BusinessMsg.isEmpty b = false

/-- The wrapper that a thread runs. -/
def ClientThread.wrapper (th : ClientThread B Msg) : BusinessMessageListenerWrapper :=
  match th.source with
  | .business _ _ => .initial th.config
  | .retry m => .retry th.config m.retriedTimes m.isFromRecover m.msgID

omit [BusinessMsg B] in
theorem ClientThread.wrapper_retryQueueConfig (th : ClientThread B Msg) :
    th.wrapper.retryQueueConfig = th.config := by
  unfold ClientThread.wrapper
  split <;> rfl

/-- The business message of a source. -/
def Source.message (ser : MessageSerializer B Msg) : Source B Msg → Except Throwable Msg
  | .business _ m => .ok m
  | .retry m => ser.deserialize m.businessMsg

/-- The retry queue of a source. -/
def Source.retryQueueName : Source B Msg → String
  | .business q _ => getRetryQueueName q
  | .retry m => m.retryQueueName

/-- The thread runs under the configuration of its queue, and keeps to the protocol. -/
structure ClientThread.Sound (service : ClientService B Msg) (reliable : Source B Msg → Prop)
    (th : ClientThread B Msg) : Prop where
  config : service.ofRetryQueue (getRetryQueueName th.config.businessQueueName) = some th.config
  queue : th.source.retryQueueName = getRetryQueueName th.config.businessQueueName
  run : ∀ m, th.source.message service.env.serializer = .ok m →
    th.run.Conforms (handling service.env th.wrapper m (reliable th.source))
      (fun s _ => s.Done service.env th.wrapper m)
      (fun s _ => s.Thrown service.env th.wrapper (reliable th.source))

omit [BusinessMsg B] in
/-- A retry message is handled under the configuration of its queue. -/
theorem ClientThread.Sound.ofRetryQueue {service : ClientService B Msg}
    {reliable : Source B Msg → Prop} {th : ClientThread B Msg} (h : th.Sound service reliable)
    {m : RetryMessage B} (hsrc : th.source = .retry m) :
    service.ofRetryQueue m.retryQueueName = some th.config := by
  have hq := h.queue
  rw [hsrc] at hq
  change m.retryQueueName = _ at hq
  rw [hq, h.config]

omit [BusinessMsg B] in
/-- The retry queue of a configured queue has that configuration. -/
theorem ClientService.ofRetryQueue_of_get {service : ClientService B Msg} {q : String}
    {c : RetryQueueConfig} (h : service.retryServiceConfig.getRetryQueueConfig q = some c) :
    service.ofRetryQueue (getRetryQueueName c.businessQueueName) = some c := by
  obtain rfl := RetryServiceConfig.businessQueueName_of_get h
  unfold ofRetryQueue
  rw [← h]
  unfold RetryServiceConfig.getRetryQueueConfig
  congr 1
  funext c'
  simp only [decide_eq_decide]
  exact ⟨fun he => (getRetryQueueName_inj he).symm, fun he => by rw [he]⟩

omit [BusinessMsg B] in
/-- A configuration is found under the name of its retry queue. -/
theorem ClientService.ofRetryQueue_name {service : ClientService B Msg} {q : String}
    {c : RetryQueueConfig} (h : service.ofRetryQueue q = some c) :
    getRetryQueueName c.businessQueueName = q := by
  simpa using List.find?_some h

namespace Framework

variable {cfg : MRFServerConfig} {service : ClientService B Msg} {s s' : Framework B Msg}
  {a : Step B} {m : RetryMessage B} {x : Int} {q : String} {b : B}

/-! ### Threads -/

/-- The calls of the clients are answered as the protocol assumes, in a world that is reliable for
the sources in `reliable`. -/
def Answers (reliable : Source B Msg → Prop) (s : Framework B Msg) (a : Step B) : Prop :=
  ∀ i c answer th op k r s₁, a = .call i c answer → s.threads i = some th →
    th.run.rest = .call op k → s.serve c op answer = some (r, s₁) →
      Assumed (reliable th.source) op r

/-- A factory that does not answer null is all that is asked of a world that is not reliable. -/
theorem answers_of_ne_answersNull (h : ∀ i c, a ≠ .call i c .answersNull) :
    s.Answers (fun _ => False) a := by
  rintro i c answer th op k r s₁ rfl hi hk hs
  have hserved := serve_served hs
  cases hserved with
  | connection found =>
      cases answer with
      | works => cases hs; rfl
      | answersNull => exact absurd rfl (h i c)
      | raises t => cases hs
      | timesOut t => cases hs
  | template found => exact False.elim
  | process m =>
      cases s.processAnswer c m with
      | ok => trivial
      | error => exact id
  | timedOut m t => exact id
  | @raised op t hop =>
      cases op with
      | invokeBusinessMessage m => exact absurd rfl (hop m)
      | _ => exact id
  | _ => trivial

/-- A step keeps the threads sound. -/
theorem Stepped.threads_sound {reliable : Source B Msg → Prop}
    (hser : ∀ source m, reliable source → source.message service.env.serializer = .ok m →
      ∃ b, service.env.serializer.serialize m = .ok b)
    (h : Stepped cfg service s a s') (ha : s.Answers reliable a)
    (hs : ∀ i th, s.threads i = some th → th.Sound service reliable) :
    ∀ i th, s'.threads i = some th → th.Sound service reliable := by
  intro i th hi
  cases h.threads_inv hi with
  | same hi₀ => exact hs i th hi₀
  | @business n q m c hn hc =>
      refine ⟨ClientService.ofRetryQueue_of_get hc, ?_, fun m' hm' => ?_⟩
      · exact congrArg getRetryQueueName (RetryServiceConfig.businessQueueName_of_get hc).symm
      · cases hm'
        exact wp_onMessage fun hrel => hser _ m hrel rfl
  | @retry n m c hn hc =>
      have hname := ClientService.ofRetryQueue_name hc
      refine ⟨hname ▸ hc, hname.symm, fun m' hm' => ?_⟩
      exact wp_onRetryMessage rfl hm' fun hrel => hser _ m' hrel hm'
  | @called c answer th' op k r s₁ hcall hj hk hserve hs' =>
      have hth := hs i th' hj
      refine ⟨hth.config, hth.queue, fun m hm => ?_⟩
      exact (hth.run m hm).answer hk (ha i c answer th' op k r s₁ hcall hj hk hserve)

/-- The database does not raise, on a message that is applied. -/
def DaoSucceeds (s : Framework B Msg) (a : Step B) : Prop :=
  ∀ c m, s.message a = some (c, m) → c.faults = []

/-! ### Everything on its way -/

/-- Threads and requests keep to their protocols, and `Ok` holds of every record and message. -/
structure Sound (service : ClientService B Msg) (reliable : Source B Msg → Prop)
    (Ok : Int → String → B → Prop) (s : Framework B Msg) : Prop where
  requests : RequestsConform s.center
  threads : ∀ i th, s.threads i = some th → th.Sound service reliable
  records : ∀ x q b, s.center.Records x q b → 0 < x ∧ Ok x q b
  messages : ∀ m, s.Messages m → Ok m.msgID m.retryQueueName m.businessMsg

/-- `Ok` is a property of serialized messages that every new one has. -/
structure IsContent (service : ClientService B Msg) (Ok : Int → String → B → Prop) : Prop where
  roundTrips : service.env.serializer.RoundTrips
  serialized : ∀ x q b, Ok x q b → ∃ m, service.Serializes m b
  new : ∀ m b q, service.Serializes m b → q ≠ "" → Ok 0 q b

section
variable {reliable : Source B Msg → Prop} {Ok Ok' : Int → String → B → Prop}

/-- Every thread handles a message that deserializes. -/
theorem Sound.source_message (hs : Sound service reliable Ok s) (hOk : IsContent service Ok)
    {i : Nat} {th : ClientThread B Msg} (hi : s.threads i = some th) :
    ∃ m, th.source.message service.env.serializer = .ok m := by
  cases hsrc : th.source with
  | business q m => exact ⟨m, rfl⟩
  | retry rm =>
      obtain ⟨m, hm⟩ := hOk.serialized _ _ _ (hs.messages rm (.toClient (.handled hi hsrc)))
      exact ⟨m, (hOk.roundTrips m _ hm).1⟩

/-- What is sent is what the protocol of the handling lets the thread hand over. -/
theorem Sound.mayHand (hs : Sound service reliable Ok s) (hOk : IsContent service Ok)
    (hm : s.Sends m) : ∃ i th hop m', s.threads i = some th ∧
      th.source.message service.env.serializer = .ok m' ∧
      th.run.state.MayHand service.env th.wrapper m' hop ∧ m = hop.message := by
  cases hm with
  | @process i th k hi hk =>
      obtain ⟨m', hm'⟩ := hs.source_message hOk hi
      exact ⟨i, th, .center m, m', hi, hm', ((hs.threads i th hi).run m' hm').allows hk, rfl⟩
  | @exceptionQueue i th k hi hk =>
      obtain ⟨m', hm'⟩ := hs.source_message hOk hi
      exact ⟨i, th, .center m, m', hi, hm', (((hs.threads i th hi).run m' hm').allows hk).2, rfl⟩
  | @retryQueue i th k hi hk =>
      obtain ⟨m', hm'⟩ := hs.source_message hOk hi
      exact ⟨i, th, .retryQueue m, m', hi, hm', ((hs.threads i th hi).run m' hm').allows hk, rfl⟩

/-- What becomes of a hop: the message is applied just now, or it is on its way. -/
inductive Taken (s : Framework B Msg) (a : Step B) (s' : Framework B Msg) : Hop B → Prop where
  | applied {c : Call} {m : RetryMessage B} (h : s.message a = some (c, m)) :
      Taken s a s' (.center m)
  | pending {m : RetryMessage B} (h : s'.center.Pends m) : Taken s a s' (.center m)
  | queued {m : RetryMessage B} (h : m ∈ s'.center.retryQueues) : Taken s a s' (.retryQueue m)

/-- A call that hands something over takes a hop that the protocol allows. -/
theorem Sound.taken (hsound : Sound service reliable Ok s) {i : Nat} {th : ClientThread B Msg}
    (hi : s.threads i = some th) {m : Msg}
    (hm : th.source.message service.env.serializer = .ok m) {c : Call} {answer : Answer}
    {op : ClientOp B Msg} {k : Except Throwable op.Res → ClientProg B Msg Unit}
    {r : Except Throwable op.Res} {s₁ : Framework B Msg} (ha : a = .call i c answer)
    (hk : th.run.rest = .call op k) (hs : s.serve c op answer = some (r, s₁))
    (hs' : s' = { s₁ with threads := s'.threads }) (hnil : th.run.state.handed = [])
    (hne : (th.run.state.next op r).handed ≠ []) :
    ∃ hop, th.run.state.MayHand service.env th.wrapper m hop ∧ Taken s a s' hop := by
  have hallows := ((hsound.threads i th hi).run m hm).allows hk
  have hcenter : s'.center = s₁.center := congrArg (fun s => s.center) hs'
  cases op with
  | process rm =>
      cases answer with
      | works =>
          cases hs
          refine ⟨_, hallows, .applied (c := c) ?_⟩
          simp only [message, centerAction, ha, hi, hk, Option.bind_some, State.message]
      | answersNull => cases hs
      | raises t => cases hs; exact absurd hnil hne
      | timesOut t => cases hs; exact absurd hnil hne
  | sendToExceptionQueue rm =>
      cases answer with
      | works =>
          cases hs
          refine ⟨_, hallows.2, .pending (.queue ?_)⟩
          rw [hcenter]
          exact List.mem_append_right _ (List.mem_singleton.mpr rfl)
      | raises t => cases hs; exact absurd hnil hne
      | _ => cases hs
  | sendToRetryQueue rm =>
      cases answer with
      | works =>
          cases hs
          refine ⟨_, hallows, .queued ?_⟩
          rw [hcenter]
          exact List.mem_append_right _ (List.mem_singleton.mpr rfl)
      | raises t => cases hs; exact absurd hnil hne
      | _ => cases hs
  | _ => cases r <;> exact absurd hnil hne

/-- What a client sends has the id, the queue and the business message of what it handles, or is
new. -/
theorem Sound.sends (hs : Sound service reliable Ok s) (hOk : IsContent service Ok)
    (hm : s.Sends m) : Ok m.msgID m.retryQueueName m.businessMsg := by
  obtain ⟨i, th, hop, m', hi, hm', hmay, rfl⟩ := hs.mayHand hOk hm
  obtain ⟨b, flag, f, hb, hmsg⟩ := hmay.message
  rw [hmsg]
  cases hsrc : th.source with
  | business q m₀ =>
      have hw : th.wrapper = .initial th.config := by simp only [ClientThread.wrapper, hsrc]
      rw [hw]
      exact hOk.new m' b _ hb (getRetryQueueName_ne _)
  | retry rm =>
      have hok := hs.messages rm (.toClient (.handled hi hsrc))
      have hw : th.wrapper = .retry th.config rm.retriedTimes rm.isFromRecover rm.msgID := by
        simp only [ClientThread.wrapper, hsrc]
      obtain ⟨m₀, hm₀⟩ := hOk.serialized _ _ _ hok
      rw [hsrc] at hm'
      obtain rfl : m₀ = m' := Except.ok.inj ((hOk.roundTrips m₀ _ hm₀).1.symm.trans hm')
      rw [hm₀] at hb
      cases hb
      have hq := (hs.threads i th hi).queue
      rw [hsrc] at hq
      rw [hw]
      change Ok rm.msgID (getRetryQueueName th.config.businessQueueName) rm.businessMsg
      exact hq ▸ hok

/-- A message that is applied has sound content. -/
theorem Sound.applied (hs : Sound service reliable Ok s) (h : Stepped cfg service s a s')
    (hOk : IsContent service Ok) {c : Call} (hm : s.message a = some (c, m)) :
    Ok m.msgID m.retryQueueName m.businessMsg :=
  (h.message_inv hm).elim (hs.messages m) (hs.sends hOk)

/-- **Nothing but the business messages of the start, and copies of them, is ever on its way.**
`Ok'` is what `Ok` becomes when the step generates an id. -/
theorem Sound.step (hs : Sound service reliable Ok s) (h : Stepped cfg service s a s')
    (hser : ∀ source m, reliable source → source.message service.env.serializer = .ok m →
      ∃ b, service.env.serializer.serialize m = .ok b)
    (hOk : IsContent service Ok) (ha : s.Answers reliable a)
    (hmono : ∀ x q b, Ok x q b → Ok' x q b)
    (hbrings : ∀ c m, s.message a = some (c, m) → Ok m.msgID m.retryQueueName m.businessMsg →
      ∀ x q b, s'.center.tables.HasRow x q b → Brings c.newId m x q b → Ok' x q b) :
    Sound service reliable Ok' s' := by
  refine ⟨?_, h.threads_sound hser ha hs.threads, fun x q b hx => ?_, fun m hm => ?_⟩
  · rcases h.center_stepped with ⟨-, hcenter⟩ | ⟨a', -, hst⟩
    · exact hcenter ▸ hs.requests
    · exact hs.requests.step hst
  · rcases h.center_stepped with ⟨-, hcenter⟩ | ⟨a', ha', hst⟩
    · obtain ⟨hpos, hok⟩ := hs.records x q b (hcenter ▸ hx)
      exact ⟨hpos, hmono x q b hok⟩
    · rcases hst.records_inv hx with hx | ⟨hrow, c, m, hm, hbr⟩
      · obtain ⟨hpos, hok⟩ := hs.records x q b hx
        exact ⟨hpos, hmono x q b hok⟩
      · have hmsg : s.message a = some (c, m) := by rw [message, ha', Option.bind_some, hm]
        refine ⟨?_, hbrings c m hmsg (hs.applied h hOk hmsg) x q b hrow hbr⟩
        obtain ⟨-, -, ⟨hpos, rfl⟩ | ⟨-, hpos, rfl⟩⟩ := hbr
        · exact hpos
        · exact hpos
  · rcases h.messages_inv hs.requests hm with hm | hm | ⟨-, hm⟩
    · exact hmono _ _ _ (hs.messages m hm)
    · exact hmono _ _ _ (hs.sends hOk hm)
    · exact hmono _ _ _ (hs.records _ _ _ hm).2

end

/-! ### The start -/

omit [BusinessMsg B] in
/-- At the start nothing is on its way but business messages. -/
theorem not_messages_start (business : List (String × Msg)) :
    ¬ (start business : Framework B Msg).Messages m := by
  intro hm
  cases hm with
  | pending hp =>
      cases hp with
      | queue hm => cases hm
      | task hm => cases hm
      | worker hm => cases hm
  | rpc hm => cases hm
  | toClient hm =>
      cases hm with
      | retryQueue hm => cases hm
      | handled hi => cases hi

omit [BusinessMsg B] in
theorem not_records_start (business : List (String × Msg)) :
    ¬ (start business : Framework B Msg).center.Records x q b := by
  intro hx
  cases hx with
  | row hx =>
      rcases hx with ⟨r, hr, -⟩ | ⟨r, hr, -⟩ <;> cases hr
  | polled hi => rcases hi with hi | hi <;> cases hi
  | worker hw => cases hw
  | held hk => rcases hk with hk | hk <;> cases hk
  | request hi => cases hi

omit [BusinessMsg B] in
theorem sound_start {reliable : Source B Msg → Prop} {Ok : Int → String → B → Prop}
    (business : List (String × Msg)) : Sound service reliable Ok (start business) where
  requests _ _ hi := nomatch hi
  threads _ _ hi := nomatch hi
  records _ _ _ hx := absurd hx (not_records_start business)
  messages _ hm := absurd hm (not_messages_start business)

/-! ### Samples -/

theorem roundTrips_sample {i : Int64} {n : Int32} {hi : -1 ≤ i} {hn : -1 ≤ n} :
    (ClientService.sample i n hi hn).env.serializer.RoundTrips := by
  intro m b h
  simp only [ClientService.sample] at h
  split at h
  · cases h
  · next hm =>
      cases h
      exact ⟨rfl, decide_eq_false hm⟩

/-- At most three immediate retries. -/
abbrev immediateService : ClientService String String := .sample 0 3 (by decide) neg_one_le_times

/-- Every failed message goes to recover directly. -/
abbrev directService : ClientService String String := .sample (-1) (-1) (by decide) (by decide)

/-- A client gets the message of the queue `feed`, its listener throws, and it makes the calls. -/
def failing (calls : List Answer) : List (Step String) :=
  .deliverBusiness 0 0 :: .call 0 (.sample 1) (.raises sampleThrowable) ::
    calls.map (.call 0 (.sample 1)) ++ [.finish 0]

end Framework

end MRF
