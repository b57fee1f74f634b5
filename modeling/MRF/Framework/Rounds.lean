import MRF.Framework.OtherMessages

/-!
# Framework — Rounds

A message on its way through its retries.  A client gets it, calls its listener and hands it over,
to the retry queue or to the center, and so on, until it has been retried `n` times.

`Follows.step`: every step leaves the message at its stage, or takes it on to a later one.  The
stages of all rounds are in an order, `Stage.score`, and the last one is the recover row.
-/

namespace MRF
open MRF.Library MRF.Center MRF.Client BusinessMessageListenerWrapper
open MRF.Center.State (asksForId)

variable {B Msg : Type} [BusinessMsg B]

namespace Framework

variable [DecidableEq Msg] {cfg : MRFServerConfig} {service : ClientService B Msg}
  {s s' : Framework B Msg} {a : Step B} {q : String} {m : Msg} {b : B} {c : RetryQueueConfig}
  {n k : Nat} {x : Int} {own : Int → Option (String × Msg)} {st : Stage}

omit [BusinessMsg B] [DecidableEq Msg] in
/-- A thread that is not where the message is has handed it over. -/
theorem IsClient.elsewhere {i : Nat} {th : ClientThread B Msg} (h : IsClient service c st k x i th)
    (hne : ∀ called, st ≠ .client i called) (st' : Stage) (k' : Nat) (x' : Int) :
    IsClient service c st' k' x' i th where
  config := h.config
  called := h.called
  current hnil := absurd (h.current hnil).1 (hne _)

omit [BusinessMsg B] in
/-- One thread changes, and no other one had the message. -/
theorem Follows.clients_update (h : Follows service c n q m b own st k x s) {i : Nat}
    {th : ClientThread B Msg} {st' : Stage} {k' : Nat} {x' : Int}
    (hst : ∀ v called, st = .client v called → v = i) (hth : IsClient service c st' k' x' i th) :
    ∀ v th', Function.update s.threads i (some th) v = some th' → service.Reads m th'.source →
      IsClient service c st' k' x' v th' := by
  intro v th' hv hth'
  by_cases he : v = i
  · subst he
    simp only [Function.update_self, Option.some.injEq] at hv
    exact hv ▸ hth
  · have hv' : s.threads v = some th' := by simpa only [Function.update_of_ne he] using hv
    exact (h.clients v th' hv' hth').elsewhere (fun called hc => he (hst v called hc)) _ _ _

omit [DecidableEq Msg] in
/-- The configuration of the retry queue. -/
theorem Retried.ofRetryQueue (hr : Retried service c n q m b) :
    service.ofRetryQueue (getRetryQueueName q) = some c := by
  have hc := ClientService.ofRetryQueue_of_get hr.config
  rwa [RetryServiceConfig.businessQueueName_of_get hr.config] at hc

section
variable (hr : Retried service c n q m b) (h : Follows service c n q m b own st k x s)
include hr h

/-- A client gets the message for the first time. -/
theorem Follows.deliverBusiness {i j : Nat} {q' : String} {c' : RetryQueueConfig}
    (hi : s.threads i = none) (hj : s.business[j]? = some (q', m))
    (hc : service.retryServiceConfig.getRetryQueueConfig q' = some c')
    (hs : Steady cfg service c m b s (.deliverBusiness i j)) :
    st = .business ∧
      Follows service c n q m b (ownAfter service own s (.deliverBusiness i j)) (.client i false)
        k x { s with
        business := s.business.eraseIdx j
        threads := Function.update s.threads i
          (some ⟨.business q' m, c', ⟨.start, (BusinessMessageListenerWrapper.initial c').onMessage
            service.env m⟩⟩) } := by
  obtain ⟨rfl, rfl⟩ := h.business q' (List.mem_of_getElem? hj)
  obtain rfl : c = c' := Option.some.inj (hr.config.symm.trans hc)
  obtain ⟨rfl, rfl⟩ := h.counts.fresh rfl
  have hnone : ∀ p ∈ s.business.eraseIdx j, p.2 ≠ m := h.atMostOne.forall_eraseIdx hj rfl
  refine ⟨rfl, ?_⟩
  exact {
    numbered := h.numbered_step hr (.deliverBusiness hi hj hc) hs
    tracked := h.tracked
    business := fun q'' hq => absurd rfl (hnone _ hq)
    atMostOne := h.atMostOne.eraseIdx j
    waiting := fun hw => by cases hw
    rpcs := h.rpcs
    clients := h.clients_update (fun v called hc => by cases hc)
      ⟨rfl, fun r hcalled => (by cases hcalled), fun _ => ⟨rfl, rfl, rfl, rfl, rfl⟩⟩
    client := fun v called hc => by
      cases hc
      exact ⟨_, Function.update_self .., rfl, rfl⟩
    calls := h.calls
    counts := h.counts.toClient fun hc => by cases hc }

/-- A client gets the message again. -/
theorem Follows.deliverRetry {i j : Nat} {rm : RetryMessage B} {c' : RetryQueueConfig}
    (hi : s.threads i = none) (hj : s.center.retryQueues[j]? = some rm)
    (hc : service.ofRetryQueue rm.retryQueueName = some c') (hb : rm.businessMsg = b)
    (hs : Steady cfg service c m b s (.deliverRetry i j)) :
    st = .center .retryQueue ∧
      Follows service c n q m b (ownAfter service own s (.deliverRetry i j)) (.client i false) k x
      { s with
        center := { s.center with retryQueues := s.center.retryQueues.eraseIdx j }
        threads := Function.update s.threads i
          (some ⟨.retry rm, c',
            ⟨.start, RetryMessageListener.onMessage service.env c' (some rm)⟩⟩) } := by
  obtain ⟨hp, hrec, hcopy, htracked⟩ := h.tracked.deliver hj hb
  obtain rfl : st = .center .retryQueue := by
    cases st with
    | center p => exact congrArg _ hp
    | _ => cases hp
  have hconf : service.ofRetryQueue rm.retryQueueName = some c := by
    rw [hcopy.retryQueueName_eq]
    exact hr.ofRetryQueue
  obtain rfl : c = c' := Option.some.inj (hconf.symm.trans hc)
  have hth : service.Reads m (.retry rm) := by
    change service.env.serializer.deserialize rm.businessMsg = .ok m
    rw [hb]
    exact (hr.roundTrips m b hr.serialized).1
  refine ⟨rfl, ?_⟩
  exact {
    numbered := h.numbered_step hr (.deliverRetry hi hj hc) hs
    tracked := htracked
    business := fun q'' hq => by cases (h.business q'' hq).1
    atMostOne := h.atMostOne
    waiting := fun hw => by cases hw
    rpcs := h.rpcs
    clients := h.clients_update (fun v called hc => by cases hc)
      ⟨rfl, fun r hcalled => (by cases hcalled),
        fun _ => ⟨rfl, rfl, hrec, hcopy.retriedTimes_eq, hcopy.msgID_eq⟩⟩
    client := fun v called hc => by
      cases hc
      exact ⟨_, Function.update_self .., hth, rfl⟩
    calls := h.calls
    counts := h.counts.toClient fun hc => by cases hc }

/-- The listener of the message throws. -/
theorem Follows.listened {i : Nat} {call : Call} {t : Throwable} {th : ClientThread B Msg}
    {f : Except Throwable Unit → ClientProg B Msg Unit} (hi : s.threads i = some th)
    (hk : th.run.rest = .call (.invokeBusinessMessage m) f) (hth : service.Reads m th.source)
    (hcares : Cared service.env c t) (hs : Steady cfg service c m b s (.call i call (.raises t))) :
    st = .client i false ∧
      Follows service c n q m b (ownAfter service own s (.call i call (.raises t)))
        (.client i true) k x
        { s with
          log := s.log ++ [.listened m (.error t)]
          threads := Function.update s.threads i (some
            { th with run := ⟨th.run.state.next (.invokeBusinessMessage m) (.error t),
                f (.error t)⟩ }) } := by
  have hstart : th.run.state = .start :=
    (((h.numbered.sound.threads i th hi).run m hth).allows hk).2
  have hcl := h.clients i th hi hth
  obtain ⟨hst, hretried⟩ := hcl.current (by rw [hstart]; rfl)
  obtain rfl : st = .client i false := by rw [hst, hstart]; rfl
  have hserve : s.serve call (.invokeBusinessMessage m) (.raises t) =
    some (.error t, { s with log := s.log ++ [.listened m (.error t)] }) := rfl
  refine ⟨rfl, ?_⟩
  exact {
    numbered := h.numbered_step hr (.call hi hk hserve) hs
    tracked := h.tracked
    business := fun q'' hq => by cases (h.business q'' hq).1
    atMostOne := h.atMostOne
    waiting := fun hw => by cases hw
    rpcs := h.rpcs
    clients := by
      refine h.clients_update (fun v called hc => ?_)
        ⟨hcl.config, fun r hcalled => ?_, fun _ => ⟨rfl, hretried⟩⟩
      · cases hc
        rfl
      · cases hcalled
        exact ⟨t, rfl, hcares⟩
    client := fun v called hc => by
      cases hc
      refine ⟨_, Function.update_self .., hth, ?_⟩
      change th.run.state.handed = []
      rw [hstart]
      rfl
    calls := by
      simp only [Framework.calls, List.countP_append, List.countP_singleton, Event.isCall,
        decide_true, if_true]
      exact congrArg (· + 1) h.calls
    counts := h.counts.toClient fun hc => by cases hc }

/-- A client hands the message over to the center. -/
theorem Follows.handOver {i : Nat} {call : Call} {answer : Answer} {th : ClientThread B Msg}
    {op : ClientOp B Msg} {f : Except Throwable op.Res → ClientProg B Msg Unit}
    {r : Except Throwable op.Res} {s₁ : Framework B Msg} {p' : Place} {k' : Nat} {x' : Int}
    (hi : s.threads i = some th) (hk : th.run.rest = .call op f)
    (hserve : s.serve call op answer = some (r, s₁)) (hth : service.Reads m th.source)
    (hs : Steady cfg service c m b s (.call i call answer)) (hst : st = .client i true)
    (hs₁ : s₁ = { s with center := s₁.center })
    (hcalled : (th.run.state.next op r).called = th.run.state.called)
    (hne : (th.run.state.next op r).handed ≠ [])
    (htracked : Tracked b (getRetryQueueName q) p' k' x' s₁.center)
    (hcalls : k + 1 = k' + (Stage.center p').called)
    (hcounts : (Stage.center p').Counts c n k' x') :
    Follows service c n q m b (ownAfter service own s (.call i call answer)) (.center p') k' x'
      { s₁ with
        threads := Function.update s.threads i
          (some { th with run := ⟨th.run.state.next op r, f r⟩ }) } := by
  subst hst
  have hcl := h.clients i th hi hth
  have hbusiness : s₁.business = s.business := by rw [hs₁]
  have hrpcs : s₁.rpcs = s.rpcs := by rw [hs₁]
  have hlog : s₁.log = s.log := by rw [hs₁]
  exact {
    numbered := h.numbered_step hr (.call hi hk hserve) hs
    tracked := htracked
    business := fun q'' hq => by
      rw [hbusiness] at hq
      cases (h.business q'' hq).1
    atMostOne := by
      rw [hbusiness]
      exact h.atMostOne
    waiting := fun hw => by cases hw
    rpcs := by
      rw [hrpcs]
      exact h.rpcs
    clients := by
      refine h.clients_update (fun v called hc => ?_)
        ⟨hcl.config, fun r' hr' => ?_, fun hnil => absurd hnil hne⟩
      · cases hc
        rfl
      · rw [hcalled] at hr'
        exact hcl.called r' hr'
    client := fun v called hc => by cases hc
    calls := by
      rw [← hcalls]
      simp only [Framework.calls, hlog]
      exact h.calls
    counts := hcounts }

/-- The message goes to its retry queue. -/
theorem Follows.sendToRetryQueue {i : Nat} {call : Call} {answer : Answer}
    {th : ClientThread B Msg} {rm : RetryMessage B}
    {f : Except Throwable Unit → ClientProg B Msg Unit} {r : Except Throwable Unit}
    {s₁ : Framework B Msg} (hi : s.threads i = some th)
    (hk : th.run.rest = .call (.sendToRetryQueue rm) f)
    (hserve : s.serve call (.sendToRetryQueue rm) answer = some (r, s₁))
    (hth : service.Reads m th.source) (hs : Steady cfg service c m b s (.call i call answer)) :
    st = .client i true ∧
      Follows service c n q m b (ownAfter service own s (.call i call answer))
        (.center .retryQueue) (k + 1) 0 { s₁ with
          threads := Function.update s.threads i
            (some { th with
              run := ⟨th.run.state.next (.sendToRetryQueue rm : ClientOp B Msg) r, f r⟩ }) } := by
  obtain rfl := hs.works _ _ _ _ _ _ rfl hi hk hth rfl
  have hmay := ((h.numbered.sound.threads i th hi).run m hth).allows hk
  obtain ⟨rfl, hw, hon⟩ := h.handsOn hr hi hth hmay
  refine ⟨rfl, ?_⟩
  cases hon with
  | immediateRetry hint hlt =>
      have hx : x = 0 := h.counts.immediate hint fun hc => by cases hc
      subst hx
      have htracked := h.tracked.publish
        (m := th.wrapper.retryMessage b .immediateMsgDoRetry true) rfl hw.notFromRecover
        (hr.isCopy hw hlt .immediateMsgDoRetry)
      cases hserve
      refine h.handOver hr hi hk rfl hth hs rfl rfl rfl ?_ htracked rfl ?_
      · simp [Handling.next]
      · exact {
          le := hlt
          recovered := fun hc => by cases hc
          not_away := fun hc => by cases hc
          fresh := fun hc => by cases hc
          nonneg := Int.le_refl 0
          immediate := fun _ _ => rfl
          interval := fun hne => absurd hint hne }

/-- A call of `process` that is served takes the message to the center, or fails over. -/
theorem Follows.process {i : Nat} {call : Call} {answer : Answer} {th : ClientThread B Msg}
    {rm : RetryMessage B} {f : Except Throwable Unit → ClientProg B Msg Unit}
    {r : Except Throwable Unit} {s₁ : Framework B Msg} (hi : s.threads i = some th)
    (hk : th.run.rest = .call (.process rm) f)
    (hserve : s.serve call (.process rm) answer = some (r, s₁))
    (hth : service.Reads m th.source) (hs : Steady cfg service c m b s (.call i call answer)) :
    st = .client i true ∧ ∃ p' k' x', 7 * k + 5 < 7 * k' + p'.rank ∧
      Follows service c n q m b (ownAfter service own s (.call i call answer)) (.center p') k' x'
        { s₁ with
          threads := Function.update s.threads i (some { th with
            run := ⟨th.run.state.next (.process rm : ClientOp B Msg) r, f r⟩ }) } := by
  obtain rfl := hs.works _ _ _ _ _ _ rfl hi hk hth rfl
  have hb := h.businessMsg_process hr hi hk hth
  have hmsg := message_process call hi hk
  have hst : Stepped cfg service s (.call i call .works) _ := .call hi hk hserve
  obtain ⟨rfl, hok, p', k', x', hlt, htracked, hcalls, hcounts⟩ :=
    h.stored hr hi hk hth hst hs.newIds (hs.dao call rm hmsg hb)
  refine ⟨rfl, p', k', x', hlt, ?_⟩
  have hanswer : s.processAnswer call rm = .ok () := by simp only [processAnswer, hok]
  have hserve' := hserve
  cases hserve
  rw [hanswer] at hserve' ⊢
  exact h.handOver hr hi hk hserve' hth hs rfl rfl rfl (by simp [Handling.next]) htracked hcalls
    hcounts

end

/-! ### Runs -/

/-- The message is where it was, or has gone on. -/
def GoesOn (service : ClientService B Msg) (c : RetryQueueConfig) (n : Nat) (q : String) (m : Msg)
    (b : B) (own : Int → Option (String × Msg)) (st : Stage) (k : Nat) (s' : Framework B Msg) :
    Prop :=
  ∃ st' k' x', Follows service c n q m b own st' k' x' s' ∧
    (st' = st ∧ k' = k ∨ st.score k < st'.score k')

omit [BusinessMsg B] in
/-- A later stage is further on. -/
theorem GoesOn.of_stage (h : ∃ st', Follows service c n q m b own st' k x s' ∧
    (st' = st ∨ st.rank < st'.rank)) : GoesOn service c n q m b own st k s' := by
  obtain ⟨st', h, hst⟩ := h
  refine ⟨st', k, x, h, hst.imp (fun he => ⟨he, rfl⟩) fun hlt => ?_⟩
  exact Nat.add_lt_add_left hlt (7 * k)

/-- **Every step leaves the message where it is, or takes it on.** -/
theorem Follows.step (hr : Retried service c n q m b) (h : Follows service c n q m b own st k x s)
    (hst : Stepped cfg service s a s') (hs : Steady cfg service c m b s a) :
    GoesOn service c n q m b (ownAfter service own s a) st k s' := by
  cases hst with
  | center hi hc => exact .of_stage (h.internal hr hi hc hs)
  | arrive hj => exact .of_stage (h.arrive hr hj hs)
  | @deliverBusiness i j q' m' c' hi hj hc =>
      by_cases hm : m' = m
      · subst hm
        obtain ⟨rfl, h'⟩ := h.deliverBusiness hr hi hj hc hs
        exact ⟨_, _, _, h', .inr (by simp only [Stage.score, Stage.rank]; omega)⟩
      · exact .of_stage (h.deliverBusiness_foreign hr hi hj hc hm hs)
  | @deliverRetry i j rm c' hi hj hc =>
      by_cases hb : rm.businessMsg = b
      · obtain ⟨rfl, h'⟩ := h.deliverRetry hr hi hj hc hb hs
        exact ⟨_, _, _, h', .inr (by simp only [Stage.score, Stage.rank, Place.rank]; omega)⟩
      · exact .of_stage (h.deliverRetry_foreign hr hi hj hc hb hs)
  | @call i call answer th op f r s₁ hi hk hserve =>
      by_cases hth : service.Reads m th.source
      · have hallows := ((h.numbered.sound.threads i th hi).run m hth).allows hk
        cases op with
        | invokeBusinessMessage m' =>
            obtain ⟨rfl, -⟩ := hallows
            obtain ⟨t, rfl, hcares⟩ := hs.listener i call answer th f rfl hi hk
            obtain ⟨rfl, h'⟩ := h.listened hr hi hk hth hcares hs
            cases hserve
            exact ⟨_, _, _, h', .inr (by simp only [Stage.score, Stage.rank]; omega)⟩
        | process rm =>
            obtain ⟨rfl, p', k', x', hlt, h'⟩ := h.process hr hi hk hserve hth hs
            exact ⟨_, _, _, h', .inr hlt⟩
        | sendToRetryQueue rm =>
            obtain ⟨rfl, h'⟩ := h.sendToRetryQueue hr hi hk hserve hth hs
            exact ⟨_, _, _, h', .inr (by simp only [Stage.score, Stage.rank, Place.rank]; omega)⟩
        | sendToExceptionQueue rm => exact absurd hth hallows.1
        | _ =>
            exact .of_stage (h.quiet_call hr hi hk hserve hs (fun rm hsend => by cases hsend)
              (fun m' he => by cases he) fun _ => by cases r <;> rfl)
      · obtain ⟨hne, hlistener⟩ := h.foreign_thread hr hi hth hk
        exact .of_stage (h.quiet_call hr hi hk hserve hs hne hlistener fun he => absurd he hth)
  | returned hi hret => exact .of_stage (h.returned hr hi hret hs)
  | thrown hi hthrow => exact .of_stage (h.thrown hr hi hthrow hs)

end Framework

end MRF
