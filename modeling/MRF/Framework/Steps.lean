import MRF.Center.Records
import MRF.Framework.State

/-!
# Framework — Steps

What a step of the framework does to the messages on their way, to the threads and to the log.
The lemmas `…_inv` say where something comes from, the lemmas `…_step` what becomes of it.
-/

namespace MRF
open MRF.Library MRF.Center MRF.Client

variable {B Msg : Type} [BusinessMsg B]

namespace Framework

variable {cfg : MRFServerConfig} {service : ClientService B Msg} {s s' : Framework B Msg}
  {a : Step B} {m : RetryMessage B} {x : Int}

/-! ### Threads -/

/-- Where a thread comes from: it was there, its message has just been delivered, or it has just
made a call. -/
inductive ThreadFrom (service : ClientService B Msg) (s : Framework B Msg) (a : Step B)
    (s' : Framework B Msg) (i : Nat) : ClientThread B Msg → Prop where
  | same {th : ClientThread B Msg} (h : s.threads i = some th) : ThreadFrom service s a s' i th
  | business {n : Nat} {q : String} {m : Msg} {c : RetryQueueConfig}
      (hn : s.business[n]? = some (q, m))
      (hc : service.retryServiceConfig.getRetryQueueConfig q = some c) :
      ThreadFrom service s a s' i
        ⟨.business q m, c, ⟨.start, (BusinessMessageListenerWrapper.initial c).onMessage
          service.env m⟩⟩
  | retry {n : Nat} {m : RetryMessage B} {c : RetryQueueConfig}
      (hn : s.center.retryQueues[n]? = some m)
      (hc : service.ofRetryQueue m.retryQueueName = some c) :
      ThreadFrom service s a s' i
        ⟨.retry m, c, ⟨.start, RetryMessageListener.onMessage service.env c (some m)⟩⟩
  | called {c : Call} {answer : Answer} {th : ClientThread B Msg} {op : ClientOp B Msg}
      {k : Except Throwable op.Res → ClientProg B Msg Unit} {r : Except Throwable op.Res}
      {s₁ : Framework B Msg} (ha : a = .call i c answer) (h : s.threads i = some th)
      (hk : th.run.rest = .call op k) (hs : s.serve c op answer = some (r, s₁))
      (hs' : s' = { s₁ with threads := s'.threads }) :
      ThreadFrom service s a s' i { th with run := ⟨th.run.state.next op r, k r⟩ }

/-- What a thread is after a step, it was, or has just become. -/
theorem Stepped.threads_inv (h : Stepped cfg service s a s') {i : Nat} {th : ClientThread B Msg}
    (hi : s'.threads i = some th) : ThreadFrom service s a s' i th := by
  cases h with
  | @deliverBusiness j n q m c hj hn hc =>
      by_cases he : i = j
      · subst he
        simp only [Function.update_self, Option.some.injEq] at hi
        exact hi ▸ .business hn hc
      · exact .same (by simpa only [Function.update_of_ne he] using hi)
  | @deliverRetry j n m c hj hn hc =>
      by_cases he : i = j
      · subst he
        simp only [Function.update_self, Option.some.injEq] at hi
        exact hi ▸ .retry hn hc
      · exact .same (by simpa only [Function.update_of_ne he] using hi)
  | @call j c answer th' op k r s₁ hj hk hs =>
      by_cases he : i = j
      · subst he
        simp only [Function.update_self, Option.some.injEq] at hi
        exact hi ▸ .called rfl hj hk hs rfl
      · exact .same (by simpa only [Function.update_of_ne he] using hi)
  | @returned j th' hj hr =>
      by_cases he : i = j
      · subst he
        simp only [Function.update_self, reduceCtorEq] at hi
      · exact .same (by simpa only [Function.update_of_ne he] using hi)
  | @thrown j th' e hj hr =>
      by_cases he : i = j
      · subst he
        simp only [Function.update_self, reduceCtorEq] at hi
      · exact .same (by simpa only [Function.update_of_ne he] using hi)
  | _ => exact .same hi

/-- What becomes of a thread: it stays as it is, its call is answered, or it is done. -/
theorem Stepped.threads_step (h : Stepped cfg service s a s') {i : Nat} {th : ClientThread B Msg}
    (hi : s.threads i = some th) : s'.threads i = some th ∨
      (∃ th', s'.threads i = some th' ∧ th'.source = th.source ∧ ∃ c answer op k r s₁,
        a = .call i c answer ∧ th.run.rest = .call op k ∧ s.serve c op answer = some (r, s₁) ∧
          s' = { s₁ with threads := s'.threads } ∧ th'.run.state = th.run.state.next op r) ∨
      (th.run.rest = .ret () ∧ s' = { s with
        threads := s'.threads
        log := s.log ++ [.returned th.source th.run.state.called] }) ∨
      ∃ e, th.run.rest = .throw e ∧ s' = { s.redeliver th.source with threads := s'.threads } := by
  cases h with
  | @deliverBusiness j n q m c hj hn hc =>
      have hne : i ≠ j := by
        rintro rfl
        rw [hj] at hi
        cases hi
      exact .inl (by simpa only [Function.update_of_ne hne] using hi)
  | @deliverRetry j n m c hj hn hc =>
      have hne : i ≠ j := by
        rintro rfl
        rw [hj] at hi
        cases hi
      exact .inl (by simpa only [Function.update_of_ne hne] using hi)
  | @call j c answer th' op k r s₁ hj hk hs =>
      by_cases he : i = j
      · subst he
        rw [hj] at hi
        cases hi
        exact .inr (.inl ⟨_, Function.update_self .., rfl, c, answer, op, k, r, s₁, rfl, hk, hs,
          rfl, rfl⟩)
      · exact .inl (by simpa only [Function.update_of_ne he] using hi)
  | @returned j th' hj hr =>
      by_cases he : i = j
      · subst he
        rw [hj] at hi
        cases hi
        exact .inr (.inr (.inl ⟨hr, rfl⟩))
      · exact .inl (by simpa only [Function.update_of_ne he] using hi)
  | @thrown j th' e hj hr =>
      by_cases he : i = j
      · subst he
        rw [hj] at hi
        cases hi
        exact .inr (.inr (.inr ⟨e, hr, rfl⟩))
      · exact .inl (by simpa only [Function.update_of_ne he] using hi)
  | _ => exact .inl hi

/-! ### Actions of the center -/

omit [BusinessMsg B] in
/-- Only a step of the center alone is an internal action. -/
theorem eq_center_of_centerAction {a' : Center.Action B} (h : s.centerAction a = some a')
    (hi : isInternal a' = true) : a = .center a' := by
  cases a with
  | center a => cases h; rfl
  | arrive n c =>
      obtain ⟨m, -, rfl⟩ := Option.map_eq_some_iff.mp h
      cases hi
  | deliverBusiness i n => cases h
  | deliverRetry i n => cases h; cases hi
  | call i c answer =>
      simp only [centerAction] at h
      split at h
      · split at h <;> cases h <;> cases hi
      · cases h
  | finish i =>
      simp only [centerAction] at h
      split at h
      · split at h <;> cases h
        cases hi
      · cases h

/-- What is applied to the tables is an action of the center. -/
theorem Stepped.message_stepped {c : Call} (h : Stepped cfg service s a s')
    (hm : s.message a = some (c, m)) : ∃ a', s.centerAction a = some a' ∧
      s.center.message a' = some (c, m) ∧ State.Stepped cfg s.center a' s'.center := by
  obtain ⟨a', ha', hm'⟩ := Option.bind_eq_some_iff.mp hm
  rcases h.center_stepped with ⟨hn, -⟩ | ⟨a'', ha'', hst⟩
  · rw [hn] at ha'
    cases ha'
  · rw [ha'] at ha''
    cases ha''
    exact ⟨a', ha', hm', hst⟩

/-- A step with a message leaves the tables as `process` leaves them. -/
theorem Stepped.tables_eq {c : Call} (h : Stepped cfg service s a s')
    (hm : s.message a = some (c, m)) :
    s'.center.tables = processed (s.center.env c) m s.center.tables := by
  obtain ⟨a', -, hm', hst⟩ := h.message_stepped hm
  exact hst.tables_eq hm'

/-- An id that was issued stays so. -/
theorem Stepped.issued_subset (h : Stepped cfg service s a s') :
    s.center.issued ⊆ s'.center.issued := by
  rcases h.center_stepped with ⟨-, hc⟩ | ⟨a', -, hst⟩
  · rw [hc]
    exact List.Subset.refl _
  · exact hst.issued_subset

/-- A generated id is issued. -/
theorem Stepped.newId_issued {c : Call} (h : Stepped cfg service s a s')
    (hm : s.message a = some (c, m)) (hask : State.asksForId m = true) :
    c.newId ∈ s'.center.issued := by
  obtain ⟨a', -, hm', hst⟩ := h.message_stepped hm
  rw [hst.issued_eq, hm']
  simp [hask]

/-! ### The log -/

theorem Served.log_subset {c : Call} {op : ClientOp B Msg} {r : Except Throwable op.Res}
    (h : Served s c op r s') : s.log ⊆ s'.log := by
  cases h with
  | listened m outcome => exact List.subset_append_left _ _
  | _ => exact List.Subset.refl _

/-- A step only adds to the log. -/
theorem Stepped.log_subset (h : Stepped cfg service s a s') : s.log ⊆ s'.log := by
  cases h with
  | center hi h => exact List.subset_append_left _ _
  | call hi hk hs => exact (serve_served hs).log_subset
  | returned hi hr => exact List.subset_append_left _ _
  | @thrown i th e hi hr => cases hsrc : th.source <;> exact List.Subset.refl _
  | _ => exact List.Subset.refl _

/-- `onMessage` has returned on a message since its thread was done. -/
theorem Stepped.returned_inv (h : Stepped cfg service s a s') {source : Source B Msg}
    {called : Option (Except Throwable Unit)} (hr : .returned source called ∈ s'.log) :
    .returned source called ∈ s.log ∨ ∃ i th, s.threads i = some th ∧ th.run.rest = .ret () ∧
      th.source = source ∧ th.run.state.called = called := by
  cases h with
  | @center a' c hi h =>
      refine (List.mem_append.mp hr).imp_right fun hr => ?_
      unfold deletions at hr
      split at hr
      · split at hr
        · cases List.mem_singleton.mp hr
        · cases hr
      · cases hr
  | @call i c answer th op k r s₁ hi hk hs =>
      left
      have hserved := serve_served hs
      cases hserved with
      | listened m outcome =>
          rcases List.mem_append.mp hr with hr | hr
          · exact hr
          · cases List.mem_singleton.mp hr
      | _ => exact hr
  | @returned i th hi hret =>
      rcases List.mem_append.mp hr with hr | hr
      · exact .inl hr
      · cases List.mem_singleton.mp hr
        exact .inr ⟨i, th, hi, hret, rfl, rfl⟩
  | @thrown i th e hi hthrow => cases hsrc : th.source <;> rw [hsrc] at hr <;> exact .inl hr
  | _ => exact .inl hr

/-- A recover row goes by an admin's delete, and the log has it. -/
theorem Stepped.deleted (h : Stepped cfg service s a s') {a' : Center.Action B}
    (ha : s.centerAction a = some a') (hc : s.center.call a' = some (.deleteRecover x))
    {r : Recover B} (hr : s.center.tables.recover.get x = some r)
    (hn : s'.center.tables.recover.get x = none) : .deleted r.businessMsg ∈ s'.log := by
  have hi : isInternal a' = true := by
    cases a' with
    | requestStep i raises found => rfl
    | _ => cases hc
  obtain rfl := eq_center_of_centerAction ha hi
  cases h with
  | center hi h =>
      refine List.mem_append_right _ ?_
      simp only [deletions, hc, hr, hn, List.mem_singleton]

/-! ### Messages -/

/-- The messages on their way to a client, or with one. -/
inductive ToClient (s : Framework B Msg) (m : RetryMessage B) : Prop where
  | retryQueue (h : m ∈ s.center.retryQueues)
  | handled {i : Nat} {th : ClientThread B Msg} (h : s.threads i = some th)
      (hm : th.source = .retry m)

/-- The messages on their way: to the tables, or to a client. -/
inductive Messages (s : Framework B Msg) (m : RetryMessage B) : Prop where
  | pending (h : s.center.Pends m)
  | rpc (h : m ∈ s.rpcs)
  | toClient (h : s.ToClient m)

/-- A thread is about to send the message. -/
inductive Sends (s : Framework B Msg) (m : RetryMessage B) : Prop where
  | process {i : Nat} {th : ClientThread B Msg} {k} (h : s.threads i = some th)
      (hk : th.run.rest = .call (.process m) k)
  | exceptionQueue {i : Nat} {th : ClientThread B Msg} {k} (h : s.threads i = some th)
      (hk : th.run.rest = .call (.sendToExceptionQueue m) k)
  | retryQueue {i : Nat} {th : ClientThread B Msg} {k} (h : s.threads i = some th)
      (hk : th.run.rest = .call (.sendToRetryQueue m) k)

/-- A client sends to the exception queue. -/
theorem Stepped.failOver_inv (h : Stepped cfg service s a s')
    (ha : s.centerAction a = some (.failOver m)) : s.Sends m := by
  cases h with
  | center hi h => cases ha; cases hi
  | arrive hn => simp [centerAction, hn] at ha
  | deliverBusiness hi hn hc => cases ha
  | deliverRetry hi hn hc => cases ha
  | @call i c answer th op k r s₁ hi hk hs =>
      cases answer <;> simp only [centerAction, hi, hk, reduceCtorEq] at ha
      cases op <;> cases ha
      exact .exceptionQueue hi hk
  | returned hi hr => simp [centerAction, hi, hr] at ha
  | @thrown i th e hi hr => cases hsrc : th.source <;> simp [centerAction, hi, hr, hsrc] at ha

/-- A client sends to a retry queue, or the broker redelivers. -/
theorem Stepped.publish_inv (h : Stepped cfg service s a s')
    (ha : s.centerAction a = some (.publish m)) :
    (∃ i th k, s.threads i = some th ∧ th.run.rest = .call (.sendToRetryQueue m) k) ∨
      s.ToClient m := by
  cases h with
  | center hi h => cases ha; cases hi
  | arrive hn => simp [centerAction, hn] at ha
  | deliverBusiness hi hn hc => cases ha
  | deliverRetry hi hn hc => cases ha
  | @call i c answer th op k r s₁ hi hk hs =>
      cases answer <;> simp only [centerAction, hi, hk, reduceCtorEq] at ha
      cases op <;> cases ha
      exact .inl ⟨i, th, k, hi, hk⟩
  | returned hi hr => simp [centerAction, hi, hr] at ha
  | @thrown i th e hi hr =>
      cases hsrc : th.source with
      | business q m' => simp [centerAction, hi, hr, hsrc] at ha
      | retry m' =>
          simp only [centerAction, hi, hr, hsrc, Option.some.injEq,
            Center.Action.publish.injEq] at ha
          exact .inr (.handled hi (ha ▸ hsrc))

/-- A client calls the center, or an earlier call arrives. -/
theorem Stepped.process_inv {c : Call} (h : Stepped cfg service s a s')
    (ha : s.centerAction a = some (.process c m)) : s.Messages m ∨ s.Sends m := by
  cases h with
  | center hi h => cases ha; cases hi
  | arrive hn =>
      simp only [centerAction, hn, Option.map_some, Option.some.injEq,
        Center.Action.process.injEq] at ha
      exact .inl (.rpc (ha.2 ▸ List.mem_of_getElem? hn))
  | deliverBusiness hi hn hc => cases ha
  | deliverRetry hi hn hc => cases ha
  | @call i c answer th op k r s₁ hi hk hs =>
      cases answer <;> simp only [centerAction, hi, hk, reduceCtorEq] at ha
      cases op <;> cases ha
      exact .inr (.process hi hk)
  | returned hi hr => simp [centerAction, hi, hr] at ha
  | @thrown i th e hi hr => cases hsrc : th.source <;> simp [centerAction, hi, hr, hsrc] at ha

/-- The message that is applied was on its way, or is sent just now. -/
theorem Stepped.message_inv {c : Call} (h : Stepped cfg service s a s')
    (hm : s.message a = some (c, m)) : s.Messages m ∨ s.Sends m := by
  obtain ⟨a', ha', hm⟩ := Option.bind_eq_some_iff.mp hm
  rcases State.message_cases hm with rfl | hp
  · exact h.process_inv ha'
  · exact .inl (.pending hp)

/-- An RPC is on its way since its client gave it up. -/
theorem Stepped.rpcs_inv (h : Stepped cfg service s a s') (hm : m ∈ s'.rpcs) :
    m ∈ s.rpcs ∨ s.Sends m := by
  cases h with
  | arrive hn => exact .inl (List.mem_of_mem_eraseIdx hm)
  | @call i c answer th op k r s₁ hi hk hs =>
      have hserved := serve_served hs
      cases hserved with
      | timedOut m' t =>
          rcases List.mem_append.mp hm with hm | hm
          · exact .inl hm
          · obtain rfl := List.mem_singleton.mp hm
            exact .inr (.process hi hk)
      | _ => exact .inl hm
  | @thrown i th e hi hr => cases hsrc : th.source <;> rw [hsrc] at hm <;> exact .inl hm
  | _ => exact .inl hm

/-- A message waits for its worker since a client sent it. -/
theorem Stepped.pends_inv (h : Stepped cfg service s a s') (hm : s'.center.Pends m) :
    s.center.Pends m ∨ s.Sends m := by
  rcases h.center_stepped with ⟨-, hcenter⟩ | ⟨a', ha, hst⟩
  · exact .inl (hcenter ▸ hm)
  · rcases hst.pends_inv hm with hm | rfl
    · exact .inl hm
    · exact .inr (h.failOver_inv ha)

/-- A thread was given its message by a retry queue. -/
theorem Stepped.handled_inv (h : Stepped cfg service s a s') {i : Nat} {th : ClientThread B Msg}
    (hi : s'.threads i = some th) (hsrc : th.source = .retry m) : s.ToClient m := by
  cases h.threads_inv hi with
  | same hi₀ => exact .handled hi₀ hsrc
  | business hn hc => cases hsrc
  | retry hn hc =>
      cases hsrc
      exact .retryQueue (List.mem_of_getElem? hn)
  | called ha hi₀ hk hs hs' => exact .handled hi₀ hsrc

/-- A message is on its way to a client since one sent it back, or since it was made from a
record. -/
theorem Stepped.toClient_inv (h : Stepped cfg service s a s') (hc : RequestsConform s.center)
    (hm : s'.ToClient m) : s.ToClient m ∨
      (∃ i th k, s.threads i = some th ∧ th.run.rest = .call (.sendToRetryQueue m) k) ∨
      m.messageFlag = .defaultMsgFlag ∧
        s.center.Records m.msgID m.retryQueueName m.businessMsg := by
  cases hm with
  | retryQueue hm =>
      rcases h.center_stepped with ⟨-, hcenter⟩ | ⟨a', ha, hst⟩
      · exact .inl (.retryQueue (hcenter ▸ hm))
      · rcases hst.retryQueues_inv hc hm with hm | rfl | hm
        · exact .inl (.retryQueue hm)
        · exact (h.publish_inv ha).elim (fun hm => .inr (.inl hm)) .inl
        · exact .inr (.inr hm)
  | handled hi hsrc => exact .inl (h.handled_inv hi hsrc)

/-- A message is on its way since a client sent it, or since it was made from a record. -/
theorem Stepped.messages_inv (h : Stepped cfg service s a s') (hc : RequestsConform s.center)
    (hm : s'.Messages m) : s.Messages m ∨ s.Sends m ∨
      m.messageFlag = .defaultMsgFlag ∧
        s.center.Records m.msgID m.retryQueueName m.businessMsg := by
  cases hm with
  | pending hm =>
      rcases h.pends_inv hm with hm | hm
      · exact .inl (.pending hm)
      · exact .inr (.inl hm)
  | rpc hm =>
      rcases h.rpcs_inv hm with hm | hm
      · exact .inl (.rpc hm)
      · exact .inr (.inl hm)
  | toClient hm =>
      rcases h.toClient_inv hc hm with hm | ⟨i, th, k, hi, hk⟩ | hm
      · exact .inl (.toClient hm)
      · exact .inr (.inl (.retryQueue hi hk))
      · exact .inr (.inr hm)

/-- A message waits until an exception-queue worker takes it up. -/
theorem Stepped.pends_step (h : Stepped cfg service s a s') (hm : s.center.Pends m) :
    s'.center.Pends m ∨
      ∃ w c ms, a = .center (.executeEQ w c) ∧ s.center.eqWorkers w = m :: ms := by
  rcases h.center_stepped with ⟨-, hc⟩ | ⟨a', ha', hst⟩
  · exact .inl (hc ▸ hm)
  · refine (hst.pends_step hm).imp_right ?_
    rintro ⟨w, c, ms, rfl, hw⟩
    exact ⟨w, c, ms, eq_center_of_centerAction ha' rfl, hw⟩

/-- A message of a retry queue stays there until a thread gets it. -/
theorem Stepped.retryQueues_step (h : Stepped cfg service s a s')
    (hm : m ∈ s.center.retryQueues) : m ∈ s'.center.retryQueues ∨
      ∃ i th, s'.threads i = some th ∧ th.source = .retry m ∧ th.run.state = .start := by
  cases h with
  | @deliverRetry i n m' c hi hn hc =>
      obtain ⟨j, hj⟩ := List.mem_iff_getElem?.mp hm
      by_cases he : j = n
      · rw [he, hn] at hj
        cases hj
        exact .inr ⟨i, _, Function.update_self .., rfl, rfl⟩
      · exact .inl (List.mem_eraseIdx_iff_getElem?.mpr ⟨j, he, hj⟩)
  | @center a' c hi h =>
      refine (State.step_stepped h).retryQueues_step hm |>.imp_right ?_
      rintro ⟨n, rfl, -⟩
      cases hi
  | @call i c answer th op k r s₁ hi hk hs =>
      left
      have hserved := serve_served hs
      cases hserved with
      | published m' => exact List.mem_append_left _ hm
      | _ => exact hm
  | @thrown i th e hi hr =>
      left
      cases hsrc : th.source with
      | business q m' => exact hm
      | retry m' => exact List.mem_append_left _ hm
  | _ => exact .inl hm

end Framework

end MRF
