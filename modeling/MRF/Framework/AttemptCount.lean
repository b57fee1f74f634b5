import MRF.Center.AllRecords
import MRF.Client.AttemptCount
import MRF.Framework.Sound

/-!
# Framework — AttemptCount

The count of retries of one queue, in every run: with any RPC failures, any fail-over duplicates,
any moves of the house keeper and any recoveries by an admin.  The count goes from message to row
to message to wrapper, and old copies of it stay around, so the invariant is about all that carry
it at once (`Counting`).
-/

namespace MRF
open MRF.Library MRF.Center MRF.Client

variable {B Msg : Type} [BusinessMsg B]

namespace Framework

variable {cfg : MRFServerConfig} {service : ClientService B Msg} {s s' : Framework B Msg}
  {a : Step B} {m : RetryMessage B} {c : RetryQueueConfig}

/-- All that carry a count of the queue of `c` carry one in range, and the calls that the clients
may come to send none but such. -/
structure Counting (c : RetryQueueConfig) (s : Framework B Msg) : Prop where
  requests : RequestsConform s.center
  messages : ∀ m, s.Messages m →
    m.retryQueueName = getRetryQueueName c.businessQueueName → c.Admits m
  records : s.center.AllRecords fun r =>
    r.retryQueueName = getRetryQueueName c.businessQueueName → c.InRange r.retriedTimes
  wrappers : ∀ i th, s.threads i = some th →
    th.config.businessQueueName = c.businessQueueName → c.Counts th.wrapper
  calls : ∀ i th, s.threads i = some th → th.run.rest.Always c.AdmitsCall

omit [BusinessMsg B] in
theorem counting_start (business : List (String × Msg)) :
    Counting c (start business : Framework B Msg) where
  requests _ _ hi := nomatch hi
  messages _ hm := absurd hm (not_messages_start business)
  records := allRecords_empty
  wrappers _ _ hi := nomatch hi
  calls _ _ hi := nomatch hi

namespace Counting

omit [BusinessMsg B] in
/-- A message that is sent counts within the range. -/
theorem sends (hs : Counting c s) (hm : s.Sends m)
    (hq : m.retryQueueName = getRetryQueueName c.businessQueueName) : c.Admits m := by
  cases hm with
  | process hi hk | exceptionQueue hi hk | retryQueue hi hk =>
      have hcalls := hs.calls _ _ hi
      rw [hk] at hcalls
      exact hcalls.1 hq

omit [BusinessMsg B] in
/-- A message that the center makes of a record. -/
theorem madeOf {r : MessageRecord B} (hr : r.retryQueueName =
      getRetryQueueName c.businessQueueName → c.InRange r.retriedTimes) (hm : MadeOf m r)
    (hq : m.retryQueueName = getRetryQueueName c.businessQueueName) : c.Admits m where
  inRange := hm.retriedTimes ▸ hr (hm.retryQueueName ▸ hq)
  notDirect := by
    rw [hm.messageFlag]
    nofun
  infinite _ := by
    rw [hm.messageFlag]
    exact ⟨nofun, nofun⟩

theorem messages_step (hs : Counting c s) (h : Stepped cfg service s a s') (hm : s'.Messages m)
    (hq : m.retryQueueName = getRetryQueueName c.businessQueueName) : c.Admits m := by
  cases hm with
  | pending hm =>
      rcases h.pends_inv hm with hm | hm
      · exact hs.messages m (.pending hm) hq
      · exact hs.sends hm hq
  | rpc hm =>
      rcases h.rpcs_inv hm with hm | hm
      · exact hs.messages m (.rpc hm) hq
      · exact hs.sends hm hq
  | toClient hm =>
      cases hm with
      | handled hi hsrc => exact hs.messages m (.toClient (h.handled_inv hi hsrc)) hq
      | retryQueue hm =>
          rcases h.center_stepped with ⟨-, hcenter⟩ | ⟨a', ha, hst⟩
          · exact hs.messages m (.toClient (.retryQueue (hcenter ▸ hm))) hq
          · rcases hs.records.retryQueues_inv hs.requests hst hm with hm | rfl | ⟨r, hr, hmade⟩
            · exact hs.messages m (.toClient (.retryQueue hm)) hq
            · rcases h.publish_inv ha with ⟨i, th, k, hi, hk⟩ | hm
              · exact hs.sends (.retryQueue hi hk) hq
              · exact hs.messages m (.toClient hm) hq
            · exact madeOf hr hmade hq

omit [BusinessMsg B] in
/-- A row that copies a message of the queue. -/
theorem copies {r : MessageRecord B}
    (hm : m.retryQueueName = getRetryQueueName c.businessQueueName → c.Admits m)
    (hc : Copies r m) (hq : r.retryQueueName = getRetryQueueName c.businessQueueName) :
    c.InRange r.retriedTimes := by
  have hadmits := hm (hc.retryQueueName ▸ hq)
  have hcounts := hc.counts
  rw [if_neg hadmits.notDirect] at hcounts
  exact (Prod.mk.inj (Prod.mk.inj hcounts).2).1 ▸ hadmits.inRange

theorem records_step (hs : Counting c s) (h : Stepped cfg service s a s') :
    s'.center.AllRecords fun r =>
      r.retryQueueName = getRetryQueueName c.businessQueueName → c.InRange r.retriedTimes := by
  rcases h.center_stepped with ⟨-, hcenter⟩ | ⟨a', ha, hst⟩
  · exact hcenter ▸ hs.records
  · refine hs.records.step (fun r r₀ hsame hr hq => ?_) hst fun call m hm r hcopies => ?_
    · exact hsame.retriedTimes ▸ hr (hsame.retryQueueName ▸ hq)
    · have hmsg : s.message a = some (call, m) := by rw [message, ha, Option.bind_some, hm]
      refine copies (fun hq => ?_) hcopies
      exact (h.message_inv hmsg).elim (hs.messages m · hq) (hs.sends · hq)

variable (hget : service.retryServiceConfig.getRetryQueueConfig c.businessQueueName = some c)
include hget

theorem wrappers_step (hs : Counting c s) (h : Stepped cfg service s a s') {i : Nat}
    {th : ClientThread B Msg} (hi : s'.threads i = some th)
    (hname : th.config.businessQueueName = c.businessQueueName) : c.Counts th.wrapper := by
  cases h.threads_inv hi with
  | same hi₀ => exact hs.wrappers i th hi₀ hname
  | called ha hi₀ hk hserve hs' =>
      have hcounts := hs.wrappers i _ hi₀ hname
      exact hcounts
  | business hn hc =>
      have hq := RetryServiceConfig.businessQueueName_of_get hc
      rw [← hq, hname, hget] at hc
      cases hc
      exact ⟨rfl, RetryQueueConfig.inRange_zero⟩
  | retry hn hc =>
      have hq := ClientService.ofRetryQueue_name hc
      rw [← hq, hname, ClientService.ofRetryQueue_of_get hget] at hc
      cases hc
      have hto := ToClient.retryQueue (List.mem_of_getElem? hn)
      exact ⟨rfl, (hs.messages _ (.toClient hto) hq.symm).inRange⟩

/-- **What carries a count in range hands one on.** -/
theorem step (hc : Retries c) (hs : Counting c s) (h : Stepped cfg service s a s') :
    Counting c s' where
  requests := by
    rcases h.center_stepped with ⟨-, hcenter⟩ | ⟨a', -, hst⟩
    · exact hcenter ▸ hs.requests
    · exact hs.requests.step hst
  messages _ hm hq := hs.messages_step h hm hq
  records := hs.records_step h
  wrappers i th hi hname := hs.wrappers_step hget h hi hname
  calls i th hi := by
    have hwrapper := fun hname => hs.wrappers_step hget h hi (th.wrapper_retryQueueConfig ▸ hname)
    cases h.threads_inv hi with
    | same hi₀ => exact hs.calls i th hi₀
    | business hn hc' => exact (allowsHandling_admits hc hwrapper).onMessage
    | retry hn hc' =>
        exact AllowsHandling.onRetryMessage fun m hm => allowsHandling_admits hc hwrapper
    | called ha hi₀ hk hserve hs' =>
        have hcalls := hs.calls i _ hi₀
        rw [hk] at hcalls
        exact hcalls.2 _

end Counting

/-- **The count of retries stays in range**, on every message and every row of the queue; the
increment does not overflow, and a queue that retries for ever sends nothing to recover. -/
theorem retriedTimes_inRange {tr : List (Framework B Msg × Step B)} {business : List (String × Msg)}
    {businessQueueName : String}
    (hget : service.retryServiceConfig.getRetryQueueConfig businessQueueName = some c)
    (hinterval : 0 ≤ c.retryInterval) (htimes : c.retryTimes ≠ 0)
    (h : Run (stepOf (step cfg service)) (start business) tr s) :
    (∀ m, s.Messages m ∨ s.Sends m → m.retryQueueName = getRetryQueueName businessQueueName →
      c.InRange m.retriedTimes ∧ (c.retryTimes = -1 → m.messageFlag ≠ .intervalMsgDoRecover ∧
        m.messageFlag ≠ .immediateMsgDoRecover ∧ m.messageFlag ≠ .msgDirectToRecover)) ∧
    (∀ x r, s.center.tables.intervalRetry.get x = some r →
      r.retryQueueName = getRetryQueueName businessQueueName → c.InRange r.retriedTimes) ∧
    (∀ x r, s.center.tables.recover.get x = some r →
      r.retryQueueName = getRetryQueueName businessQueueName → c.InRange r.retriedTimes) ∧
    ∀ i th, s.threads i = some th → th.config.businessQueueName = businessQueueName →
      0 < c.retryTimes → th.wrapper.hasReachedMaxRetryTimes = false →
        (th.wrapper.getRetriedTimes + 1).toInt = th.wrapper.getRetriedTimes.toInt + 1 := by
  obtain rfl := RetryServiceConfig.businessQueueName_of_get hget
  have hs : Counting c s := h.invariant
    (fun _ _ _ hstep hs => hs.step hget ⟨hinterval, htimes⟩ (step_stepped hstep))
    (counting_start business)
  refine ⟨fun m hm hq => ?_, hs.records.intervalRetry, hs.records.recover,
    fun i th hi hname hpos hn => ?_⟩
  · have hadmits : c.Admits m := hm.elim (hs.messages m · hq) (hs.sends · hq)
    refine ⟨hadmits.inRange, fun ht => ?_⟩
    exact ⟨(hadmits.infinite ht).1, (hadmits.infinite ht).2, hadmits.notDirect⟩
  · exact ((hs.wrappers i th hi hname).increment hn hpos).1

/-! ### A sample -/

/-- At most three retries, after five seconds each. -/
abbrev intervalService : ClientService String String :=
  .sample 5000 3 neg_one_le_interval neg_one_le_times

/-- The RPC for a failed message raises and arrives later, and the client fails over as well: the
row and its duplicate carry the count of one retry. -/
theorem retriedTimes_inRange_sample : ∃ c s r m,
    intervalService.retryServiceConfig.getRetryQueueConfig "feed" = some c ∧
    exec (step .sample intervalService) (start [("feed", "post 1")])
      (failing [.works, .timesOut sampleThrowable, .works, .works] ++ [.arrive 0 (.sample 1)]) =
        some s ∧
    s.center.tables.intervalRetry.get 1 = some r ∧ s.center.exceptionQueue = [m] ∧
    r.retriedTimes = 1 ∧ m.retriedTimes = 1 ∧ c.InRange r.retriedTimes ∧
    c.InRange m.retriedTimes := by
  obtain ⟨s, hs⟩ : ∃ s, exec (step .sample intervalService) (start [("feed", "post 1")])
      (failing [.works, .timesOut sampleThrowable, .works, .works] ++ [.arrive 0 (.sample 1)]) =
        some s := ⟨_, rfl⟩
  obtain ⟨c, hget⟩ : ∃ c, intervalService.retryServiceConfig.getRetryQueueConfig "feed" = some c :=
    ⟨_, rfl⟩
  have hin := retriedTimes_inRange hget (by cases hget; decide) (by cases hget; decide)
    (Run.of_exec hs)
  cases hget
  cases hs
  refine ⟨_, _, _, _, rfl, rfl, rfl, rfl, rfl, rfl, hin.2.1 1 _ rfl rfl, ?_⟩
  exact (hin.1 _ (.inl (.pending (.queue List.mem_cons_self))) rfl).1

end Framework

end MRF
