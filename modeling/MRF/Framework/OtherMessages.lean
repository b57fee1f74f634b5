import MRF.Framework.OneMessage

/-!
# Framework — OtherMessages

The steps that the clients of the message take no part in: those of the center alone, and those of
other messages.  `Follows.foreign` is the frame theorem: the message stays where it is, or moves on
within the center.  The lemmas after it say which steps these are.
-/

namespace MRF
open MRF.Library MRF.Center MRF.Client

variable {B Msg : Type} [BusinessMsg B]

namespace Framework

variable [DecidableEq Msg] {cfg : MRFServerConfig} {service : ClientService B Msg}
  {s s' : Framework B Msg} {a : Step B} {q : String} {m : Msg} {b : B} {c : RetryQueueConfig}
  {n k : Nat} {x : Int} {own own' : Int → Option (String × Msg)} {st : Stage}

/-! ### Other messages -/

omit [DecidableEq Msg] in
/-- What has one id has one content, across a step. -/
theorem Numbered.idsAgree {reliable : Source B Msg → Prop} (hk : Numbered service reliable own s)
    (hrt : service.env.serializer.RoundTrips) (h : Stepped cfg service s a s')
    {a' : Center.Action B} (ha : s.centerAction a = some a') : IdsAgree s.center a' where
  records x q q' b b' hx hx' :=
    (hk.sound.records x q b hx).2.unique (hk.sound.records x q b hx).1
      (hk.sound.records x q' b' hx').2
  message call rm q b hm hx := by
    have hmsg : s.message a = some (call, rm) := by rw [message, ha, Option.bind_some, hm]
    obtain ⟨hpos, hown⟩ := hk.sound.records _ q b hx
    exact ((hk.sound.applied h (isContent_owned hrt) hmsg).unique hpos hown).2

omit [DecidableEq Msg] in
/-- What another message serializes to is another content. -/
theorem Retried.ne_of_ne (hf : Retried service c n q m b) {m' : Msg} {b' : B} (hm : m' ≠ m)
    (hb : service.Serializes m' b') : b' ≠ b := by
  rintro rfl
  exact hm (serializes_unique hf.roundTrips hb hf.serialized)

omit [BusinessMsg B] in
/-- What a client does leaves the message to those that retry it. -/
theorem leftAlone_of_client {s : State B} {a : Center.Action B} (ha : isInternal a = false) :
    LeftAlone cfg b s a where
  checkOut := by
    rintro i raises r rfl
    cases ha
  sendRetry := by
    rintro w found raises r rfl
    cases ha
  houseKeep := by rintro rows r (⟨h, rfl⟩ | ⟨faults, rfl⟩) <;> cases ha
  admin y r hc := by
    cases a with
    | requestStep i raises found => cases ha
    | _ => rcases hc with hc | hc <;> cases hc

/-- The handling of a message, which a step that is not a call of its thread leaves as it is. -/
structure SameHandling (th th' : ClientThread B Msg) : Prop where
  source : th'.source = th.source
  config : th'.config = th.config
  state : th'.run.state = th.run.state

omit [BusinessMsg B] [DecidableEq Msg] in
theorem SameHandling.refl (th : ClientThread B Msg) : SameHandling th th := ⟨rfl, rfl, rfl⟩

omit [BusinessMsg B] [DecidableEq Msg] in
/-- What a thread is to a message stands in how it handles it. -/
theorem IsClient.congr {th th' : ClientThread B Msg} {i : Nat}
    (h : IsClient service c st k x i th) (he : SameHandling th th') :
    IsClient service c st k x i th' where
  config := he.config.trans h.config
  called := by rw [he.state]; exact h.called
  current := by
    have hw : th'.wrapper = th.wrapper := by
      unfold ClientThread.wrapper
      rw [he.source, he.config]
    rw [he.state, hw]
    exact h.current

/-! ### Steps that leave the message to the center -/

section
variable (hr : Retried service c n q m b) (h : Follows service c n q m b own st k x s)
  (hst : Stepped cfg service s a s') (hs : Steady cfg service c m b s a)
include hr h hst hs

/-- A step keeps the ids with the messages they were given to. -/
theorem Follows.numbered_step :
    Numbered service (service.Reads m) (ownAfter service own s a) s' := by
  refine h.numbered.step hr.roundTrips hst (fun source m' hm hm' => ?_) hs.newIds (h.answers hr hs)
  obtain rfl : m = m' := Except.ok.inj (hm.symm.trans hm')
  exact ⟨b, hr.serialized⟩

/-- What the center does on its own, or for another message. -/
theorem Follows.center_step (hi : ∀ a', s.centerAction a = some a' → Internal b s.center a') :
    ∃ p', Tracked b (getRetryQueueName q) p' k x s'.center ∧
      (p' = st.place ∨ st.place.rank < p'.rank ∧ p'.rank ≤ Place.retryQueue.rank) := by
  rcases hst.center_stepped with ⟨-, hcenter⟩ | ⟨a', ha, hst'⟩
  · exact ⟨st.place, hcenter ▸ h.tracked, .inl rfl⟩
  · have hu : LeftAlone cfg b s.center a' := by
      cases hint : isInternal a' with
      | true => exact hs.leftAlone a' (eq_center_of_centerAction ha hint)
      | false => exact leftAlone_of_client hint
    exact h.tracked.step hst' h.numbered.sound.requests (getRetryQueueName_ne q)
      (h.numbered.idsAgree hr.roundTrips hst ha) (hi a' ha) hu

/-- A step that the clients of the message take no part in: the message stays where it is, or
moves on within the center. -/
theorem Follows.foreign (hi : ∀ a', s.centerAction a = some a' → Internal b s.center a')
    (hbusiness : ∀ q', (q', m) ∈ s'.business ↔ (q', m) ∈ s.business)
    (hone : AtMostOne (fun p => p.2 = m) s'.business)
    (hrpcs : ∀ rm ∈ s'.rpcs, rm.businessMsg ≠ b)
    (hold : ∀ i th', s'.threads i = some th' → service.Reads m th'.source →
      ∃ th, s.threads i = some th ∧ SameHandling th th')
    (hkept : ∀ i th, s.threads i = some th → service.Reads m th.source →
      th.run.state.handed = [] → ∃ th', s'.threads i = some th' ∧ SameHandling th th')
    (hcalls : s'.calls m = s.calls m) :
    ∃ st', Follows service c n q m b (ownAfter service own s a) st' k x s' ∧
      (st' = st ∨ st.rank < st'.rank) := by
  have hclients : ∀ i th', s'.threads i = some th' → service.Reads m th'.source →
      IsClient service c st k x i th' := by
    intro i th' hi' hth'
    obtain ⟨th, hi, he⟩ := hold i th' hi' hth'
    exact (h.clients i th hi (he.source ▸ hth')).congr he
  obtain ⟨p', hp', rfl | ⟨hlt, hle⟩⟩ := h.center_step hr hst hs hi
  · refine ⟨st, ?_, .inl rfl⟩
    exact {
      numbered := h.numbered_step hr hst hs
      tracked := hp'
      business := fun q' hq' => h.business q' ((hbusiness q').mp hq')
      atMostOne := hone
      waiting := fun hst => (hbusiness q).mpr (h.waiting hst)
      rpcs := hrpcs
      clients := hclients
      client := fun i called hst => by
        obtain ⟨th, hi, hth, hnil⟩ := h.client i called hst
        obtain ⟨th', hi', he⟩ := hkept i th hi hth hnil
        exact ⟨th', hi', he.source ▸ hth, he.state ▸ hnil⟩
      calls := hcalls.trans h.calls
      counts := h.counts }
  · -- the message has moved on within the center
    cases st with
    | center p =>
        have hp : p ≠ .recover := by
          rintro rfl
          exact absurd (Nat.lt_of_lt_of_le hlt hle) (by decide)
        have hrec : p' ≠ .recover := by
          rintro rfl
          exact absurd hle (by decide)
        have haway : p' ≠ .away := by
          rintro rfl
          exact absurd hle (by decide)
        refine ⟨.center p', ?_, .inr hlt⟩
        exact {
          numbered := h.numbered_step hr hst hs
          tracked := hp'
          business := fun q' hq' => by cases (h.business q' ((hbusiness q').mp hq')).1
          atMostOne := hone
          waiting := fun hw => by cases hw
          rpcs := hrpcs
          clients := fun i th hi hth => by
            have hcl := hclients i th hi hth
            exact ⟨hcl.config, hcl.called, fun hnil => by cases (hcl.current hnil).1⟩
          client := fun i called hc => by cases hc
          calls := by rw [hcalls, h.calls, Stage.called_center hp, Stage.called_center hrec]
          counts :=
            { h.counts with
              recovered := fun he => absurd (Stage.center.inj he) hrec
              not_away := fun he => haway (Stage.center.inj he)
              fresh := fun hf => by cases hf
              immediate := fun hi _ => h.counts.immediate hi fun he => hp (Stage.center.inj he)
              interval := fun hi => (h.counts.interval hi).imp_right fun hk => by
                exact absurd (congrArg Stage.center hk.2) h.counts.not_away } }
    | _ => exact absurd (Nat.lt_of_lt_of_le hlt hle) (by simp [Stage.place, Place.rank])

end

/-! ### Actions of the center that are for another message -/

section
variable {s : State B} {rm : RetryMessage B}

omit [BusinessMsg B] in
/-- A call for another message. -/
theorem internal_process {call : Call} (hb : rm.businessMsg ≠ b) :
    Internal b s (.process call rm) where
  message _ _ hm := by cases hm; exact hb
  failOver _ ha := by cases ha
  publish _ ha := by cases ha
  deliver _ _ ha := by cases ha

omit [BusinessMsg B] in
theorem internal_failOver (hb : rm.businessMsg ≠ b) : Internal b s (.failOver rm) where
  message _ _ hm := by cases hm
  failOver _ ha := by cases ha; exact hb
  publish _ ha := by cases ha
  deliver _ _ ha := by cases ha

omit [BusinessMsg B] in
theorem internal_publish (hb : rm.businessMsg ≠ b) : Internal b s (.publish rm) where
  message _ _ hm := by cases hm
  failOver _ ha := by cases ha
  publish _ ha := by cases ha; exact hb
  deliver _ _ ha := by cases ha

omit [BusinessMsg B] in
/-- A delivery of another message. -/
theorem internal_deliver {j : Nat} (hj : s.retryQueues[j]? = some rm) (hb : rm.businessMsg ≠ b) :
    Internal b s (.deliver j) where
  message _ _ hm := by cases hm
  failOver _ ha := by cases ha
  publish _ ha := by cases ha
  deliver _ _ ha hn := by
    cases ha
    cases hj.symm.trans hn
    exact hb

end

/-- The call sends the message. -/
inductive SendsBy (rm : RetryMessage B) : ClientOp B Msg → Prop where
  | process : SendsBy rm (.process rm)
  | exceptionQueue : SendsBy rm (.sendToExceptionQueue rm)
  | retryQueue : SendsBy rm (.sendToRetryQueue rm)

omit [BusinessMsg B] [DecidableEq Msg] in
/-- A call of a thread that has another message. -/
theorem internal_call {i : Nat} {call : Call} {answer : Answer} {th : ClientThread B Msg}
    {op : ClientOp B Msg} {f : Except Throwable op.Res → ClientProg B Msg Unit}
    (hi : s.threads i = some th) (hk : th.run.rest = .call op f)
    (hne : ∀ rm, SendsBy rm op → rm.businessMsg ≠ b) (a' : Center.Action B)
    (ha : s.centerAction (.call i call answer) = some a') : Internal b s.center a' := by
  cases answer <;> simp only [centerAction, hi, hk, reduceCtorEq] at ha
  cases op with
  | process rm => cases ha; exact internal_process (hne rm .process)
  | sendToExceptionQueue rm => cases ha; exact internal_failOver (hne rm .exceptionQueue)
  | sendToRetryQueue rm => cases ha; exact internal_publish (hne rm .retryQueue)
  | _ => cases ha

omit [BusinessMsg B] in
theorem calls_deletions (cs cs' : State B) (a' : Center.Action B) :
    (deletions cs cs' a' : List (Event B Msg)).countP (Event.isCall m) = 0 := by
  unfold deletions
  split
  · split <;> rfl
  · rfl

/-! ### Steps of other messages -/

section
variable (hr : Retried service c n q m b) (h : Follows service c n q m b own st k x s)
include hr h

/-- A step inside the center leaves the message where it is, or takes it on. -/
theorem Follows.internal {a' : Center.Action B} {s₁ : State B}
    (hi : isInternal a' = true) (hc : s.center.step cfg a' = some s₁)
    (hs : Steady cfg service c m b s (.center a')) :
    ∃ st', Follows service c n q m b (ownAfter service own s (.center a')) st' k x
      { s with center := s₁, log := s.log ++ deletions s.center s₁ a' } ∧
        (st' = st ∨ st.rank < st'.rank) := by
  refine h.foreign hr (.center hi hc) hs (fun a₀ ha => ?_) (fun _ => Iff.rfl) h.atMostOne h.rpcs
    (fun i th hi hth => ⟨th, hi, .refl th⟩) (fun i th hi hth hnil => ⟨th, hi, .refl th⟩) ?_
  · cases ha
    refine ⟨fun call rm hm => ?_, ?_, ?_, ?_⟩
    · rcases State.message_cases hm with rfl | hp
      · cases hi
      · exact h.tracked.pends rm hp
    · rintro rm rfl
      cases hi
    · rintro rm rfl
      cases hi
    · rintro j rm rfl
      cases hi
  · simp only [Framework.calls, List.countP_append, calls_deletions, Nat.add_zero]

/-- An RPC that arrives leaves the message where it is, or takes it on. -/
theorem Follows.arrive {j : Nat} {call : Call} {rm : RetryMessage B} (hj : s.rpcs[j]? = some rm)
    (hs : Steady cfg service c m b s (.arrive j call)) :
    ∃ st', Follows service c n q m b (ownAfter service own s (.arrive j call)) st' k x
      { s with center := s.center.process call rm, rpcs := s.rpcs.eraseIdx j } ∧
        (st' = st ∨ st.rank < st'.rank) := by
  refine h.foreign hr (.arrive hj) hs (fun a' ha => ?_) (fun _ => Iff.rfl) h.atMostOne
    (fun rm' hm => h.rpcs rm' (List.mem_of_mem_eraseIdx hm))
    (fun i th hi hth => ⟨th, hi, .refl th⟩) (fun i th hi hth hnil => ⟨th, hi, .refl th⟩) rfl
  simp only [centerAction, hj, Option.map_some, Option.some.injEq] at ha
  exact ha ▸ internal_process (h.rpcs rm (List.mem_of_getElem? hj))

/-- A call that does not send the message, does not call its listener, and leaves its handling as
it is. -/
theorem Follows.quiet_call {i : Nat} {call : Call} {answer : Answer} {th : ClientThread B Msg}
    {op : ClientOp B Msg} {f : Except Throwable op.Res → ClientProg B Msg Unit}
    {r : Except Throwable op.Res} {s₁ : Framework B Msg} (hi : s.threads i = some th)
    (hk : th.run.rest = .call op f) (hserve : s.serve call op answer = some (r, s₁))
    (hs : Steady cfg service c m b s (.call i call answer))
    (hne : ∀ rm, SendsBy rm op → rm.businessMsg ≠ b)
    (hlistener : ∀ m', op = .invokeBusinessMessage m' → m' ≠ m)
    (hsame : service.Reads m th.source → th.run.state.next op r = th.run.state) :
    ∃ st', Follows service c n q m b (ownAfter service own s (.call i call answer)) st' k x
      { s₁ with
        threads := Function.update s.threads i
          (some { th with run := ⟨th.run.state.next op r, f r⟩ }) } ∧
        (st' = st ∨ st.rank < st'.rank) := by
  have hserved := serve_served hserve
  have hbusiness : s₁.business = s.business := by cases hserved <;> rfl
  refine h.foreign hr (.call hi hk hserve) hs (internal_call hi hk hne)
    (fun q' => by rw [hbusiness]) (by rw [hbusiness]; exact h.atMostOne) (fun rm hm => ?_)
    (fun j th' hj hth => ?_) (fun j th' hj hth hnil => ?_) ?_
  · cases hserved with
    | timedOut rm' t =>
        rcases List.mem_append.mp hm with hm | hm
        · exact h.rpcs rm hm
        · obtain rfl := List.mem_singleton.mp hm
          exact hne rm .process
    | _ => exact h.rpcs rm hm
  · by_cases he : j = i
    · subst he
      simp only [Function.update_self, Option.some.injEq] at hj
      subst hj
      exact ⟨th, hi, rfl, rfl, hsame hth⟩
    · exact ⟨th', by simpa only [Function.update_of_ne he] using hj, .refl th'⟩
  · by_cases he : j = i
    · subst he
      rw [hi] at hj
      cases hj
      exact ⟨_, Function.update_self .., rfl, rfl, hsame hth⟩
    · exact ⟨th', (Function.update_of_ne he ..).trans hj, .refl th'⟩
  · cases hserved with
    | listened m' outcome =>
        have hne' : ¬ m' = m := hlistener m' rfl
        simp only [Framework.calls, List.countP_append, List.countP_singleton, Event.isCall, hne',
          decide_false, Bool.false_eq_true, if_false, Nat.add_zero]
    | _ => rfl

omit hr in
/-- A thread of another message sends other messages, and calls another listener. -/
theorem Follows.foreign_thread (hr : Retried service c n q m b) {i : Nat}
    {th : ClientThread B Msg} (hi : s.threads i = some th) (hth : ¬ service.Reads m th.source)
    {op : ClientOp B Msg} {f : Except Throwable op.Res → ClientProg B Msg Unit}
    (hk : th.run.rest = .call op f) :
    (∀ rm, SendsBy rm op → rm.businessMsg ≠ b) ∧ ∀ m', op = .invokeBusinessMessage m' → m' ≠ m := by
  obtain ⟨m', hm'⟩ := h.numbered.sound.source_message (isContent_owned hr.roundTrips) hi
  have hne : m' ≠ m := by
    rintro rfl
    exact hth hm'
  have hallows := ((h.numbered.sound.threads i th hi).run m' hm').allows hk
  have hhop : ∀ hop, th.run.state.MayHand service.env th.wrapper m' hop →
      hop.message.businessMsg ≠ b := by
    intro hop hmay
    obtain ⟨b', flag, isMessageForRetry, hb', hmsg⟩ := hmay.message
    rw [hmsg]
    exact hr.ne_of_ne hne hb'
  refine ⟨fun rm hsend => ?_, ?_⟩
  · cases hsend with
    | process => exact hhop (.center rm) hallows
    | exceptionQueue => exact hhop (.center rm) hallows.2
    | retryQueue => exact hhop (.retryQueue rm) hallows
  · rintro m'' rfl
    exact hallows.1 ▸ hne

omit hr in
/-- A retry message that deserializes to the message has its content. -/
theorem Follows.businessMsg_eq (hr : Retried service c n q m b) {rm : RetryMessage B}
    (hm : s.Messages rm) (hth : service.Reads m (.retry rm)) : rm.businessMsg = b := by
  obtain ⟨-, m', hser, -⟩ := h.numbered.sound.messages rm hm
  obtain rfl : m' = m := Except.ok.inj ((hr.roundTrips m' _ hser).1.symm.trans hth)
  exact Except.ok.inj (hser.symm.trans hr.serialized)

/-- A delivery of another business message. -/
theorem Follows.deliverBusiness_foreign {i j : Nat} {q' : String} {m' : Msg}
    {c' : RetryQueueConfig} (hi : s.threads i = none) (hj : s.business[j]? = some (q', m'))
    (hc : service.retryServiceConfig.getRetryQueueConfig q' = some c') (hne : m' ≠ m)
    (hs : Steady cfg service c m b s (.deliverBusiness i j)) :
    ∃ st', Follows service c n q m b (ownAfter service own s (.deliverBusiness i j)) st' k x
      { s with
        business := s.business.eraseIdx j
        threads := Function.update s.threads i
          (some ⟨.business q' m', c', ⟨.start, (BusinessMessageListenerWrapper.initial c').onMessage
            service.env m'⟩⟩) } ∧ (st' = st ∨ st.rank < st'.rank) := by
  refine h.foreign hr (.deliverBusiness hi hj hc) hs (fun a' ha => by cases ha)
    (fun q'' => mem_eraseIdx_iff (P := fun p : String × Msg => p.2 = m) hj hne rfl)
    (h.atMostOne.eraseIdx j) h.rpcs (fun v th hv hth => ?_) (fun v th hv hth hnil => ?_) rfl
  · by_cases he : v = i
    · subst he
      simp only [Function.update_self, Option.some.injEq] at hv
      subst hv
      exact absurd (Except.ok.inj hth) hne
    · exact ⟨th, by simpa only [Function.update_of_ne he] using hv, .refl th⟩
  · have he : v ≠ i := by
      rintro rfl
      rw [hi] at hv
      cases hv
    exact ⟨th, (Function.update_of_ne he ..).trans hv, .refl th⟩

/-- A delivery of another retry message. -/
theorem Follows.deliverRetry_foreign {i j : Nat} {rm : RetryMessage B}
    {c' : RetryQueueConfig} (hi : s.threads i = none) (hj : s.center.retryQueues[j]? = some rm)
    (hc : service.ofRetryQueue rm.retryQueueName = some c') (hne : rm.businessMsg ≠ b)
    (hs : Steady cfg service c m b s (.deliverRetry i j)) :
    ∃ st', Follows service c n q m b (ownAfter service own s (.deliverRetry i j)) st' k x
      { s with
        center := { s.center with retryQueues := s.center.retryQueues.eraseIdx j }
        threads := Function.update s.threads i
          (some ⟨.retry rm, c',
            ⟨.start, RetryMessageListener.onMessage service.env c' (some rm)⟩⟩) } ∧
        (st' = st ∨ st.rank < st'.rank) := by
  have hmem : s.Messages rm := .toClient (.retryQueue (List.mem_of_getElem? hj))
  refine h.foreign hr (.deliverRetry hi hj hc) hs (fun a' ha => ?_) (fun _ => Iff.rfl)
    h.atMostOne h.rpcs (fun v th hv hth => ?_) (fun v th hv hth hnil => ?_) rfl
  · cases ha
    exact internal_deliver hj hne
  · by_cases he : v = i
    · subst he
      simp only [Function.update_self, Option.some.injEq] at hv
      subst hv
      exact absurd (h.businessMsg_eq hr hmem hth) hne
    · exact ⟨th, by simpa only [Function.update_of_ne he] using hv, .refl th⟩
  · have he : v ≠ i := by
      rintro rfl
      rw [hi] at hv
      cases hv
    exact ⟨th, (Function.update_of_ne he ..).trans hv, .refl th⟩

/-- A thread that has handed the message over, or has another one, is done. -/
theorem Follows.returned {i : Nat} {th : ClientThread B Msg} (hi : s.threads i = some th)
    (hret : th.run.rest = .ret ()) (hs : Steady cfg service c m b s (.finish i)) :
    ∃ st', Follows service c n q m b (ownAfter service own s (.finish i)) st' k x
      { s with
        threads := Function.update s.threads i none
        log := s.log ++ [.returned th.source th.run.state.called] } ∧
        (st' = st ∨ st.rank < st'.rank) := by
  refine h.foreign hr (.returned hi hret) hs (fun a' ha => ?_) (fun _ => Iff.rfl) h.atMostOne
    h.rpcs (fun v th' hv hth => ?_) (fun v th' hv hth hnil => ?_) ?_
  · simp only [centerAction, hi, hret, reduceCtorEq] at ha
  · by_cases he : v = i
    · subst he
      simp only [Function.update_self, reduceCtorEq] at hv
    · exact ⟨th', by simpa only [Function.update_of_ne he] using hv, .refl th'⟩
  · have he : v ≠ i := by
      rintro rfl
      rw [hi] at hv
      cases hv
      exact h.handed_of_returned hi hth hret hnil
    exact ⟨th', (Function.update_of_ne he ..).trans hv, .refl th'⟩
  · simp only [Framework.calls, List.countP_append, List.countP_singleton, Event.isCall,
      Bool.false_eq_true, if_false, Nat.add_zero]

/-- Only the thread of another message throws. -/
theorem Follows.thrown {i : Nat} {th : ClientThread B Msg} {e : Throwable}
    (hi : s.threads i = some th) (hthrow : th.run.rest = .throw e)
    (hs : Steady cfg service c m b s (.finish i)) :
    ∃ st', Follows service c n q m b (ownAfter service own s (.finish i)) st' k x
      { s.redeliver th.source with threads := Function.update s.threads i none } ∧
        (st' = st ∨ st.rank < st'.rank) := by
  -- the handling of `m` does not throw, so this thread has another message
  have hth : ¬ service.Reads m th.source := fun hth => h.not_thrown hi hth hthrow
  have hold : ∀ v th', Function.update s.threads i none v = some th' →
      service.Reads m th'.source → ∃ th, s.threads v = some th ∧ SameHandling th th' := by
    intro v th' hv hth'
    by_cases he : v = i
    · subst he
      simp only [Function.update_self, reduceCtorEq] at hv
    · exact ⟨th', by simpa only [Function.update_of_ne he] using hv, .refl th'⟩
  have hkept : ∀ v th', s.threads v = some th' → service.Reads m th'.source →
      th'.run.state.handed = [] →
      ∃ th'', Function.update s.threads i none v = some th'' ∧ SameHandling th' th'' := by
    intro v th' hv hth' hnil
    have he : v ≠ i := by
      rintro rfl
      rw [hi] at hv
      cases hv
      exact hth hth'
    exact ⟨th', (Function.update_of_ne he ..).trans hv, .refl th'⟩
  have hst : Stepped cfg service s (.finish i) _ := .thrown hi hthrow
  cases hsrc : th.source with
  | business q' m' =>
      rw [hsrc] at hst hth
      have hne : m' ≠ m := by
        rintro rfl
        exact hth rfl
      refine h.foreign hr hst hs (fun a' ha => ?_) (fun q'' => ?_) ?_ h.rpcs hold hkept rfl
      · simp only [centerAction, hi, hthrow, hsrc, reduceCtorEq] at ha
      · exact mem_append_singleton_iff (P := fun p : String × Msg => p.2 = m) hne rfl
      · exact h.atMostOne.append fun hm => absurd hm hne
  | retry rm =>
      rw [hsrc] at hst hth
      have hmem : s.Messages rm := .toClient (.handled hi hsrc)
      refine h.foreign hr hst hs (fun a' ha => ?_) (fun _ => Iff.rfl) h.atMostOne h.rpcs hold
        hkept rfl
      simp only [centerAction, hi, hthrow, hsrc, Option.some.injEq] at ha
      subst ha
      refine internal_publish fun hb => hth ?_
      change service.env.serializer.deserialize rm.businessMsg = .ok m
      rw [hb]
      exact (hr.roundTrips m b hr.serialized).1

end

end Framework

end MRF
