import MRF.Center.Dao

/-!
# Center — Register

Registration of a client for the retry service: `MRFServiceImpl.registerRetryService`,
`MRFRegisterService`, `ClientConfigDAO`, and the start of the center, which builds the map of
retry templates from `client_config`.

A `RabbitTemplate` is known by the connection parameters it was created with.
-/

namespace MRF.Center
open MRF.Library Dao

/-- The connection parameters of a client's queues. -/
structure ConnectionConfig where
  host : String
  port : Int32
  username : String
  password : String
  deriving DecidableEq, Repr

/-- What the center answers to a registration: the exception queue and its connection. -/
structure QueueConfig extends ConnectionConfig where
  queueName : String
  deriving DecidableEq, Repr

/-- A row of `client_config`, and the six parameters of a registration. -/
structure ClientConfig extends ConnectionConfig where
  retryQueueName : String
  clientServiceName : String
  deriving DecidableEq, Repr

instance : Keyed ClientConfig (String × String) :=
  ⟨fun c => (c.retryQueueName, c.clientServiceName)⟩

@[simp] theorem key_clientConfig (c : ClientConfig) :
    Keyed.key c = (c.retryQueueName, c.clientServiceName) := rfl

/-- What a registration reads and writes: the table, and the map of the center's process. -/
structure Registry where
  clientConfig : Table ClientConfig
  retryRabbitTemplateMap : String → Option ConnectionConfig

namespace MRFServerResources

def addRetryRabbitTemplate (map : String → Option ConnectionConfig) (retryQueueName : String)
    (template : ConnectionConfig) : String → Option ConnectionConfig :=
  if retryQueueName = "" then map
  else fun q => if q = retryQueueName then some template else map q

def getRetryRabbitTemplate (map : String → Option ConnectionConfig) (retryQueueName : String) :
    Option ConnectionConfig :=
  if retryQueueName = "" then none else map retryQueueName

end MRFServerResources

open MRFServerResources

namespace ClientConfigDAO

def getAllClientConfigs : Dao Registry (List ClientConfig) :=
  execute "getAllClientConfigs" fun g => some (g.clientConfig.rows, g)

/-- No part of a configuration may be empty. -/
def isClientConfigValid (c : ClientConfig) : Bool :=
  c.host ≠ "" && 0 < c.port && c.username ≠ "" && c.password ≠ "" && c.retryQueueName ≠ "" &&
    c.clientServiceName ≠ ""

/-- An invalid configuration is refused without a statement. -/
def addClientConfig (c : ClientConfig) : Dao Registry Bool :=
  if !isClientConfigValid c then pure false
  else execute "addClientConfig" fun g =>
    (g.clientConfig.insert c).map fun u => (true, { g with clientConfig := u })

/-- The new values of `updateClientConfig`, on the row they are written to. -/
def updated (c old : ClientConfig) : ClientConfig :=
  { old with toConnectionConfig := c.toConnectionConfig }

/-- The check is the other way round here: a valid configuration is refused. -/
def updateClientConfig (c : ClientConfig) : Dao Registry Bool :=
  if isClientConfigValid c then pure false
  else execute "updateClientConfig" fun g =>
    some ((g.clientConfig.get (Keyed.key c)).isSome,
      { g with clientConfig := g.clientConfig.update (Keyed.key c) (updated c) fun _ => rfl })

end ClientConfigDAO

open ClientConfigDAO

namespace MRFRegisterService

/-- There is no such row, with all its columns. -/
def shouldUpdateOrInsertClientConfig (c : ClientConfig) : Dao Registry Bool := do
  if c.clientServiceName = "" || c.retryQueueName = "" then
    return false
  return !(← getAllClientConfigs).any fun curConfig => curConfig = c

/-- There is a row of the pair. -/
def hasServiceRegistered (clientServiceName retryQueueName : String) : Dao Registry Bool := do
  if clientServiceName = "" || retryQueueName = "" then
    return false
  return (← getAllClientConfigs).any fun curConfig =>
    curConfig.clientServiceName = clientServiceName && curConfig.retryQueueName = retryQueueName

/-- The assignment to the map in memory, which no statement of the database follows. -/
def addTemplate (c : ClientConfig) : Dao Registry Unit := fun s =>
  .ok ((), { s with tables := { s.tables with
    retryRabbitTemplateMap := addRetryRabbitTemplate s.tables.retryRabbitTemplateMap
      c.retryQueueName c.toConnectionConfig } })

/-- What the two DAO methods that write answer is not looked at. -/
def registerRetryService (exceptionQueueConfig : QueueConfig) (c : ClientConfig) :
    Dao Registry QueueConfig := do
  if ← shouldUpdateOrInsertClientConfig c then
    if ← hasServiceRegistered c.clientServiceName c.retryQueueName then
      let _ ← updateClientConfig c
    else
      let _ ← addClientConfig c
    addTemplate c
  return exceptionQueueConfig

end MRFRegisterService

/-- `MRFServiceRegisterException`, with what caused it. -/
structure MRFServiceRegisterException where
  errorMsg : String
  cause : Option DAOException
  deriving DecidableEq, Repr

namespace MRFServiceImpl

/-- The parameters that `registerRetryService` accepts. -/
def accepts (c : ClientConfig) : Bool :=
  !(c.host = "" || c.port ≤ 0 || c.username = "" || c.password = "" || c.retryQueueName = "" ||
    c.clientServiceName = "")

/-- At most one statement of a registration writes, and it is the last, so a registration that
throws has written nothing. -/
def registerRetryService (exceptionQueueConfig : QueueConfig) (c : ClientConfig)
    (faults : List Bool) (g : Registry) :
    Except MRFServiceRegisterException QueueConfig × Registry :=
  if !accepts c then
    (.error ⟨"client register retry service failed because some parameters are illegal", none⟩, g)
  else
    match transactional (MRFRegisterService.registerRetryService exceptionQueueConfig c) faults g
    with
    | (.ok result, g') => (.ok result, g')
    | (.error e, g') =>
        (.error ⟨"some runtime exception occurs when update or insert ClientConfig to database",
          some e⟩, g')

end MRFServiceImpl

namespace MRFServerCenterStarter

/-- One round of the loop of `init`. -/
def setRetryRabbitTemplate (map : String → Option ConnectionConfig) (cur : ClientConfig) :
    String → Option ConnectionConfig :=
  addRetryRabbitTemplate map cur.retryQueueName cur.toConnectionConfig

/-- The center after its start. -/
def init (clientConfig : Table ClientConfig) : Registry :=
  ⟨clientConfig, clientConfig.rows.foldl setRetryRabbitTemplate fun _ => none⟩

end MRFServerCenterStarter

open MRFServerCenterStarter

/-! ### What a registration does -/

/-- The registration `c` finds its own parameters stored. -/
def Registered (g : Registry) (c : ClientConfig) : Prop :=
  g.clientConfig.get (Keyed.key c) = some c

theorem accepts_valid {c : ClientConfig} (h : MRFServiceImpl.accepts c = true) :
    isClientConfigValid c = true := by
  simp only [MRFServiceImpl.accepts, Bool.not_eq_true', Bool.or_eq_false_iff,
    decide_eq_false_iff_not] at h
  obtain ⟨⟨⟨⟨⟨hh, hp⟩, hu⟩, hw⟩, hq⟩, hs⟩ := h
  have hport : 0 < c.port := Int32.not_le.mp hp
  simp only [isClientConfigValid, Bool.and_eq_true, decide_eq_true_eq]
  exact ⟨⟨⟨⟨⟨hh, hport⟩, hu⟩, hw⟩, hq⟩, hs⟩

theorem names_of_accepts {c : ClientConfig} (h : MRFServiceImpl.accepts c = true) :
    c.retryQueueName ≠ "" ∧ c.clientServiceName ≠ "" := by
  have hv := accepts_valid h
  simp only [isClientConfigValid, Bool.and_eq_true, decide_eq_true_eq] at hv
  exact ⟨hv.1.2, hv.2⟩

theorem getAllClientConfigs_ok {s s' : Session Registry} {l : List ClientConfig}
    (h : getAllClientConfigs s = .ok (l, s')) :
    l = s.tables.clientConfig.rows ∧ s'.tables = s.tables := by
  obtain ⟨hl, hs⟩ := Prod.mk.inj (Option.some.inj (execute_ok h))
  exact ⟨hl.symm, hs.symm⟩

theorem any_eq_iff {g : Registry} {c : ClientConfig} :
    (g.clientConfig.rows.any fun curConfig => curConfig = c) = true ↔ Registered g c := by
  simp only [List.any_eq_true, decide_eq_true_eq, exists_eq_right, Registered,
    Table.get_eq_some_iff, and_true]

theorem any_key_iff {g : Registry} {c : ClientConfig} :
    (g.clientConfig.rows.any fun curConfig =>
      curConfig.clientServiceName = c.clientServiceName &&
        curConfig.retryQueueName = c.retryQueueName) = false ↔
      g.clientConfig.get (Keyed.key c) = none := by
  simp only [List.any_eq_false, Bool.and_eq_true, decide_eq_true_eq, Table.get_eq_none_iff,
    key_clientConfig, Prod.mk.injEq, ne_eq, and_comm]

theorem shouldUpdateOrInsertClientConfig_ok {c : ClientConfig}
    (hc : MRFServiceImpl.accepts c = true)
    {s s' : Session Registry} {b : Bool}
    (h : MRFRegisterService.shouldUpdateOrInsertClientConfig c s = .ok (b, s')) :
    s'.tables = s.tables ∧ (b = false ↔ Registered s.tables c) := by
  obtain ⟨hq, hs⟩ := names_of_accepts hc
  simp only [MRFRegisterService.shouldUpdateOrInsertClientConfig, hq, hs, decide_false,
    Bool.or_false, Bool.false_eq_true, if_false] at h
  obtain ⟨l, s₁, hl, h⟩ := bind_ok h
  obtain ⟨rfl, ht⟩ := getAllClientConfigs_ok hl
  cases h
  refine ⟨ht, ?_⟩
  rw [Bool.not_eq_false', any_eq_iff]

theorem hasServiceRegistered_ok {c : ClientConfig} (hc : MRFServiceImpl.accepts c = true)
    {s s' : Session Registry} {b : Bool}
    (h : MRFRegisterService.hasServiceRegistered c.clientServiceName c.retryQueueName s
      = .ok (b, s')) :
    s'.tables = s.tables ∧ (b = false ↔ s.tables.clientConfig.get (Keyed.key c) = none) := by
  obtain ⟨hq, hs⟩ := names_of_accepts hc
  simp only [MRFRegisterService.hasServiceRegistered, hq, hs, decide_false,
    Bool.or_false, Bool.false_eq_true, if_false] at h
  obtain ⟨l, s₁, hl, h⟩ := bind_ok h
  obtain ⟨rfl, ht⟩ := getAllClientConfigs_ok hl
  cases h
  exact ⟨ht, any_key_iff⟩

/-- The map after the template of `c` was added. -/
def Registry.withTemplate (g : Registry) (c : ClientConfig) : Registry :=
  { g with retryRabbitTemplateMap :=
      addRetryRabbitTemplate g.retryRabbitTemplateMap c.retryQueueName c.toConnectionConfig }

/-- **What `registerRetryService` does**, when it returns normally on parameters that the center
accepts. -/
theorem registerRetryService_cases {qc r : QueueConfig} {c : ClientConfig} {faults : List Bool}
    {g g' : Registry} (hc : MRFServiceImpl.accepts c = true)
    (h : MRFServiceImpl.registerRetryService qc c faults g = (.ok r, g')) :
    (Registered g c ∧ g' = g) ∨
      (¬ Registered g c ∧ g.clientConfig.get (Keyed.key c) ≠ none ∧ g' = g.withTemplate c) ∨
      ∃ u, g.clientConfig.insert c = some u ∧ g' = { g with clientConfig := u }.withTemplate c := by
  unfold MRFServiceImpl.registerRetryService at h
  rw [hc, Bool.not_true, if_neg Bool.false_ne_true] at h
  rcases transactional_cases (MRFRegisterService.registerRetryService qc c) faults g with
    ⟨a, s, hrun, ht⟩ | ⟨e, ht⟩
  · rw [ht] at h
    cases h
    obtain ⟨should, s₁, h₁, h⟩ := bind_ok hrun
    obtain ⟨ht₁, hreg⟩ := shouldUpdateOrInsertClientConfig_ok hc h₁
    cases should with
    | false => cases h; exact .inl ⟨hreg.mp rfl, ht₁⟩
    | true =>
        have hnot : ¬ Registered g c := fun hr => by simpa using hreg.mpr hr
        obtain ⟨has, s₂, h₂, h⟩ := bind_ok h
        obtain ⟨ht₂, hhas⟩ := hasServiceRegistered_ok hc h₂
        rw [ht₁] at ht₂ hhas
        cases has with
        | true =>
            -- the update is refused, and only the map changes
            obtain ⟨b, s₃, h₃, h⟩ := bind_ok h
            simp only [updateClientConfig, accepts_valid hc, if_true] at h₃
            cases h₃
            cases h
            refine .inr (.inl ⟨hnot, fun hn => by simpa using hhas.mpr hn, ?_⟩)
            simp only [Registry.withTemplate, ht₂]
        | false =>
            obtain ⟨b, s₃, h₃, h⟩ := bind_ok h
            simp only [addClientConfig, accepts_valid hc, Bool.not_true, Bool.false_eq_true,
              if_false] at h₃
            have hstmt := execute_ok h₃
            obtain ⟨u, hu, he⟩ := Option.map_eq_some_iff.mp hstmt
            cases h
            rw [ht₂] at hu he
            exact .inr (.inr ⟨u, hu, by rw [← (Prod.mk.inj he).2]; rfl⟩)
  · rw [ht] at h
    cases h

/-! ### Durability -/

/-- `c.clientServiceName` is the only service registered for the queue of `c`. -/
def OnlyService (t : Table ClientConfig) (c : ClientConfig) : Prop :=
  ∀ r ∈ t.rows, r.retryQueueName = c.retryQueueName → r.clientServiceName = c.clientServiceName

/-- The map in memory agrees with `client_config` on the queue of `c`, if `c.clientServiceName` is
the only service of that queue. -/
def Registry.Agrees (g : Registry) (c : ClientConfig) : Prop :=
  OnlyService g.clientConfig c →
    g.retryRabbitTemplateMap c.retryQueueName = some c.toConnectionConfig

/-- The map in memory agrees with the table on the queues with one service. -/
def Registry.InStep (g : Registry) : Prop :=
  ∀ c ∈ g.clientConfig.rows, c.retryQueueName ≠ "" → g.Agrees c

/-- What a registration of `c` that turned `g` into `g'` promises. -/
structure Durable (c : ClientConfig) (g g' : Registry) : Prop where
  row : (g'.clientConfig.select fun r => Keyed.key r = Keyed.key c) = [c]
  others : ∀ k, k ≠ Keyed.key c → g'.clientConfig.get k = g.clientConfig.get k
  restart : OnlyService g'.clientConfig c →
    getRetryRabbitTemplate (init g'.clientConfig).retryRabbitTemplateMap c.retryQueueName =
      getRetryRabbitTemplate g'.retryRabbitTemplateMap c.retryQueueName

/-- A row that is the only one for its queue gives the template after a start. -/
theorem init_get {t : Table ClientConfig} {c : ClientConfig} (hc : c ∈ t.rows)
    (hq : c.retryQueueName ≠ "") (honly : OnlyService t c) :
    (init t).retryRabbitTemplateMap c.retryQueueName = some c.toConnectionConfig := by
  have same : ∀ r ∈ t.rows, r.retryQueueName = c.retryQueueName → r = c := fun r hr hrq =>
    List.inj_on_of_nodup_map t.unique hr hc (by simp [hrq, honly r hr hrq])
  -- later rounds of the loop only write the same value again
  have loop : ∀ (l : List ClientConfig) (map : String → Option ConnectionConfig),
      (∀ r ∈ l, r.retryQueueName = c.retryQueueName → r = c) →
      (c ∈ l ∨ map c.retryQueueName = some c.toConnectionConfig) →
      l.foldl setRetryRabbitTemplate map c.retryQueueName = some c.toConnectionConfig := by
    intro l
    induction l with
    | nil =>
        intro map _ h
        rcases h with h | h
        · cases h
        · exact h
    | cons r l ih =>
        intro map hl h
        refine ih _ (fun r' hr' => hl r' (List.mem_cons_of_mem _ hr')) ?_
        by_cases hr : r.retryQueueName = c.retryQueueName
        · obtain rfl := hl r List.mem_cons_self hr
          right
          simp [setRetryRabbitTemplate, addRetryRabbitTemplate, hq]
        · rcases h with h | h
          · rcases List.mem_cons.mp h with rfl | h
            · exact absurd rfl hr
            · exact .inl h
          · right
            simp only [setRetryRabbitTemplate, addRetryRabbitTemplate]
            split
            · exact h
            · exact (if_neg fun e => hr e.symm).trans h
  exact loop t.rows _ same (.inl hc)

/-- A center that has just started is in step. -/
theorem init_inStep (t : Table ClientConfig) : (init t).InStep :=
  fun _ hc hq honly => init_get hc hq honly

theorem getRetryRabbitTemplate_withTemplate {g : Registry} {c : ClientConfig}
    (hq : c.retryQueueName ≠ "") :
    getRetryRabbitTemplate (g.withTemplate c).retryRabbitTemplateMap c.retryQueueName =
      some c.toConnectionConfig := by
  simp [getRetryRabbitTemplate, Registry.withTemplate, addRetryRabbitTemplate, hq]

/-- A registration that is skipped changes nothing, so a start goes by the row and the map in memory
by an earlier registration. -/
theorem durable_skip_iff {g : Registry} {c : ClientConfig} (hq : c.retryQueueName ≠ "")
    (h : Registered g c) : Durable c g g ↔ g.Agrees c := by
  have hc := (Table.get_eq_some_iff.mp h).1
  constructor
  · intro hd honly
    have hrestart := hd.restart honly
    simp only [getRetryRabbitTemplate, hq, if_false, init_get hc hq honly] at hrestart
    exact hrestart.symm
  · intro hg
    refine ⟨by rw [Table.select_key, h]; rfl, fun _ _ => rfl, fun honly => ?_⟩
    simp only [getRetryRabbitTemplate, hq, if_false, init_get hc hq honly, hg honly]

theorem durable_insert {g : Registry} {c : ClientConfig} (hq : c.retryQueueName ≠ "")
    {u : Table ClientConfig} (hu : g.clientConfig.insert c = some u) :
    Durable c g ({ g with clientConfig := u }.withTemplate c) := by
  have hget : u.get (Keyed.key c) = some c := by rw [Table.get_insert hu, if_pos rfl]
  refine ⟨?_, fun k hk => ?_, fun honly => ?_⟩
  · change (u.select fun r => Keyed.key r = Keyed.key c) = [c]
    rw [Table.select_key, hget]
    rfl
  · change u.get k = _
    rw [Table.get_insert hu, if_neg hk]
  · rw [getRetryRabbitTemplate_withTemplate hq]
    change getRetryRabbitTemplate (init u).retryRabbitTemplateMap c.retryQueueName = _
    rw [getRetryRabbitTemplate, if_neg hq,
      init_get (Table.get_eq_some_iff.mp hget).1 hq honly]

/-- **A registration that returns normally is durable exactly if the service is new to the queue, or
is registered there with the same connection parameters and the map in memory agrees with that.** -/
theorem registerRetryService_durable_iff {qc r : QueueConfig} {c : ClientConfig}
    {faults : List Bool} {g g' : Registry} (hc : MRFServiceImpl.accepts c = true)
    (h : MRFServiceImpl.registerRetryService qc c faults g = (.ok r, g')) :
    Durable c g g' ↔
      ∀ old, g.clientConfig.get (Keyed.key c) = some old → old = c ∧ g.Agrees c := by
  have hq := (names_of_accepts hc).1
  rcases registerRetryService_cases hc h with ⟨hr, rfl⟩ | ⟨hr, hn, rfl⟩ | ⟨u, hu, rfl⟩
  · rw [durable_skip_iff hq hr]
    constructor
    · intro hg old hold
      exact ⟨Option.some.inj (hold.symm.trans hr), hg⟩
    · intro hold
      exact (hold c hr).2
  · -- the row of the service is there, with other parameters, and stays as it was
    constructor
    · intro hd
      have hrow : (g.clientConfig.get (Keyed.key c)).toList = [c] := by
        rw [← Table.select_key]
        exact hd.row
      cases hold : g.clientConfig.get (Keyed.key c) with
      | none => exact absurd hold hn
      | some old =>
          rw [hold] at hrow
          exact absurd (hold.trans (congrArg some (List.singleton_inj.mp hrow))) hr
    · intro hsame
      obtain ⟨old, hold⟩ := Option.ne_none_iff_exists'.mp hn
      exact absurd (hold.trans (congrArg some (hsame old hold).1)) hr
  · refine ⟨fun _ old hold => ?_, fun _ => durable_insert hq hu⟩
    rw [Table.get_eq_none_of_insert hu] at hold
    cases hold

/-- The exception queue of the examples below. -/
def exceptionQueue : QueueConfig :=
  { host := "mq1", port := 5672, username := "mrf", password := "mrf",
    queueName := "mrf.exception.queue" }

/-- A client registers its queue `feed`, and later moves to another broker. -/
def feedConfig (host : String) : ClientConfig :=
  { host, port := 5672, username := "guest", password := "guest",
    retryQueueName := "feed_retry", clientServiceName := "FeedService" }

/-- `feed` is stored with `mq1` and registers so once more.  Right after a start that is durable;
after it has registered with `mq2`, which only the map in memory has, it is not. -/
theorem registerRetryService_feed :
    let start := init ⟨[feedConfig "mq1"], by decide⟩
    let moved :=
      (MRFServiceImpl.registerRetryService exceptionQueue (feedConfig "mq2") [] start).2
    Durable (feedConfig "mq1") start
        (MRFServiceImpl.registerRetryService exceptionQueue (feedConfig "mq1") [] start).2 ∧
      ¬ Durable (feedConfig "mq1") moved
        (MRFServiceImpl.registerRetryService exceptionQueue (feedConfig "mq1") [] moved).2 := by
  intro start moved
  have again : MRFServiceImpl.registerRetryService exceptionQueue (feedConfig "mq1") [] start =
      (.ok exceptionQueue, start) := rfl
  have back : MRFServiceImpl.registerRetryService exceptionQueue (feedConfig "mq1") [] moved =
      (.ok exceptionQueue, moved) := rfl
  constructor
  · rw [again]
    refine (registerRetryService_durable_iff (by decide) again).mpr fun old hold => ?_
    exact ⟨(Option.some.inj hold).symm, init_inStep _ _ List.mem_cons_self (by decide)⟩
  · rw [back]
    intro hd
    have hagrees := ((registerRetryService_durable_iff (by decide) back).mp hd _ rfl).2
    have honly : OnlyService moved.clientConfig (feedConfig "mq1") := by
      intro r hr _
      rw [List.mem_singleton.mp hr]
    exact absurd (hagrees honly) (by decide)

/-- The center answers a registration with a new host, and `client_config` keeps the old one. -/
theorem registerRetryService_keeps_old_host :
    (MRFServiceImpl.registerRetryService exceptionQueue (feedConfig "mq2") []
        (init ⟨[feedConfig "mq1"], by decide⟩)).1 = .ok exceptionQueue ∧
      ¬ Durable (feedConfig "mq2") (init ⟨[feedConfig "mq1"], by decide⟩)
        (MRFServiceImpl.registerRetryService exceptionQueue (feedConfig "mq2") []
          (init ⟨[feedConfig "mq1"], by decide⟩)).2 := by
  refine ⟨rfl, fun h => ?_⟩
  exact absurd h.row (by decide)

/-- Durable registrations leave the center in step. -/
theorem registerRetryService_inStep {qc r : QueueConfig} {c : ClientConfig} {faults : List Bool}
    {g g' : Registry} (hc : MRFServiceImpl.accepts c = true) (hg : g.InStep)
    (h : MRFServiceImpl.registerRetryService qc c faults g = (.ok r, g'))
    (hsame : ∀ old, g.clientConfig.get (Keyed.key c) = some old → old = c) : g'.InStep := by
  have hq := (names_of_accepts hc).1
  rcases registerRetryService_cases hc h with ⟨-, rfl⟩ | ⟨hr, hn, rfl⟩ | ⟨u, hu, rfl⟩
  · exact hg
  · obtain ⟨old, hold⟩ := Option.ne_none_iff_exists'.mp hn
    exact absurd (hold.trans (congrArg some (hsame old hold))) hr
  · intro c' hc' hq' honly
    have hrows := Table.rows_of_insert hu
    by_cases hcq : c'.retryQueueName = c.retryQueueName
    · -- the only service of this queue is the one just registered
      have hcmem : c ∈ u.rows := by simp [hrows]
      have hkey : Keyed.key c' = Keyed.key c := by
        simp [hcq, honly c hcmem hcq.symm]
      obtain rfl := List.inj_on_of_nodup_map u.unique hc' hcmem hkey
      simp [Registry.withTemplate, addRetryRabbitTemplate, hq]
    · have hold : c' ∈ g.clientConfig.rows := by
        have hc'' : c' ∈ u.rows := hc'
        rw [hrows, List.mem_append, List.mem_singleton] at hc''
        rcases hc'' with hmem | rfl
        · exact hmem
        · exact absurd rfl hcq
      have honly' : OnlyService g.clientConfig c' := fun r hr hrq =>
        honly r (by change r ∈ u.rows; simp [hrows, hr]) hrq
      simp [Registry.withTemplate, addRetryRabbitTemplate, hq, hcq, hg c' hold hq' honly']

/-- Registrations one after the other, each of a service that is new to its queue or has the same
connection parameters there. -/
inductive SteadyRegistrations (qc : QueueConfig) : Registry → Registry → Prop where
  | refl (g : Registry) : SteadyRegistrations qc g g
  | more {g g₁ g' : Registry} {c : ClientConfig} {r : QueueConfig} {faults : List Bool}
      (hc : MRFServiceImpl.accepts c = true)
      (hsame : ∀ old, g.clientConfig.get (Keyed.key c) = some old → old = c)
      (h : MRFServiceImpl.registerRetryService qc c faults g = (.ok r, g₁))
      (t : SteadyRegistrations qc g₁ g') : SteadyRegistrations qc g g'

/-- After a start and such registrations the center is in step. -/
theorem SteadyRegistrations.inStep {qc : QueueConfig} {t : Table ClientConfig} {g : Registry}
    (h : SteadyRegistrations qc (init t) g) : g.InStep := by
  have step : ∀ {g g' : Registry}, SteadyRegistrations qc g g' → g.InStep → g'.InStep := by
    intro g g' h
    induction h with
    | refl g => exact id
    | more hc hsame h _ ih => exact fun hg => ih (registerRetryService_inStep hc hg h hsame)
  exact step h (init_inStep t)

end MRF.Center
