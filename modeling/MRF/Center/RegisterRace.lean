import MRF.Center.Register
import MRF.Library.Concurrent
import MRF.Library.Outcome

/-!
# Center — RegisterRace

Registrations that run at the same time.  `MRF.Center.Register` takes a registration as one step;
here its two scans of `client_config`, its write and its assignment to the map are a step each, and
other registrations may come in between.  `exec_registerRetryService`: one that runs alone does what
it does there.

`registerAll_iff`: whatever the order of the calls, each registration comes to its end; and they
all return, with one row for each pair, exactly if none inserts a row after another one did, and
the table had no row for a pair that none of them asks for.
-/

namespace MRF.Center
open MRF.Library Dao

/-! ### A registration, call by call -/

/-- What a registration calls. -/
inductive RegisterOp where
  | getAllClientConfigs
  | updateClientConfig (c : ClientConfig)
  | addClientConfig (c : ClientConfig)
  | addTemplate (c : ClientConfig)

namespace RegisterOp

def Res : RegisterOp → Type
  | .getAllClientConfigs => List ClientConfig
  | .updateClientConfig _ => Bool
  | .addClientConfig _ => Bool
  | .addTemplate _ => Unit

/-- The DAO method of a call. -/
def dao : (op : RegisterOp) → Dao Registry op.Res
  | .getAllClientConfigs => ClientConfigDAO.getAllClientConfigs
  | .updateClientConfig c => ClientConfigDAO.updateClientConfig c
  | .addClientConfig c => ClientConfigDAO.addClientConfig c
  | .addTemplate c => MRFRegisterService.addTemplate c

/-- Each call is a transaction of its own.  The database raises on a duplicate key, and on nothing
else. -/
def answer (g : Registry) (op : RegisterOp) : Except DAOException op.Res × Registry :=
  transactional op.dao [] g

end RegisterOp

/-- The body of a registration, call by call. -/
abbrev Registering (α : Type) : Type := Prog RegisterOp RegisterOp.Res DAOException α

namespace Registering

def getAllClientConfigs : Registering (List ClientConfig) :=
  Prog.perform RegisterOp.getAllClientConfigs

def updateClientConfig (c : ClientConfig) : Registering Bool :=
  Prog.perform (RegisterOp.updateClientConfig c)

def addClientConfig (c : ClientConfig) : Registering Bool :=
  Prog.perform (RegisterOp.addClientConfig c)

def addTemplate (c : ClientConfig) : Registering Unit := Prog.perform (RegisterOp.addTemplate c)

def shouldUpdateOrInsertClientConfig (c : ClientConfig) : Registering Bool := do
  if c.clientServiceName = "" || c.retryQueueName = "" then
    return false
  return !(← getAllClientConfigs).any fun curConfig => curConfig = c

def hasServiceRegistered (clientServiceName retryQueueName : String) : Registering Bool := do
  if clientServiceName = "" || retryQueueName = "" then
    return false
  return (← getAllClientConfigs).any fun curConfig =>
    curConfig.clientServiceName = clientServiceName && curConfig.retryQueueName = retryQueueName

/-- `MRFRegisterService.registerRetryService`. -/
def updateOrInsert (exceptionQueueConfig : QueueConfig) (c : ClientConfig) :
    Registering QueueConfig := do
  if ← shouldUpdateOrInsertClientConfig c then
    if ← hasServiceRegistered c.clientServiceName c.retryQueueName then
      let _ ← updateClientConfig c
    else
      let _ ← addClientConfig c
    addTemplate c
  return exceptionQueueConfig

/-- `MRFServiceImpl.registerRetryService`. -/
def registerRetryService (exceptionQueueConfig : QueueConfig) (c : ClientConfig) :
    Registering (Except MRFServiceRegisterException QueueConfig) :=
  if !MRFServiceImpl.accepts c then
    return .error ⟨"client register retry service failed because some parameters are illegal", none⟩
  else
    tryCatch (do return .ok (← updateOrInsert exceptionQueueConfig c)) fun e =>
      return .error
        ⟨"some runtime exception occurs when update or insert ClientConfig to database", some e⟩

end Registering

open Registering

/-! ### The calls -/

variable {g g' : Registry} {c : ClientConfig}

/-- The DAO does not update a valid configuration. -/
theorem updateClientConfig_eq (hc : MRFServiceImpl.accepts c = true) :
    ClientConfigDAO.updateClientConfig c = pure false :=
  if_pos (accepts_valid hc)

/-- The DAO inserts a valid configuration. -/
theorem addClientConfig_eq (hc : MRFServiceImpl.accepts c = true) :
    ClientConfigDAO.addClientConfig c = execute "addClientConfig" fun g =>
      (g.clientConfig.insert c).map fun u => (true, { g with clientConfig := u }) := by
  refine if_neg ?_
  rw [accepts_valid hc]
  exact Bool.false_ne_true

/-- An update answers `false`, whatever the table has. -/
theorem answer_updateClientConfig (hc : MRFServiceImpl.accepts c = true) :
    RegisterOp.answer g (.updateClientConfig c) = (.ok false, g) := by
  change transactional (ClientConfigDAO.updateClientConfig c) [] g = _
  rw [updateClientConfig_eq hc]
  rfl

/-- An insert of a new pair stores the configuration. -/
theorem answer_addClientConfig_new (hc : MRFServiceImpl.accepts c = true) {u : Table ClientConfig}
    (hu : g.clientConfig.insert c = some u) :
    RegisterOp.answer g (.addClientConfig c) = (.ok true, { g with clientConfig := u }) := by
  change transactional (ClientConfigDAO.addClientConfig c) [] g = _
  rw [addClientConfig_eq hc, transactional, execute_nil, hu]
  rfl

/-- An insert of a pair that is there raises. -/
theorem answer_addClientConfig_duplicate (hc : MRFServiceImpl.accepts c = true)
    (hu : g.clientConfig.insert c = none) :
    RegisterOp.answer g (.addClientConfig c) = (.error ⟨"addClientConfig"⟩, g) := by
  change transactional (ClientConfigDAO.addClientConfig c) [] g = _
  rw [addClientConfig_eq hc, transactional, execute_nil, hu]
  rfl

theorem shouldUpdateOrInsertClientConfig_eq (hc : MRFServiceImpl.accepts c = true) :
    shouldUpdateOrInsertClientConfig c = (do
      return !(← getAllClientConfigs).any fun curConfig => curConfig = c) := by
  obtain ⟨hq, hs⟩ := names_of_accepts hc
  simp only [shouldUpdateOrInsertClientConfig, hq, hs, decide_false, Bool.or_false,
    Bool.false_eq_true, if_false]

theorem hasServiceRegistered_eq (hc : MRFServiceImpl.accepts c = true) :
    hasServiceRegistered c.clientServiceName c.retryQueueName = (do
      return (← getAllClientConfigs).any fun curConfig =>
        curConfig.clientServiceName = c.clientServiceName &&
          curConfig.retryQueueName = c.retryQueueName) := by
  obtain ⟨hq, hs⟩ := names_of_accepts hc
  simp only [hasServiceRegistered, hq, hs, decide_false, Bool.or_false, Bool.false_eq_true,
    if_false]

/-! ### One alone -/

/-- Without interleaving, the first test asks for the very same row. -/
theorem exec_shouldUpdateOrInsertClientConfig (hc : MRFServiceImpl.accepts c = true) :
    (shouldUpdateOrInsertClientConfig c).exec RegisterOp.answer g =
      (.ok !g.clientConfig.rows.any fun curConfig => curConfig = c, g) := by
  rw [shouldUpdateOrInsertClientConfig_eq hc]
  rfl

/-- Without interleaving, the second test asks for a row of the pair. -/
theorem exec_hasServiceRegistered (hc : MRFServiceImpl.accepts c = true) :
    (hasServiceRegistered c.clientServiceName c.retryQueueName).exec RegisterOp.answer g =
      (.ok (g.clientConfig.rows.any fun curConfig =>
        curConfig.clientServiceName = c.clientServiceName &&
          curConfig.retryQueueName = c.retryQueueName), g) := by
  rw [hasServiceRegistered_eq hc]
  rfl

theorem shouldUpdateOrInsertClientConfig_nil (hc : MRFServiceImpl.accepts c = true) :
    MRFRegisterService.shouldUpdateOrInsertClientConfig c ⟨g, []⟩ =
      .ok (!g.clientConfig.rows.any fun curConfig => curConfig = c, ⟨g, []⟩) := by
  obtain ⟨hq, hs⟩ := names_of_accepts hc
  simp only [MRFRegisterService.shouldUpdateOrInsertClientConfig, hq, hs, decide_false,
    Bool.or_false, Bool.false_eq_true, if_false]
  rfl

theorem hasServiceRegistered_nil (hc : MRFServiceImpl.accepts c = true) :
    MRFRegisterService.hasServiceRegistered c.clientServiceName c.retryQueueName ⟨g, []⟩ =
      .ok (g.clientConfig.rows.any fun curConfig =>
        curConfig.clientServiceName = c.clientServiceName &&
          curConfig.retryQueueName = c.retryQueueName, ⟨g, []⟩) := by
  obtain ⟨hq, hs⟩ := names_of_accepts hc
  simp only [MRFRegisterService.hasServiceRegistered, hq, hs, decide_false, Bool.or_false,
    Bool.false_eq_true, if_false]
  rfl

/-- Without interleaving, the body is that of the sequential model. -/
theorem exec_updateOrInsert {qc : QueueConfig} (hc : MRFServiceImpl.accepts c = true) :
    (updateOrInsert qc c).exec RegisterOp.answer g =
      transactional (MRFRegisterService.registerRetryService qc c) [] g := by
  rw [updateOrInsert, Prog.exec_bind_ok (exec_shouldUpdateOrInsertClientConfig hc), transactional,
    MRFRegisterService.registerRetryService, bind_apply, shouldUpdateOrInsertClientConfig_nil hc]
  cases h₁ : g.clientConfig.rows.any fun curConfig => curConfig = c with
  | true => rfl
  | false =>
      dsimp only
      rw [Bool.not_false, if_pos rfl, if_pos rfl, Prog.exec_bind_ok (exec_hasServiceRegistered hc),
        bind_apply, hasServiceRegistered_nil hc]
      dsimp only
      cases h₂ : g.clientConfig.rows.any fun curConfig =>
          curConfig.clientServiceName = c.clientServiceName &&
            curConfig.retryQueueName = c.retryQueueName with
      | true =>
          have hupdate : (updateClientConfig c).exec RegisterOp.answer g = (.ok false, g) :=
            (Prog.exec_perform _).trans (answer_updateClientConfig hc)
          rw [if_pos rfl, if_pos rfl, Prog.exec_bind_ok hupdate, updateClientConfig_eq hc]
          rfl
      | false =>
          rw [if_neg Bool.false_ne_true, if_neg Bool.false_ne_true, bind_apply,
            addClientConfig_eq hc, execute_nil]
          cases hu : g.clientConfig.insert c with
          | none =>
              have hadd : (addClientConfig c).exec RegisterOp.answer g =
                  (.error ⟨"addClientConfig"⟩, g) :=
                (Prog.exec_perform _).trans (answer_addClientConfig_duplicate hc hu)
              rw [Prog.exec_bind_error hadd]
              rfl
          | some u =>
              have hadd : (addClientConfig c).exec RegisterOp.answer g =
                  (.ok true, { g with clientConfig := u }) :=
                (Prog.exec_perform _).trans (answer_addClientConfig_new hc hu)
              rw [Prog.exec_bind_ok hadd]
              rfl

/-- A registration that runs alone is one transaction. -/
theorem exec_registerRetryService (qc : QueueConfig) (c : ClientConfig) (g : Registry) :
    (registerRetryService qc c).exec RegisterOp.answer g =
      (.ok (MRFServiceImpl.registerRetryService qc c [] g).1,
        (MRFServiceImpl.registerRetryService qc c [] g).2) := by
  unfold registerRetryService MRFServiceImpl.registerRetryService
  cases hc : MRFServiceImpl.accepts c with
  | false => rfl
  | true =>
      rw [Bool.not_true, if_neg Bool.false_ne_true, if_neg Bool.false_ne_true, Prog.exec_tryCatch,
        Prog.exec_bind, exec_updateOrInsert hc]
      rcases transactional (MRFRegisterService.registerRetryService qc c) [] g with ⟨_ | _, _⟩
      · rfl
      · rfl

/-! ### One among others -/

/-- What registrations do to the table: a row stays, and a new one has the parameters of one of the
calls. -/
structure Grows {ι : Type} (calls : ι → ClientConfig) (g g' : Registry) : Prop where
  kept : ∀ k r, g.clientConfig.get k = some r → g'.clientConfig.get k = some r
  new : ∀ k r, g.clientConfig.get k = none → g'.clientConfig.get k = some r → ∃ i, calls i = r

/-- The call inserts a row whose pair is there. -/
def LateInsert (g : Registry) : RegisterOp → Prop
  | .addClientConfig c => g.clientConfig.get (Keyed.key c) ≠ none
  | _ => False

/-- A registration of `c` that returns `r`: it has inserted no row late, and the pair has a row. -/
structure Returns (qc : QueueConfig) (c : ClientConfig) (own : List (Registry × RegisterOp))
    (g : Registry) (r : QueueConfig) : Prop where
  result : r = qc
  onTime : ∀ x ∈ own, ¬ LateInsert x.1 x.2
  row : g.clientConfig.get (Keyed.key c) ≠ none

/-- What `updateOrInsert` comes to. -/
def Writes (qc : QueueConfig) (c : ClientConfig) (own : List (Registry × RegisterOp))
    (g : Registry) : Except DAOException QueueConfig → Prop
  | .ok r => Returns qc c own g r
  | .error _ => ∃ x ∈ own, LateInsert x.1 x.2

/-- What `registerRetryService` comes to. -/
def Answers (qc : QueueConfig) (c : ClientConfig) (own : List (Registry × RegisterOp))
    (g : Registry) : Except DAOException (Except MRFServiceRegisterException QueueConfig) → Prop
  | .ok (.ok r) => Returns qc c own g r
  | .ok (.error _) => ∃ x ∈ own, LateInsert x.1 x.2
  | .error _ => False

variable {ι : Type} {calls : ι → ClientConfig} {g₁ g₂ g₃ : Registry}
  {own : List (Registry × RegisterOp)}

namespace Grows

theorem refl (g : Registry) : Grows calls g g := by
  refine ⟨fun _ _ h => h, fun k r hnone hsome => ?_⟩
  rw [hnone] at hsome
  cases hsome

theorem trans (h₁ : Grows calls g₁ g₂) (h₂ : Grows calls g₂ g₃) : Grows calls g₁ g₃ := by
  refine ⟨fun k r h => h₂.kept k r (h₁.kept k r h), fun k r hnone hsome => ?_⟩
  cases h : g₂.clientConfig.get k with
  | none => exact h₂.new k r h hsome
  | some r' =>
      rw [h₂.kept k r' h] at hsome
      cases hsome
      exact h₁.new k r hnone h

/-- A pair that is there stays. -/
theorem ne_none (h : Grows calls g g') {k : String × String}
    (hk : g.clientConfig.get k ≠ none) : g'.clientConfig.get k ≠ none := by
  obtain ⟨r, hr⟩ := Option.ne_none_iff_exists'.mp hk
  rw [h.kept k r hr]
  exact Option.some_ne_none r

theorem withTemplate (g : Registry) (c : ClientConfig) : Grows calls g (g.withTemplate c) := by
  have h : Grows calls g g := refl g
  exact ⟨h.kept, h.new⟩

/-- An insert adds a row with the parameters of its call. -/
theorem insert {i : ι} {u : Table ClientConfig} (hu : g.clientConfig.insert (calls i) = some u) :
    Grows calls g { g with clientConfig := u } := by
  refine ⟨fun k r h => ?_, fun k r hnone hsome => ?_⟩
  · have hk : g.clientConfig.get k ≠ none := by
      rw [h]
      exact Option.some_ne_none r
    exact (Table.get_insert_of_ne_none hu hk).trans h
  · rcases Table.get_insert_inv hu hsome with h | ⟨-, rfl⟩
    · rw [hnone] at h
      cases h
    · exact ⟨i, rfl⟩

end Grows

/-- The rows that are answered are those of the table as it has grown. -/
theorem secure_getAllClientConfigs
    {Q : List (Registry × RegisterOp) → Registry → Except DAOException (List ClientConfig) → Prop} :
    Secure RegisterOp.answer (Grows calls) Q own g getAllClientConfigs ↔ ∀ g', Grows calls g g' →
      Q (own ++ [(g', .getAllClientConfigs)]) g' (.ok g'.clientConfig.rows) := by
  refine (secure_perform RegisterOp.getAllClientConfigs).trans (forall₂_congr fun g' _ => ?_)
  exact and_iff_right (Grows.refl g')

theorem secure_updateClientConfig (hc : MRFServiceImpl.accepts c = true)
    {Q : List (Registry × RegisterOp) → Registry → Except DAOException Bool → Prop} :
    Secure RegisterOp.answer (Grows calls) Q own g (updateClientConfig c) ↔ ∀ g', Grows calls g g' →
      Q (own ++ [(g', .updateClientConfig c)]) g' (.ok false) := by
  refine (secure_perform (RegisterOp.updateClientConfig c)).trans (forall₂_congr fun g' _ => ?_)
  rw [answer_updateClientConfig hc]
  exact and_iff_right (Grows.refl g')

theorem secure_addTemplate
    {Q : List (Registry × RegisterOp) → Registry → Except DAOException Unit → Prop} :
    Secure RegisterOp.answer (Grows calls) Q own g (addTemplate c) ↔ ∀ g', Grows calls g g' →
      Q (own ++ [(g', .addTemplate c)]) (g'.withTemplate c) (.ok ()) := by
  refine (secure_perform (RegisterOp.addTemplate c)).trans (forall₂_congr fun g' _ => ?_)
  exact and_iff_right (Grows.withTemplate g' c)

/-- An insert is on time, or raises. -/
theorem secure_addClientConfig {i : ι} (hc : MRFServiceImpl.accepts (calls i) = true)
    {Q : List (Registry × RegisterOp) → Registry → Except DAOException Bool → Prop}
    (hnew : ∀ g' u, Grows calls g g' → g'.clientConfig.insert (calls i) = some u →
      Q (own ++ [(g', .addClientConfig (calls i))]) { g' with clientConfig := u } (.ok true))
    (hlate : ∀ g', Grows calls g g' → g'.clientConfig.get (Keyed.key (calls i)) ≠ none →
      Q (own ++ [(g', .addClientConfig (calls i))]) g' (.error ⟨"addClientConfig"⟩)) :
    Secure RegisterOp.answer (Grows calls) Q own g (addClientConfig (calls i)) := by
  refine (secure_perform (RegisterOp.addClientConfig (calls i))).mpr fun g' h => ?_
  cases hu : g'.clientConfig.insert (calls i) with
  | none =>
      rw [answer_addClientConfig_duplicate hc hu]
      exact ⟨Grows.refl g', hlate g' h (Table.insert_eq_none_iff.mp hu)⟩
  | some u =>
      rw [answer_addClientConfig_new hc hu]
      exact ⟨Grows.insert hu, hnew g' u h hu⟩

theorem onTime_append {op : RegisterOp} (hown : ∀ x ∈ own, ¬ LateInsert x.1 x.2)
    (h : ¬ LateInsert g op) : ∀ x ∈ own ++ [(g, op)], ¬ LateInsert x.1 x.2 := by
  intro x hx
  rcases List.mem_append.mp hx with hx | hx
  · exact hown x hx
  · rw [List.mem_singleton.mp hx]
    exact h

variable {qc : QueueConfig}

/-- After the write. -/
theorem secure_afterWrite (hown : ∀ x ∈ own, ¬ LateInsert x.1 x.2)
    (hrow : g.clientConfig.get (Keyed.key c) ≠ none) :
    Secure RegisterOp.answer (Grows calls) (Writes qc c) own g
      (do addTemplate c; return qc) := by
  rw [secure_bind, secure_addTemplate]
  exact fun g' h => ⟨rfl, onTime_append hown id, h.ne_none hrow⟩

/-- The body returns with the row there, or it has inserted late. -/
theorem secure_updateOrInsert {i : ι} (hc : MRFServiceImpl.accepts (calls i) = true) :
    Secure RegisterOp.answer (Grows calls) (Writes qc (calls i)) [] g
      (updateOrInsert qc (calls i)) := by
  rw [updateOrInsert, shouldUpdateOrInsertClientConfig_eq hc, hasServiceRegistered_eq hc]
  simp only [secure_bind, secure_pure, secure_getAllClientConfigs]
  intro g₁ h₁
  have hown₁ : ∀ x ∈ [(g₁, RegisterOp.getAllClientConfigs)], ¬ LateInsert x.1 x.2 :=
    fun x hx => by
      rw [List.mem_singleton.mp hx]
      exact id
  by_cases hr : Registered g₁ (calls i)
  · -- nothing to do
    rw [any_eq_iff.mpr hr, Bool.not_true, if_neg Bool.false_ne_true]
    refine ⟨rfl, hown₁, ?_⟩
    rw [hr]
    exact Option.some_ne_none _
  · rw [Bool.eq_false_of_not_eq_true fun h => hr (any_eq_iff.mp h), Bool.not_false, if_pos rfl]
    simp only [secure_bind, secure_pure, secure_getAllClientConfigs]
    intro g₂ h₂
    have hown₂ : ∀ x ∈ [(g₁, RegisterOp.getAllClientConfigs)] ++ [(g₂, .getAllClientConfigs)],
        ¬ LateInsert x.1 x.2 := onTime_append hown₁ id
    by_cases hn : g₂.clientConfig.get (Keyed.key (calls i)) = none
    · -- no row at the second scan: there may be one when the row is inserted
      rw [any_key_iff.mpr hn, if_neg Bool.false_ne_true, secure_bind]
      refine secure_addClientConfig hc (fun g₃ u h₃ hu => ?_) fun g₃ h₃ hlate => ?_
      · refine secure_afterWrite (onTime_append hown₂ fun hlate => ?_) ?_
        · exact hlate (Table.get_eq_none_of_insert hu)
        · change u.get (Keyed.key (calls i)) ≠ none
          rw [Table.get_insert hu, if_pos rfl]
          exact Option.some_ne_none _
      · exact ⟨_, List.mem_append_right _ (List.mem_singleton_self _), hlate⟩
    · -- the update is refused, and the row that was found stays
      have hany : (g₂.clientConfig.rows.any fun curConfig =>
          curConfig.clientServiceName = (calls i).clientServiceName &&
            curConfig.retryQueueName = (calls i).retryQueueName) = true := by
        by_contra h
        exact hn (any_key_iff.mp (Bool.eq_false_of_not_eq_true h))
      rw [hany, if_pos rfl, secure_bind, secure_updateClientConfig hc]
      exact fun g₃ h₃ => secure_afterWrite (onTime_append hown₂ id) (h₃.ne_none hn)

/-- A whole call returns with the row there, or it has inserted late. -/
theorem secure_registerRetryService {i : ι} (hc : MRFServiceImpl.accepts (calls i) = true) :
    Secure RegisterOp.answer (Grows calls) (Answers qc (calls i)) [] g
      (registerRetryService qc (calls i)) := by
  rw [registerRetryService, hc, Bool.not_true, if_neg Bool.false_ne_true, secure_tryCatch,
    secure_bind]
  refine (secure_updateOrInsert hc).imp fun own g v h => ?_
  cases v with
  | ok r => exact h
  | error e => exact h

/-- What the others do does not change what a registration came to. -/
theorem Answers.grows {v : Except DAOException (Except MRFServiceRegisterException QueueConfig)}
    (hg : Grows calls g g') (h : Answers qc c own g v) : Answers qc c own g' v :=
  match v, h with
  | .ok (.ok _), h => ⟨h.result, h.onTime, hg.ne_none h.row⟩
  | .ok (.error _), h => h

/-- A registration takes four calls at most. -/
theorem within_registerRetryService (c : ClientConfig) : (registerRetryService qc c).Within 4 := by
  have hshould : (shouldUpdateOrInsertClientConfig c).Within 1 := by
    unfold shouldUpdateOrInsertClientConfig
    split
    · exact Prog.within_pure 1 false
    · exact Prog.within_bind (Prog.within_perform 0 _) fun _ => Prog.within_pure 0 _
  have hhas : (hasServiceRegistered c.clientServiceName c.retryQueueName).Within 1 := by
    unfold hasServiceRegistered
    split
    · exact Prog.within_pure 1 false
    · exact Prog.within_bind (Prog.within_perform 0 _) fun _ => Prog.within_pure 0 _
  have htemplate : (do addTemplate c; return qc : Registering QueueConfig).Within 1 :=
    Prog.within_bind (Prog.within_perform 0 _) fun _ => Prog.within_pure 0 _
  have hwrite : (updateOrInsert qc c).Within 4 := by
    refine Prog.within_bind (m := 1) (n := 3) hshould fun should => ?_
    split
    · refine Prog.within_bind (m := 1) (n := 2) hhas fun has => ?_
      split
      · exact Prog.within_bind (m := 1) (Prog.within_perform 0 _) fun _ => htemplate
      · exact Prog.within_bind (m := 1) (Prog.within_perform 0 _) fun _ => htemplate
    · exact Prog.within_pure 3 qc
  unfold registerRetryService
  split
  · exact Prog.within_pure 4 _
  · exact Prog.within_tryCatch (m := 4) (n := 0)
      (Prog.within_bind (m := 4) (n := 0) hwrite fun _ => Prog.within_pure 0 _)
      fun _ => Prog.within_pure 0 _

/-! ### All of them -/

/-- Registrations on their way. -/
abbrev Registrations (ι : Type) : Type :=
  Concurrent RegisterOp RegisterOp.Res DAOException (Except MRFServiceRegisterException QueueConfig)
    Registry ι

/-- All the registrations are called; nothing has been done yet. -/
def startAll (qc : QueueConfig) (calls : ι → ClientConfig) (g : Registry) : Registrations ι :=
  ⟨g, fun i => registerRetryService qc (calls i)⟩

/-- The next call of `i` inserts a row whose pair is there. -/
def InsertsLate (s : Registrations ι) (i : ι) : Prop :=
  ∃ op k, s.threads i = .call op k ∧ LateInsert s.shared op

/-- Every registration returns the exception queue, and every pair has one row, with the parameters
of a registration. -/
structure AllRegistered (qc : QueueConfig) (calls : ι → ClientConfig) (s : Registrations ι) :
    Prop where
  returns : ∀ i, (s.threads i).outcome = some (.ok (.ok qc))
  row : ∀ i, ∃ j, (s.shared.clientConfig.select fun r => Keyed.key r = Keyed.key (calls i)) =
    [calls j]

/-- The row of a pair, once it is there. -/
theorem row_of_grows (hg : Grows calls g g')
    (hstart : ∀ i r, g.clientConfig.get (Keyed.key (calls i)) = some r → ∃ j, calls j = r) {i : ι}
    (hrow : g'.clientConfig.get (Keyed.key (calls i)) ≠ none) :
    ∃ j, (g'.clientConfig.select fun r => Keyed.key r = Keyed.key (calls i)) = [calls j] := by
  obtain ⟨r, hr⟩ := Option.ne_none_iff_exists'.mp hrow
  have hcall : ∃ j, calls j = r := by
    cases h : g.clientConfig.get (Keyed.key (calls i)) with
    | none => exact hg.new _ r h hr
    | some r' =>
        rw [hg.kept _ r' h] at hr
        cases hr
        exact hstart i _ h
  obtain ⟨j, rfl⟩ := hcall
  exact ⟨j, by rw [Table.select_key, hr, Option.toList_some]⟩

variable [DecidableEq ι] {s : Registrations ι} {tr : List (Registrations ι × ι)}

/-- In every run the table grows, and each call is on its way to its answer. -/
theorem registerAll_run (hc : ∀ i, MRFServiceImpl.accepts (calls i) = true)
    (h : Run (stepOf (Concurrent.step RegisterOp.answer)) (startAll qc calls g) tr s) :
    Grows calls g s.shared ∧ ∀ i, Secure RegisterOp.answer (Grows calls) (Answers qc (calls i))
      (Concurrent.ownCalls i tr) s.shared (s.threads i) :=
  Concurrent.secure_run (fun _ _ _ h₁ h₂ => h₁.trans h₂) Grows.refl
    (fun _ _ _ _ _ hg hv => hv.grows hg) (fun i => secure_registerRetryService (hc i)) h

/-- The late inserts of a call are its steps that insert late. -/
theorem mem_ownCalls_late {i : ι} : (∃ x ∈ Concurrent.ownCalls i tr, LateInsert x.1 x.2) ↔
    ∃ s, (s, i) ∈ tr ∧ InsertsLate s i := by
  constructor
  · rintro ⟨x, hx, hlate⟩
    obtain ⟨s, k, hs, hshared, hcall⟩ := Concurrent.mem_ownCalls.mp hx
    exact ⟨s, hs, x.2, k, hcall, hshared ▸ hlate⟩
  · rintro ⟨s, hs, op, k, hcall, hlate⟩
    exact ⟨(s.shared, op), Concurrent.mem_ownCalls.mpr ⟨s, k, hs, rfl, hcall⟩, hlate⟩

/-- **Registrations that run at the same time.**  Each makes at most four calls and can always make
its next; and when all are done, they have all returned and left one row each, with the parameters
of one of them, exactly if none came to its insert after its pair had a row, and no pair had a row
with other parameters from the start. -/
theorem registerAll_iff (hc : ∀ i, MRFServiceImpl.accepts (calls i) = true)
    (h : Run (stepOf (Concurrent.step RegisterOp.answer)) (startAll qc calls g) tr s) :
    (∀ i, (Concurrent.ownCalls i tr).length ≤ 4 ∧
      ((s.threads i).outcome = none → ∃ s', s.step RegisterOp.answer i = some s')) ∧
    ((∀ i, (s.threads i).outcome ≠ none) → (AllRegistered qc calls s ↔
      (∀ p ∈ tr, ¬ InsertsLate p.1 p.2) ∧
        ∀ i r, g.clientConfig.get (Keyed.key (calls i)) = some r → ∃ j, calls j = r)) := by
  obtain ⟨hg, hsecure⟩ := registerAll_run hc h
  refine ⟨fun i => ⟨Concurrent.within_run (within_registerRetryService _) h, Concurrent.can_step⟩,
    fun hdone => ⟨fun hall => ⟨?_, fun i r hr => ?_⟩, ?_⟩⟩
  · -- one that inserts late throws
    rintro ⟨s₁, i⟩ hp hlate
    have hreturns : Returns qc (calls i) (Concurrent.ownCalls i tr) s.shared qc :=
      (hsecure i).outcome (hall.returns i)
    obtain ⟨x, hx, hinsert⟩ := mem_ownCalls_late.mpr ⟨s₁, hp, hlate⟩
    exact hreturns.onTime x hx hinsert
  · -- a row of the start is still there
    obtain ⟨j, hj⟩ := hall.row i
    rw [Table.select_key, hg.kept _ r hr, Option.toList_some] at hj
    exact ⟨j, (List.singleton_inj.mp hj).symm⟩
  · rintro ⟨honTime, hstart⟩
    have hreturns : ∀ i, (s.threads i).outcome = some (.ok (.ok qc)) ∧
        s.shared.clientConfig.get (Keyed.key (calls i)) ≠ none := by
      intro i
      obtain ⟨v, hv⟩ := Option.ne_none_iff_exists'.mp (hdone i)
      have hanswers := (hsecure i).outcome hv
      rw [hv]
      match v, hanswers with
      | .ok (.ok r), hanswers =>
          obtain ⟨rfl, -, hrow⟩ := hanswers
          exact ⟨rfl, hrow⟩
      | .ok (.error e), hanswers =>
          obtain ⟨s₁, hs₁, hlate⟩ := mem_ownCalls_late.mp hanswers
          exact absurd hlate (honTime _ hs₁)
    exact ⟨fun i => (hreturns i).1, fun i => row_of_grows hg hstart (hreturns i).2⟩

/-- Two instances of a client start together. -/
def twoInstances : Fin 2 → ClientConfig := fun _ => feedConfig "mq1"

theorem accepts_twoInstances (i : Fin 2) : MRFServiceImpl.accepts (twoInstances i) = true := by
  unfold twoInstances
  decide

/-- One after the other. -/
theorem registerAll_iff_sample : ∃ tr s, Run (stepOf (Concurrent.step RegisterOp.answer))
      (startAll exceptionQueue twoInstances (MRFServerCenterStarter.init .empty)) tr s ∧
    AllRegistered exceptionQueue twoInstances s ∧ ∀ p ∈ tr, ¬ InsertsLate p.1 p.2 := by
  obtain ⟨s, hs⟩ : ∃ s, exec (Concurrent.step RegisterOp.answer)
      (startAll exceptionQueue twoInstances (MRFServerCenterStarter.init .empty))
      [0, 0, 0, 0, 1] = some s := ⟨_, rfl⟩
  have hall : AllRegistered exceptionQueue twoInstances s := by
    cases hs
    refine ⟨fun i => ?_, fun i => ⟨0, rfl⟩⟩
    match i with
    | 0 => rfl
    | 1 => rfl
  have hdone : ∀ i, (s.threads i).outcome ≠ none := by
    intro i
    rw [hall.returns i]
    exact Option.some_ne_none _
  have hrun := Run.of_exec hs
  exact ⟨_, s, hrun, hall, (((registerAll_iff accepts_twoInstances hrun).2 hdone).mp hall).1⟩

/-- Both scan the table before one of them inserts the row; the insert of the other one fails, and
so does its registration. -/
theorem second_insert : (∀ i, MRFServiceImpl.accepts (twoInstances i) = true) ∧
    ∃ tr s, Run (stepOf (Concurrent.step RegisterOp.answer))
      (startAll exceptionQueue twoInstances (MRFServerCenterStarter.init .empty)) tr s ∧
    (∀ i, (s.threads i).outcome ≠ none) ∧
    (s.threads 1).outcome = some (.ok (.error
      ⟨"some runtime exception occurs when update or insert ClientConfig to database",
        some ⟨"addClientConfig"⟩⟩)) ∧
    ¬ AllRegistered exceptionQueue twoInstances s := by
  obtain ⟨s, hs⟩ : ∃ s, exec (Concurrent.step RegisterOp.answer)
      (startAll exceptionQueue twoInstances (MRFServerCenterStarter.init .empty))
      [0, 0, 1, 1, 0, 0, 1] = some s := ⟨_, rfl⟩
  have hdone : ∀ i, (s.threads i).outcome ≠ none := by
    cases hs
    intro i
    match i with
    | 0 => exact Option.some_ne_none _
    | 1 => exact Option.some_ne_none _
  have hthrows : (s.threads 1).outcome = some (.ok (.error
      ⟨"some runtime exception occurs when update or insert ClientConfig to database",
        some ⟨"addClientConfig"⟩⟩)) := by
    cases hs
    rfl
  refine ⟨accepts_twoInstances, _, s, Run.of_exec hs, hdone, hthrows, fun hall => ?_⟩
  have hreturns := hall.returns 1
  rw [hthrows] at hreturns
  cases hreturns

end MRF.Center
