import Mathlib.Data.List.Induction
import MRF.Center.Register
import MRF.Library.Run

/-!
# Center — Registrations

Sequences of registrations, on a center that has just started.

The table decides whether a registration changes the map, and the two go their own ways: a row
keeps the parameters of the first registration for its key (`stored`), while the map has those of
the last registration that was not skipped (`changes`).  `History` is the relation between the
registry and the calls so far.
-/

namespace MRF.Center
open MRF.Library Dao MRFServerResources MRFServerCenterStarter

variable {qc : QueueConfig} {t : Table ClientConfig} {g g' : Registry} {c : ClientConfig}
  {q : String} {calls before after : List ClientConfig}

/-- A call of `registerRetryService`: its parameters, and what the database raises. -/
structure Registration where
  clientConfig : ClientConfig
  faults : List Bool

/-- A call that returns normally. -/
def Registers (qc : QueueConfig) (g : Registry) (a : Registration) (g' : Registry) : Prop :=
  ∃ r, MRFServiceImpl.registerRetryService qc a.clientConfig a.faults g = (.ok r, g')

/-- The parameters of the calls of a run. -/
def callsOf (tr : List (Registry × Registration)) : List ClientConfig :=
  tr.map fun p => p.2.clientConfig

/-- The last configuration for the queue. -/
def lastFor (q : String) (l : List ClientConfig) : Option ClientConfig :=
  l.reverse.find? fun c => c.retryQueueName = q

/-- The row for the key, after the calls: the one at the start, or the first that was inserted. -/
def stored (t : Table ClientConfig) (calls : List ClientConfig) (k : String × String) :
    Option ClientConfig :=
  (t.rows ++ calls).find? fun c => Keyed.key c = k

/-- The calls that do not find their own parameters stored, in a sequence that goes on from
`before`. -/
def changesFrom (t : Table ClientConfig) (before : List ClientConfig) :
    List ClientConfig → List ClientConfig
  | [] => []
  | c :: calls =>
      if stored t before (Keyed.key c) = some c then changesFrom t (before ++ [c]) calls
      else c :: changesFrom t (before ++ [c]) calls

/-- The calls that change the map, of those made after the start. -/
def changes (t : Table ClientConfig) (calls : List ClientConfig) : List ClientConfig :=
  changesFrom t [] calls

/-- The call that comes after `before` finds other parameters stored than its own, or the queue
is connected as it says anyway: by the last row or the last call that changed something. -/
def TakesEffect (t : Table ClientConfig) (before : List ClientConfig) (c : ClientConfig) : Prop :=
  stored t before (Keyed.key c) = some c →
    (lastFor c.retryQueueName (t.rows ++ changes t before)).map
      (fun c' => c'.toConnectionConfig) = some c.toConnectionConfig

/-! ### Lists of configurations -/

theorem lastFor_concat (q : String) (l : List ClientConfig) (c : ClientConfig) :
    lastFor q (l ++ [c]) = if c.retryQueueName = q then some c else lastFor q l := by
  simp only [lastFor, List.reverse_append, List.reverse_singleton, List.singleton_append,
    List.find?_cons]
  split <;> simp_all

/-- What comes for other queues does not matter. -/
theorem lastFor_append (l : List ClientConfig) (h : ∀ c ∈ after, c.retryQueueName ≠ q) :
    lastFor q (l ++ after) = lastFor q l := by
  have hnone : after.reverse.find? (fun c => c.retryQueueName = q) = none := by
    simpa using h
  simp only [lastFor, List.reverse_append, List.find?_append, hnone, Option.none_or]

theorem stored_concat (t : Table ClientConfig) (calls : List ClientConfig) (c : ClientConfig)
    (k : String × String) :
    stored t (calls ++ [c]) k =
      (stored t calls k).or (if Keyed.key c = k then some c else none) := by
  simp only [stored, ← List.append_assoc, List.find?_append, List.find?_singleton,
    decide_eq_true_eq]

theorem changesFrom_append (before calls after : List ClientConfig) :
    changesFrom t before (calls ++ after) =
      changesFrom t before calls ++ changesFrom t (before ++ calls) after := by
  induction calls generalizing before with
  | nil => rw [List.append_nil]; rfl
  | cons c calls ih =>
      simp only [List.cons_append, changesFrom, ih, List.append_assoc, List.nil_append]
      split <;> rfl

theorem changes_concat (calls : List ClientConfig) (c : ClientConfig) :
    changes t (calls ++ [c]) =
      if stored t calls (Keyed.key c) = some c then changes t calls
      else changes t calls ++ [c] := by
  simp only [changes, changesFrom_append, List.nil_append, changesFrom]
  split
  · exact List.append_nil _
  · rfl

theorem mem_of_mem_changesFrom (h : c ∈ changesFrom t before calls) : c ∈ calls := by
  induction calls generalizing before with
  | nil => exact h
  | cons c' calls ih =>
      simp only [changesFrom] at h
      split at h
      · exact List.mem_cons_of_mem _ (ih h)
      · rcases List.mem_cons.mp h with rfl | h
        · exact List.mem_cons_self
        · exact List.mem_cons_of_mem _ (ih h)

/-! ### The registry and its history -/

/-- The registry of a center that started with `t`, after the calls. -/
structure History (t : Table ClientConfig) (calls : List ClientConfig) (g : Registry) : Prop where
  table : ∀ k, g.clientConfig.get k = stored t calls k
  map : ∀ q, q ≠ "" → g.retryRabbitTemplateMap q =
    (lastFor q (t.rows ++ changes t calls)).map fun c => c.toConnectionConfig

/-- The loop of `init` leaves the last row of each queue. -/
theorem history_init (t : Table ClientConfig) : History t [] (init t) where
  table k := by simp only [init, stored, List.append_nil]; rfl
  map q hq := by
    have loop : ∀ l : List ClientConfig, l.foldl setRetryRabbitTemplate (fun _ => none) q =
        (lastFor q l).map fun c => c.toConnectionConfig := by
      intro l
      induction l using List.reverseRecOn with
      | nil => rfl
      | append_singleton l c ih =>
          rw [List.foldl_append, lastFor_concat]
          simp only [List.foldl_cons, List.foldl_nil, setRetryRabbitTemplate,
            addRetryRabbitTemplate]
          by_cases hc : c.retryQueueName = q
          · simp only [hc, hq, if_true, if_false]
            rfl
          · have hne : q ≠ c.retryQueueName := fun he => hc he.symm
            split
            · simpa only [hc, if_false] using ih
            · simpa only [hc, hne, if_false] using ih
    simpa only [init, changes, changesFrom, List.append_nil] using loop t.rows

theorem accepts_of_ok {r : QueueConfig} {faults : List Bool}
    (h : MRFServiceImpl.registerRetryService qc c faults g = (.ok r, g')) :
    MRFServiceImpl.accepts c = true := by
  unfold MRFServiceImpl.registerRetryService at h
  by_contra hc
  rw [if_pos (by simpa using hc)] at h
  cases h

/-- **Every registration extends the history.** -/
theorem History.step (hg : History t calls g) {a : Registration} (h : Registers qc g a g') :
    History t (calls ++ [a.clientConfig]) g' := by
  obtain ⟨r, h⟩ := h
  have hacc := accepts_of_ok h
  have hq := (names_of_accepts hacc).1
  -- a row of the key stays, whatever the call brings
  have keeps : stored t calls (Keyed.key a.clientConfig) ≠ none → ∀ k,
      stored t (calls ++ [a.clientConfig]) k = stored t calls k := by
    intro hne k
    rw [stored_concat]
    split
    · next he =>
        obtain ⟨old, hold⟩ := Option.ne_none_iff_exists'.mp (he ▸ hne)
        rw [hold]
        rfl
    · exact Option.or_none
  -- a call that is not skipped is the last change
  have mapped : ∀ u : Table ClientConfig, stored t calls (Keyed.key a.clientConfig) ≠
      some a.clientConfig → ∀ q, q ≠ "" →
      ({ g with clientConfig := u }.withTemplate a.clientConfig).retryRabbitTemplateMap q =
        (lastFor q (t.rows ++ changes t (calls ++ [a.clientConfig]))).map
          fun c => c.toConnectionConfig := by
    intro u hne q hq'
    rw [changes_concat, if_neg hne, ← List.append_assoc, lastFor_concat]
    simp only [Registry.withTemplate, addRetryRabbitTemplate, hq, if_false]
    split
    · next he => rw [if_pos he.symm]; rfl
    · next he => rw [if_neg fun e => he e.symm, hg.map q hq']
  rcases registerRetryService_cases hacc h with ⟨hreg, rfl⟩ | ⟨hnot, hn, rfl⟩ | ⟨u, hu, rfl⟩
  · have hst : stored t calls (Keyed.key a.clientConfig) = some a.clientConfig :=
      (hg.table _).symm.trans hreg
    refine ⟨fun k => ?_, fun q hq' => ?_⟩
    · rw [keeps (by rw [hst]; exact Option.some_ne_none _), hg.table]
    · rw [changes_concat, if_pos hst, hg.map q hq']
  · have hst : stored t calls (Keyed.key a.clientConfig) ≠ some a.clientConfig := fun he =>
      hnot ((hg.table _).trans he)
    refine ⟨fun k => ?_, mapped g.clientConfig hst⟩
    rw [keeps (hg.table _ ▸ hn)]
    exact hg.table k
  · have hnone : stored t calls (Keyed.key a.clientConfig) = none :=
      (hg.table _).symm.trans (Table.get_eq_none_of_insert hu)
    refine ⟨fun k => ?_, mapped u (by rw [hnone]; exact (Option.some_ne_none _).symm)⟩
    rw [stored_concat]
    change u.get k = _
    rw [Table.get_insert hu]
    split
    · next he => subst he; rw [hnone, if_pos rfl]; rfl
    · next he => rw [if_neg fun e => he e.symm, Option.or_none, hg.table]

theorem History.run {tr : List (Registry × Registration)} (h : Run (Registers qc) g tr g')
    (hg : History t calls g) : History t (calls ++ callsOf tr) g' := by
  induction h generalizing calls with
  | nil => simpa only [callsOf, List.map_nil, List.append_nil] using hg
  | cons hstep _ ih =>
      have hrest := ih (hg.step hstep)
      rwa [List.append_assoc] at hrest

theorem accepts_of_run {tr : List (Registry × Registration)} (h : Run (Registers qc) g tr g')
    (hc : c ∈ callsOf tr) : MRFServiceImpl.accepts c = true := by
  induction h with
  | nil => cases hc
  | cons hstep _ ih =>
      rcases List.mem_cons.mp hc with rfl | hc
      · obtain ⟨r, hr⟩ := hstep
        exact accepts_of_ok hr
      · exact ih hc

/-- **The most recent registration for a queue decides its connection if and only if it takes
effect**, after every sequence of registrations that return normally. -/
theorem getRetryRabbitTemplate_last_iff {tr : List (Registry × Registration)}
    (h : Run (Registers qc) (init t) tr g) (hcalls : callsOf tr = before ++ c :: after)
    (hlast : ∀ c' ∈ after, c'.retryQueueName ≠ c.retryQueueName) :
    getRetryRabbitTemplate g.retryRabbitTemplateMap c.retryQueueName =
      some c.toConnectionConfig ↔ TakesEffect t before c := by
  have hacc : MRFServiceImpl.accepts c = true := accepts_of_run h (by simp [hcalls])
  have hq := (names_of_accepts hacc).1
  have hg := (history_init t).run h
  rw [List.nil_append, hcalls, List.append_cons] at hg
  have hmap := hg.map _ hq
  rw [changes, changesFrom_append, ← List.append_assoc, lastFor_append _ fun c' hc' =>
    hlast c' (mem_of_mem_changesFrom hc')] at hmap
  change _ = (lastFor _ (t.rows ++ changes t (before ++ [c]))).map _ at hmap
  rw [getRetryRabbitTemplate, if_neg hq, hmap, changes_concat, TakesEffect]
  split
  · next hst => exact ⟨fun he _ => he, fun he => he hst⟩
  · next hst =>
      rw [← List.append_assoc, lastFor_concat, if_pos rfl]
      exact ⟨fun _ he => absurd he hst, fun _ => rfl⟩

/-- The registry after the service of `feedConfig` registered with `host`. -/
def Registry.afterFeed (g : Registry) (host : String) : Registry :=
  (MRFServiceImpl.registerRetryService exceptionQueue (feedConfig host) [] g).2

/-- Registrations with each of the hosts, on a center without client configurations. -/
def feedRegistry (hosts : List String) : Registry := hosts.foldl Registry.afterFeed (init .empty)

theorem getRetryRabbitTemplate_last_feed :
    getRetryRabbitTemplate (feedRegistry ["mq1", "mq2"]).retryRabbitTemplateMap "feed_retry" =
      some (feedConfig "mq2").toConnectionConfig ↔
        TakesEffect .empty [feedConfig "mq1"] (feedConfig "mq2") :=
  have h : Run (Registers exceptionQueue) (init .empty)
      [(init .empty, ⟨feedConfig "mq1", []⟩), (feedRegistry ["mq1"], ⟨feedConfig "mq2", []⟩)]
      (feedRegistry ["mq1", "mq2"]) :=
    .cons ⟨exceptionQueue, rfl⟩ (.cons ⟨exceptionQueue, rfl⟩ (.nil _))
  getRetryRabbitTemplate_last_iff (c := feedConfig "mq2") h rfl nofun

/-- A service that registers its first broker again is still connected to the second. -/
theorem getRetryRabbitTemplate_not_last :
    Run (Registers exceptionQueue) (init .empty)
        [(init .empty, ⟨feedConfig "mq1", []⟩), (feedRegistry ["mq1"], ⟨feedConfig "mq2", []⟩),
          (feedRegistry ["mq1", "mq2"], ⟨feedConfig "mq1", []⟩)]
        (feedRegistry ["mq1", "mq2", "mq1"]) ∧
      getRetryRabbitTemplate (feedRegistry ["mq1", "mq2", "mq1"]).retryRabbitTemplateMap
        "feed_retry" ≠ some (feedConfig "mq1").toConnectionConfig :=
  ⟨.cons ⟨exceptionQueue, rfl⟩ (.cons ⟨exceptionQueue, rfl⟩ (.cons ⟨exceptionQueue, rfl⟩ (.nil _))),
    by decide⟩

end MRF.Center
