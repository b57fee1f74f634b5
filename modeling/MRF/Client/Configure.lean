import MRF.Client.Config

/-!
# Client — Configure

The constructors and the setters of `RetryQueueConfig`, and what they check.

The names of the retry exceptions are checked when they are set and resolved again each time that a
throwable is filtered.  The wildcard passes the check by a branch of its own, and no branch of the
filter knows it: `shouldCareThrowable_iff` says which accepted lists filter as they read.
-/

namespace MRF.Client
open RetryQueueConfigHelper

def configException : Throwable := ⟨"com.nali.mrfcore.exception.ConfigException"⟩

/-- `Throwable.class`. -/
def throwableClass : String := "java.lang.Throwable"

/-- The wildcard of `checkExceptionClassType`. -/
def wildcard : String := "*"

/-- An array of exception names; it may be null, and so may its entries. -/
abbrev ExceptionNames := Option (List (Option String))

namespace RetryQueueConfig

variable {cp : ClassPath} {c : RetryQueueConfig} {names : ExceptionNames} {t : Throwable}

/-- The loop of `checkExceptionClassType`; it answers the names that it has read. -/
def checkClasses (cp : ClassPath) : List (Option String) → Except Throwable (List String)
  | [] => .ok []
  | none :: _ => .error nullPointerException
  | some name :: names =>
      if !cp.loads name then .error configException
      else if !cp.isAssignableFrom throwableClass name then .error configException
      else (checkClasses cp names).map (name :: ·)

/-- `checkExceptionClassType`, with the array that is stored after it.  For the wildcard the source
assigns an empty array to its parameter; the array that the caller stores is another variable. -/
def checkExceptionClassType (cp : ClassPath) (names : ExceptionNames) :
    Except Throwable (List String) :=
  match names with
  | none => .ok []
  | some names => if names = [some wildcard] then .ok [wildcard] else checkClasses cp names

/-- `retryInterval < 0 ? DEFAULT_RETRY_INTERVAL : retryInterval`. -/
def orDefaultInterval (retryInterval : Int64) : Int64 :=
  if retryInterval < 0 then -1 else retryInterval

/-- `retryTimes < 0 ? DEFAULT_RETRY_TIMES : retryTimes`. -/
def orDefaultTimes (retryTimes : Int32) : Int32 := if retryTimes < 0 then -1 else retryTimes

theorem neg_one_le_orDefaultInterval (i : Int64) : -1 ≤ orDefaultInterval i := by
  unfold orDefaultInterval
  split
  · exact Int64.le_refl _
  · next h => exact Int64.le_trans (by decide) (Int64.not_lt.mp h)

theorem neg_one_le_orDefaultTimes (n : Int32) : -1 ≤ orDefaultTimes n := by
  unfold orDefaultTimes
  split
  · exact Int32.le_refl _
  · next h => exact Int32.le_trans (by decide) (Int32.not_lt.mp h)

/-- The constructor with five parameters; the shorter ones call it. -/
def construct (cp : ClassPath) (businessQueueName : String) (retryInterval retryTimes : Int32)
    (retryExceptions : ExceptionNames) (hasRecoverCallback : Bool) :
    Except Throwable RetryQueueConfig :=
  if h : businessQueueName = "" then .error configException
  else
    match checkExceptionClassType cp retryExceptions with
    | .error e => .error e
    | .ok names => .ok
        { businessQueueName, retryExceptions := names, hasRecoverCallback
          retryInterval := orDefaultInterval retryInterval.toInt64
          retryTimes := orDefaultTimes retryTimes
          name_ne := h
          retryInterval_ge := neg_one_le_orDefaultInterval _
          retryTimes_ge := neg_one_le_orDefaultTimes _ }

theorem neg_one_le_zeroInterval : (-1 : Int64) ≤ 0 := by decide

theorem neg_one_le_zeroTimes : (-1 : Int32) ≤ 0 := by decide

/-- The constructor without parameters, once the queue has a name. -/
def unset (businessQueueName : String) (h : businessQueueName ≠ "") : RetryQueueConfig :=
  { businessQueueName, retryInterval := 0, retryTimes := 0, retryExceptions := []
    hasRecoverCallback := false
    name_ne := h
    retryInterval_ge := neg_one_le_zeroInterval
    retryTimes_ge := neg_one_le_zeroTimes }

/-- An empty name is refused. -/
def setBusinessQueueName (c : RetryQueueConfig) (businessQueueName : String) :
    Except Throwable RetryQueueConfig :=
  if h : businessQueueName = "" then .error configException
  else .ok { c with businessQueueName, name_ne := h }

/-- A negative value becomes the default. -/
def setRetryInterval (c : RetryQueueConfig) (retryInterval : Int64) : RetryQueueConfig :=
  { c with
    retryInterval := orDefaultInterval retryInterval
    retryInterval_ge := neg_one_le_orDefaultInterval _ }

/-- A negative value becomes the default. -/
def setRetryTimes (c : RetryQueueConfig) (retryTimes : Int32) : RetryQueueConfig :=
  { c with
    retryTimes := orDefaultTimes retryTimes
    retryTimes_ge := neg_one_le_orDefaultTimes _ }

/-- The array is checked before it is stored. -/
def setRetryExceptions (cp : ClassPath) (c : RetryQueueConfig) (retryExceptions : ExceptionNames) :
    Except Throwable RetryQueueConfig :=
  match checkExceptionClassType cp retryExceptions with
  | .error e => .error e
  | .ok names => .ok { c with retryExceptions := names }

def setRecoverCallback (c : RetryQueueConfig) (hasRecoverCallback : Bool) : RetryQueueConfig :=
  { c with hasRecoverCallback }

theorem feedQ_ne : "feedQ" ≠ "" := by decide

/-- A configuration without exception names and without a callback. -/
def feedQ (retryInterval : Int64) (retryTimes : Int32) : RetryQueueConfig :=
  ((unset "feedQ" feedQ_ne).setRetryInterval retryInterval).setRetryTimes retryTimes

/-- The configurations that the constructors and setters build, each with the array of exception
names that was accepted last. -/
inductive Built (cp : ClassPath) : ExceptionNames → RetryQueueConfig → Prop where
  | construct {q : String} {i n : Int32} {names : ExceptionNames} {b : Bool} {c : RetryQueueConfig}
      (h : construct cp q i n names b = .ok c) : Built cp names c
  | unset {q : String} (h : q ≠ "") : Built cp none (unset q h)
  | setBusinessQueueName {names : ExceptionNames} {c c' : RetryQueueConfig} {q : String}
      (hc : Built cp names c) (h : c.setBusinessQueueName q = .ok c') : Built cp names c'
  | setRetryInterval {names : ExceptionNames} {c : RetryQueueConfig} (hc : Built cp names c)
      (i : Int64) : Built cp names (c.setRetryInterval i)
  | setRetryTimes {names : ExceptionNames} {c : RetryQueueConfig} (hc : Built cp names c)
      (n : Int32) : Built cp names (c.setRetryTimes n)
  | setRetryExceptions {names₀ names : ExceptionNames} {c c' : RetryQueueConfig}
      (hc : Built cp names₀ c) (h : c.setRetryExceptions cp names = .ok c') : Built cp names c'
  | setRecoverCallback {names : ExceptionNames} {c : RetryQueueConfig} (hc : Built cp names c)
      (b : Bool) : Built cp names (c.setRecoverCallback b)

/-! ### What is stored -/

theorem Built.stored (h : Built cp names c) :
    checkExceptionClassType cp names = .ok c.retryExceptions := by
  induction h with
  | @construct q i n names b c h =>
      unfold RetryQueueConfig.construct at h
      split at h
      · cases h
      · split at h
        · cases h
        · next hnames =>
            cases h
            exact hnames
  | unset h => rfl
  | setBusinessQueueName hc h ih =>
      unfold RetryQueueConfig.setBusinessQueueName at h
      split at h
      · cases h
      · cases h
        exact ih
  | setRetryInterval hc i ih => exact ih
  | setRetryTimes hc n ih => exact ih
  | setRetryExceptions hc h ih =>
      unfold RetryQueueConfig.setRetryExceptions at h
      split at h
      · cases h
      · next hnames =>
          cases h
          exact hnames
  | setRecoverCallback hc b ih => exact ih

/-- A list that passes the loop has no null, and every name of it loads. -/
theorem checkClasses_ok {l : List (Option String)} {l' : List String}
    (h : checkClasses cp l = .ok l') : l = l'.map some ∧ ∀ name ∈ l', cp.loads name = true := by
  induction l generalizing l' with
  | nil =>
      cases h
      exact ⟨rfl, by simp⟩
  | cons name l ih =>
      cases name with
      | none => cases h
      | some name =>
          unfold checkClasses at h
          split at h
          · cases h
          · next hload =>
              split at h
              · cases h
              · cases hl : checkClasses cp l with
                | error e =>
                    rw [hl] at h
                    cases h
                | ok names =>
                    rw [hl] at h
                    cases h
                    obtain ⟨rfl, hnames⟩ := ih hl
                    refine ⟨rfl, List.forall_mem_cons.mpr ⟨?_, hnames⟩⟩
                    simpa using hload

/-! ### What the filter makes of it -/

theorem anyAssignableFrom_map_some {l : List String} :
    anyAssignableFrom cp t (l.map some) = .ok (l.any fun name => cp.isInstance name t) := by
  induction l with
  | nil => rfl
  | cons name l ih =>
      simp only [List.map_cons, anyAssignableFrom, List.any_cons]
      split
      · next h => rw [h, Bool.true_or]
      · next h => rw [ih, Bool.eq_false_iff.mpr h, Bool.false_or]

theorem anyAssignableFrom_error {e : Throwable} {classes : List (Option String)}
    (h : anyAssignableFrom cp t classes = .error e) : e = nullPointerException := by
  induction classes with
  | nil => cases h
  | cons name classes ih =>
      cases name with
      | none =>
          cases h
          rfl
      | some name =>
          unfold anyAssignableFrom at h
          split at h
          · cases h
          · exact ih h

/-- The filter raises only for a null entry. -/
theorem shouldCareThrowable_error {e : Throwable} (h : shouldCareThrowable cp t c = .error e) :
    e = nullPointerException := by
  unfold shouldCareThrowable at h
  split at h
  · cases h
  · exact anyAssignableFrom_error h

/-- With names that all load the filter answers. -/
theorem shouldCareThrowable_of_loads (h : ∀ name ∈ c.retryExceptions, cp.loads name = true) :
    shouldCareThrowable cp t c = .ok (c.retryExceptions.isEmpty ||
      c.retryExceptions.any fun name => cp.isInstance name t) := by
  unfold shouldCareThrowable getRetryExceptionClasses
  split
  · next hnone =>
      split at hnone
      · next hnil => rw [hnil]; rfl
      · cases hnone
  · next classes hsome =>
      split at hsome
      · cases hsome
      · next hne =>
          have hclasses : c.retryExceptions.map some = classes := by
            rw [← Option.some.inj hsome]
            exact List.map_congr_left fun name hname => (if_pos (h name hname)).symm
          rw [← hclasses, anyAssignableFrom_map_some]
          cases hl : c.retryExceptions with
          | nil => exact absurd hl hne
          | cons name l => rfl

/-- The throwable is one that the array asks for: the array is null, empty or the wildcard, or it
lists the class of the throwable or one of its ancestors. -/
def AsksFor (cp : ClassPath) (names : ExceptionNames) (t : Throwable) : Prop :=
  names = none ∨ names = some [] ∨ names = some [some wildcard] ∨
    ∃ l name, names = some l ∧ some name ∈ l ∧ cp.isInstance name t = true

/-- The filter answers, and it answers what the array asks for. -/
def FiltersCorrectly (cp : ClassPath) (names : ExceptionNames) (c : RetryQueueConfig)
    (t : Throwable) : Prop :=
  ∃ cares, shouldCareThrowable cp t c = .ok cares ∧ (cares = true ↔ AsksFor cp names t)

theorem filtersCorrectly_of_loads {l : List String} (hl : ∀ name ∈ l, cp.loads name = true)
    (hc : c.retryExceptions = l) (hne : l ≠ [wildcard]) :
    FiltersCorrectly cp (some (l.map some)) c t := by
  subst hc
  refine ⟨_, shouldCareThrowable_of_loads hl, ?_⟩
  simp only [AsksFor, Bool.or_eq_true, List.isEmpty_iff, List.any_eq_true, reduceCtorEq, false_or,
    Option.some.injEq, List.map_eq_nil_iff]
  refine or_congr_right ⟨?_, ?_⟩
  · rintro ⟨name, hname, hinst⟩
    exact .inr ⟨_, name, rfl, List.mem_map_of_mem hname, hinst⟩
  · rintro (hw | ⟨_, name, rfl, hname, hinst⟩)
    · obtain ⟨name, hl', he⟩ := List.map_eq_singleton_iff.mp hw
      exact absurd (Option.some.inj he ▸ hl') hne
    · obtain ⟨name', hname', he⟩ := List.mem_map.mp hname
      exact ⟨name, Option.some.inj he ▸ hname', hinst⟩

/-- With the wildcard the filter comes to a null entry, unless a class has that name. -/
theorem shouldCareThrowable_wildcard (hc : c.retryExceptions = [wildcard]) :
    shouldCareThrowable cp t c =
      if cp.loads wildcard then .ok (cp.isInstance wildcard t)
      else .error nullPointerException := by
  simp only [shouldCareThrowable, getRetryExceptionClasses, hc, reduceCtorEq, if_false,
    List.map_cons, List.map_nil]
  cases cp.loads wildcard with
  | false => rfl
  | true =>
      simp only [if_true, anyAssignableFrom]
      cases cp.isInstance wildcard t <;> rfl

/-- **Which accepted arrays filter as they read**: all but the wildcard.  The second case is that of
a class which is named `*` and is an ancestor of the throwable's. -/
theorem filtersCorrectly_iff (h : Built cp names c) : FiltersCorrectly cp names c t ↔
    names ≠ some [some wildcard] ∨ cp.loads wildcard = true ∧ cp.isInstance wildcard t = true := by
  have hstored := h.stored
  cases names with
  | none =>
      refine iff_of_true ⟨true, ?_, iff_of_true rfl (.inl rfl)⟩ (.inl (by simp))
      rw [shouldCareThrowable_of_loads] <;> rw [← Except.ok.inj hstored]
      · rfl
      · simp
  | some l =>
      unfold checkExceptionClassType at hstored
      dsimp only at hstored
      split at hstored
      · next hw =>
          subst hw
          have hasks : AsksFor cp (some [some wildcard]) t := .inr (.inr (.inl rfl))
          simp only [FiltersCorrectly, hasks, iff_true, exists_eq_right, ne_eq, not_true_eq_false,
            false_or, shouldCareThrowable_wildcard (Except.ok.inj hstored).symm]
          cases cp.loads wildcard <;> simp
      · next hne =>
          obtain ⟨hl, hload⟩ := checkClasses_ok hstored
          refine iff_of_true ?_ (.inl fun hw => hne (Option.some.inj hw))
          rw [hl]
          refine filtersCorrectly_of_loads hload rfl fun hw => hne ?_
          rw [hl, hw]
          rfl

/-- A class path without a class of the name `*`, on which all throwables are exceptions. -/
def sampleClassPath : ClassPath :=
  ⟨fun name => name ≠ wildcard, fun name name' =>
    name = name' || name = throwableClass || name = "java.lang.Exception"⟩

theorem filtersCorrectly_sample : ∃ c, Built sampleClassPath (some [some "java.io.IOException"]) c ∧
    FiltersCorrectly sampleClassPath (some [some "java.io.IOException"]) c
      ⟨"java.io.IOException"⟩ := by
  obtain ⟨c, hc⟩ : ∃ c, construct sampleClassPath "feed" 0 3 (some [some "java.io.IOException"])
      false = .ok c := ⟨_, rfl⟩
  exact ⟨c, .construct hc, (filtersCorrectly_iff (.construct hc)).mpr (.inl (by decide))⟩

/-- The wildcard is accepted, and the filter throws. -/
theorem wildcard_throws : ∃ c, Built sampleClassPath (some [some wildcard]) c ∧
    shouldCareThrowable sampleClassPath ⟨"java.io.IOException"⟩ c = .error nullPointerException ∧
    ¬ FiltersCorrectly sampleClassPath (some [some wildcard]) c ⟨"java.io.IOException"⟩ := by
  obtain ⟨c, hc⟩ : ∃ c, construct sampleClassPath "feed" 0 3 (some [some wildcard]) false = .ok c :=
    ⟨_, rfl⟩
  have hthrows : shouldCareThrowable sampleClassPath ⟨"java.io.IOException"⟩ c =
      .error nullPointerException := by
    cases hc
    rfl
  refine ⟨c, .construct hc, hthrows, ?_⟩
  rintro ⟨cares, hcares, -⟩
  rw [hthrows] at hcares
  cases hcares

end RetryQueueConfig

end MRF.Client
