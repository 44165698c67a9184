import EnvOperator.Settings.Load
import Mathlib.Logic.Function.Basic

/-! # Settings and their variables

A table says of each setting which variable it is loaded from and how the text of the variable is
read. Loading goes through the table from its top: it reports the first variable with a text that
cannot be read, and if there is none, each setting has the value of its own variable and of no
other.
-/
namespace EnvOperator
namespace Settings
variable {α σ τ : Type}

/-- A setting that is loaded, with the name of its variable and the reading of the text in it. -/
structure Entry (σ : Type) where
  name : String
  Value : Type
  parse : String → Except SettingFault Value
  get : σ → Value

namespace Entry

def typed (name : String) (parse : String → Except SettingFault α) (get : σ → α) : Entry σ :=
  ⟨name, α, parse, get⟩

def plain (name : String) (get : σ → String) : Entry σ := typed name .ok get

def optional (name : String) (parse : String → Except SettingFault α) (get : σ → Option α) :
    Entry σ :=
  typed name (fun text => (parse text).map some) get

def within (part : σ → τ) (e : Entry τ) : Entry σ :=
  ⟨e.name, e.Value, e.parse, fun s => e.get (part s)⟩

def Accepts (e : Entry σ) (value : Option Bytes) : Prop :=
  ∀ text, value.bind Bytes.text? = some text → ∃ a, e.parse text = .ok a

def Malformed (e : Entry σ) (vars : Variables) (error : SettingError) : Prop :=
  ∃ text fault, vars.text? e.name = some text ∧ e.parse text = .error fault ∧
    error = ⟨e.name, text, fault⟩

/-- The setting is the one that the text of its variable says, or the built-in one if the variable
has no text. -/
def Holds (e : Entry σ) (vars : Variables) (builtIn s : σ) : Prop :=
  match vars.text? e.name with
  | some text => e.parse text = .ok (e.get s)
  | none => e.get s = e.get builtIn

end Entry

def defaultEntries : List (Entry Defaults) := [
  .typed "KILN_DEFAULT_REPLICAS" int32 (·.replicas),
  .plain "KILN_DEFAULT_BUILD_IMAGE" (·.buildImage),
  .plain "KILN_DEFAULT_DOCKERFILE" (·.dockerfile),
  .plain "KILN_DEFAULT_PLATFORM" (·.platform),
  .plain "KILN_DEFAULT_VERBOSITY" (·.verbosity),
  .typed "KILN_DEFAULT_BACKOFF_LIMIT" int32 (·.backoffLimit),
  .typed "KILN_DEFAULT_ACTIVE_DEADLINE_SECS" int64 (·.activeDeadlineSeconds),
  .plain "KILN_DEFAULT_BUCKET" (·.storageBucket),
  .plain "KILN_DEFAULT_REGION" (·.storageRegion),
  .optional "KILN_DEFAULT_ENDPOINT" .ok (·.storageEndpoint),
  .plain "KILN_DEFAULT_PREFIX" (·.storageFolder),
  .plain "KILN_DEFAULT_REGISTRY_URL" (·.registryUrl),
  .typed "KILN_DEFAULT_REGISTRY_NODE_PORT" int32 (·.registryNodePort)]

def entries : List (Entry Settings) := [
  .plain "KILN_CONFIG_NAMESPACE" (·.configNamespace),
  .typed "KILN_STATUS_LISTEN_ADDR" socketAddress (·.statusListenAddr),
  .plain "KILN_LOG_LEVEL" (·.logLevel),
  .typed "KILN_REQUEUE_DELAY_MS" milliseconds (·.requeueDelay),
  .typed "KILN_ERROR_BACKOFF_SECS" seconds (·.errorBackoff),
  .optional "KILN_MAX_WAIT_PASSES" nat32 (·.maxWaitPasses),
  .typed "KILN_REGISTRY_TIMEOUT_SECS" seconds (·.registryTimeout)] ++
  defaultEntries.map (.within (·.defaults))

structure SameRest (s t : Settings) : Prop where
  serviceType : s.defaults.serviceType = t.defaults.serviceType
  ingressPath : s.defaults.ingressPath = t.defaults.ingressPath

theorem SameRest.symm {s t : Settings} (h : s.SameRest t) : t.SameRest s :=
  ⟨h.serviceType.symm, h.ingressPath.symm⟩

theorem SameRest.trans {s t u : Settings} (h : s.SameRest t) (h' : t.SameRest u) : s.SameRest u :=
  ⟨h.serviceType.trans h'.serviceType, h.ingressPath.trans h'.ingressPath⟩

/-- There are no settings but those of the table and the ones without a variable. -/
theorem eq_of_entries {s t : Settings} (h : ∀ e ∈ entries, e.get s = e.get t)
    (hrest : s.SameRest t) : s = t := by
  obtain ⟨_, _, _, _, _, _, _, ⟨⟩⟩ := s
  obtain ⟨_, _, _, _, _, _, _, ⟨⟩⟩ := t
  obtain ⟨hservice, hingress⟩ := hrest
  simp_all [entries, defaultEntries, Entry.plain, Entry.typed, Entry.optional, Entry.within]

/-! ## Faults -/

def given? (vars : Variables) (name : String) (parse : String → Except SettingFault α) : Option α :=
  (vars.text? name).bind fun text => (parse text).toOption

def fault? (vars : Variables) (name : String) (parse : String → Except SettingFault α) :
    Option SettingError :=
  (vars.text? name).bind fun text =>
    match parse text with
    | .ok _ => none
    | .error fault => some ⟨name, text, fault⟩

theorem readVariable_eq (vars : Variables) (name : String)
    (parse : String → Except SettingFault α) :
    readVariable vars name parse =
      (fault? vars name parse).elim (.ok (given? vars name parse)) .error := by
  unfold readVariable fault? given?
  cases vars.text? name with
  | none => rfl
  | some text =>
    simp only [Option.bind_some]
    cases parse text <;> rfl

@[simp] theorem fault?_ok (vars : Variables) (name : String) : fault? vars name .ok = none := by
  unfold fault?
  cases vars.text? name <;> rfl

@[simp] theorem given?_ok (vars : Variables) (name : String) :
    given? vars name .ok = vars.text? name := by
  unfold given?
  cases vars.text? name <;> rfl

@[simp] theorem fault?_map {β : Type} (vars : Variables) (name : String)
    (parse : String → Except SettingFault α) (f : α → β) :
    fault? vars name (fun text => (parse text).map f) = fault? vars name parse := by
  unfold fault?
  cases vars.text? name with
  | none => rfl
  | some text =>
    simp only [Option.bind_some]
    cases parse text <;> rfl

@[simp] theorem given?_map {β : Type} (vars : Variables) (name : String)
    (parse : String → Except SettingFault α) (f : α → β) :
    given? vars name (fun text => (parse text).map f) = (given? vars name parse).map f := by
  unfold given?
  cases vars.text? name with
  | none => rfl
  | some text =>
    simp only [Option.bind_some]
    cases parse text <;> rfl

namespace Entry
variable {e : Entry σ} {vars : Variables} {builtIn s : σ}

def value (e : Entry σ) (vars : Variables) (builtIn : σ) : e.Value :=
  (Settings.given? vars e.name e.parse).getD (e.get builtIn)

theorem fault?_eq_some_iff {error : SettingError} :
    Settings.fault? vars e.name e.parse = some error ↔ e.Malformed vars error := by
  simp only [Settings.fault?, Malformed, Option.bind_eq_some_iff]
  refine exists_congr fun text => ?_
  cases e.parse text <;> simp [eq_comm]

theorem fault?_eq_none_iff :
    Settings.fault? vars e.name e.parse = none ↔ e.Accepts (vars e.name) := by
  simp only [Settings.fault?, Accepts, Option.bind_eq_none_iff, Variables.text?]
  refine forall₂_congr fun text _ => ?_
  cases e.parse text <;> simp

theorem holds_iff :
    e.Holds vars builtIn s ↔ e.Accepts (vars e.name) ∧ e.get s = e.value vars builtIn := by
  rw [← fault?_eq_none_iff]
  unfold Holds value Settings.fault? Settings.given?
  cases vars.text? e.name with
  | none => simp
  | some text =>
    simp only [Option.bind_some]
    cases e.parse text with
    | ok a => simp [Except.toOption, eq_comm]
    | error fault => simp

theorem Holds.not_malformed {error : SettingError} (h : e.Holds vars builtIn s) :
    ¬ e.Malformed vars error := by
  rw [← fault?_eq_some_iff, fault?_eq_none_iff.mpr (holds_iff.mp h).1]
  exact nofun

end Entry

def firstFault (table : List (Entry σ)) (vars : Variables) : Option SettingError :=
  table.findSome? fun e => fault? vars e.name e.parse

section
variable {table : List (Entry σ)} {vars : Variables}

@[simp] theorem firstFault_nil : firstFault ([] : List (Entry σ)) vars = none := rfl

@[simp] theorem firstFault_cons (e : Entry σ) :
    firstFault (e :: table) vars = (fault? vars e.name e.parse).or (firstFault table vars) := by
  unfold firstFault
  rw [List.findSome?_cons]
  cases fault? vars e.name e.parse <;> rfl

@[simp] theorem firstFault_within (part : σ → τ) (table : List (Entry τ)) :
    firstFault (table.map (.within part)) vars = firstFault table vars :=
  List.findSome?_map

theorem firstFault_eq_some_iff {error : SettingError} :
    firstFault table vars = some error ↔
      ∃ before e after, table = before ++ e :: after ∧ e.Malformed vars error ∧
        ∀ u ∈ before, u.Accepts (vars u.name) := by
  simp only [firstFault, List.findSome?_eq_some_iff, Entry.fault?_eq_some_iff,
    Entry.fault?_eq_none_iff]

theorem firstFault_eq_none_iff :
    firstFault table vars = none ↔ ∀ e ∈ table, e.Accepts (vars e.name) := by
  simp only [firstFault, List.findSome?_eq_none_iff, Entry.fault?_eq_none_iff]

end

/-! ## Loading -/

theorem elim_ok_bind {ε α β : Type} (o : Option ε) (a : α) (f : α → Except ε β) :
    (o.elim (.ok a) .error >>= f) = o.elim (f a) .error := by
  cases o <;> rfl

theorem or_elim_error {ε α : Type} (o o' : Option ε) (x : Except ε α) :
    (o.or o').elim x .error = o.elim (o'.elim x .error) .error := by
  cases o <;> rfl

theorem map_some_getD (o o' : Option α) : (o.map some).getD o' = o.or o' := by
  cases o <;> rfl

theorem loadDefaults_eq (vars : Variables) (d : Defaults) :
    ∃ d' : Defaults, loadDefaults vars d = (firstFault defaultEntries vars).elim (.ok d') .error ∧
      (∀ e ∈ defaultEntries, e.get d' = e.value vars d) ∧
      d'.serviceType = d.serviceType ∧ d'.ingressPath = d.ingressPath := by
  simp only [loadDefaults, readVariable_eq, elim_ok_bind, defaultEntries, Entry.plain, Entry.typed,
    Entry.optional, firstFault_cons, firstFault_nil, fault?_ok, fault?_map, or_elim_error,
    Option.elim_none, Option.none_or]
  -- Both sides are now one chain of the readings that can fail, in the order of the table.
  refine ⟨_, rfl, ?_⟩
  simp [Entry.value, map_some_getD]

/-- Loading finds the first fault there is, and else every setting of the table. -/
theorem load_eq (vars : Variables) :
    ∃ s : Settings, load vars = (firstFault entries vars).elim (.ok s) .error ∧
      (∀ e ∈ entries, e.get s = e.value vars {}) ∧ s.SameRest {} := by
  obtain ⟨d, hload, hd, hservice, hingress⟩ := loadDefaults_eq vars {}
  simp only [load, readVariable_eq, elim_ok_bind, hload, entries, Entry.plain, Entry.typed,
    Entry.optional, List.cons_append, List.nil_append, firstFault_cons, firstFault_within,
    fault?_ok, fault?_map, or_elim_error, Option.none_or]
  refine ⟨_, rfl, ?_, ⟨hservice, hingress⟩⟩
  simpa [Entry.value, Entry.within, map_some_getD] using hd

theorem load_eq_error_iff {vars : Variables} {error : SettingError} :
    load vars = .error error ↔ ∃ before e after, entries = before ++ e :: after ∧
      e.Malformed vars error ∧
      ∀ u ∈ before, u.Accepts (vars u.name) := by
  obtain ⟨s, hload, -⟩ := load_eq vars
  rw [← firstFault_eq_some_iff, hload]
  cases firstFault entries vars <;> simp

theorem load_eq_ok_iff {vars : Variables} {s : Settings} :
    load vars = .ok s ↔ (∀ e ∈ entries, e.Holds vars {} s) ∧ s.SameRest {} := by
  obtain ⟨t, hload, ht, hrest⟩ := load_eq vars
  simp only [Entry.holds_iff, forall₂_and, ← firstFault_eq_none_iff, hload]
  cases hfault : firstFault entries vars with
  | some error => simp
  | none =>
    simp only [Option.elim_none, Except.ok.injEq, true_and]
    constructor
    · rintro rfl
      exact ⟨ht, hrest⟩
    · rintro ⟨hs, hrest'⟩
      exact eq_of_entries (fun e he => (ht e he).trans (hs e he).symm) (hrest.trans hrest'.symm)

theorem Entry.value_update_of_ne {e : Entry σ} {name : String} (h : e.name ≠ name)
    (vars : Variables) (value : Option Bytes) (builtIn : σ) :
    e.value (Function.update vars name value) builtIn = e.value vars builtIn := by
  simp only [Entry.value, given?, Variables.text?, Function.update_of_ne h]

theorem load_update {vars : Variables} {s : Settings} (hload : load vars = .ok s) {name : String}
    {value : Option Bytes} (haccepts : ∀ e ∈ entries, e.name = name → e.Accepts value) :
    ∃ s', load (Function.update vars name value) = .ok s' ∧
      (∀ u ∈ entries, u.name ≠ name → u.get s' = u.get s) ∧
      s'.SameRest s := by
  obtain ⟨hs, hrest⟩ := load_eq_ok_iff.mp hload
  obtain ⟨s', hload', hs', hrest'⟩ := load_eq (Function.update vars name value)
  -- No variable is malformed now: the one that is set anew is accepted, and the others were before.
  have hnone : firstFault entries (Function.update vars name value) = none := by
    refine firstFault_eq_none_iff.mpr fun e he => ?_
    by_cases hname : e.name = name
    · rw [hname, Function.update_self]
      exact haccepts e he hname
    · rw [Function.update_of_ne hname]
      exact (Entry.holds_iff.mp (hs e he)).1
  rw [hnone] at hload'
  refine ⟨s', hload', fun u hu hname => ?_, hrest'.trans hrest.symm⟩
  rw [hs' u hu, Entry.value_update_of_ne hname, (Entry.holds_iff.mp (hs u hu)).2]

/-- Loading fails exactly if a variable of the table has a text that cannot be read, and reports the
first one that has. Else every setting is what its own variable says, or built in where that has no
text, and settings without a variable are built in. To set one variable to something else that can
be read changes the setting of no other. -/
theorem load_own_variables (vars : Variables) :
    (entries.map (·.name)).Nodup ∧
    ((∃ error, load vars = .error error) ↔ ∃ e ∈ entries, ∃ error, e.Malformed vars error) ∧
    (∀ error, load vars = .error error ↔ ∃ before e after, entries = before ++ e :: after ∧
      e.Malformed vars error ∧
      ∀ u ∈ before, u.Accepts (vars u.name)) ∧
    (∀ s, load vars = .ok s ↔ (∀ e ∈ entries, e.Holds vars {} s) ∧ s.SameRest {}) ∧
    ∀ s name value, load vars = .ok s → (∀ e ∈ entries, e.name = name → e.Accepts value) →
      ∃ s', load (Function.update vars name value) = .ok s' ∧
        (∀ u ∈ entries, u.name ≠ name → u.get s' = u.get s) ∧
        s'.SameRest s := by
  refine ⟨by decide, ?_, fun _ => load_eq_error_iff, fun _ => load_eq_ok_iff,
    fun _ _ _ hload haccepts => load_update hload haccepts⟩
  constructor
  · rintro ⟨error, herror⟩
    obtain ⟨before, e, after, htable, hmalformed, -⟩ := load_eq_error_iff.mp herror
    exact ⟨e, htable ▸ List.mem_append_right _ List.mem_cons_self, error, hmalformed⟩
  · rintro ⟨e, he, error, hmalformed⟩
    cases hload : load vars with
    | error first => exact ⟨first, rfl⟩
    | ok s => exact absurd hmalformed (Entry.Holds.not_malformed ((load_eq_ok_iff.mp hload).1 e he))

example : load (fun name =>
      if name = "KILN_DEFAULT_REPLICAS" then some (.ofText "many")
      else if name = "KILN_MAX_WAIT_PASSES" then some (.ofText "-1") else none) =
    .error ⟨"KILN_MAX_WAIT_PASSES", "-1", .integer .invalidDigit⟩ := by
  rfl

end Settings
end EnvOperator
