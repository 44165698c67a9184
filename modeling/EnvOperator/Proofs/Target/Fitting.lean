import EnvOperator.Proofs.Pass.Converging
import EnvOperator.Proofs.Target.Selection
import EnvOperator.Proofs.Target.Transport
import Mathlib.Data.List.Forall2

/-! # How targets fit together

The objects of a target are made apart from each other and looked for somewhere else. They fit:
every object is wanted under the key under which it is looked for, the service selects the pods of
the deployment and leads to the ports of its containers, and the ingress leads to the service.
-/
namespace EnvOperator

def Query.lookup? (k : Kind) : Query → Option ObjectKey
  | store (.get k' key) => if k' = k then some key else none
  | _ => none

namespace Reading
variable {σ β : Type} {answer : (q : Query) → σ → q.Answer × σ} {s s' : σ} {b : β}

theorem asked_get {k : Kind} {key : ObjectKey} {f : Option k.Object → Reading β}
    (h : (Reading.get k key >>= f).run.run answer s = (.ok b, s')) : ∃ found s₁,
    (Reading.get k key >>= f).run.asked answer s =
      .store (.get k key) :: (f found).run.asked answer s₁ ∧
      (f found).run.run answer s₁ = (.ok b, s') := by
  obtain ⟨found, s₁, _, hrest, hasked⟩ := Dialogue.asked_bind_ok h
  exact ⟨found, s₁, hasked, hrest⟩

end Reading

namespace Snapshot
variable {σ : Type} {answer : (q : Query) → σ → q.Answer × σ} {s s' : σ} {configNamespace : String}
  {defaults : Defaults} {key : ObjectKey}

theorem asked_storageCredentials? {β : Type} {b : β} {config : EnvironmentConfig}
    {f : Secret → Reading β}
    (h : (storageCredentials? configNamespace config >>= f).run.run answer s = (.ok b, s')) :
    ∃ secrets : List ObjectKey, ∃ found s₁,
      (storageCredentials? configNamespace config >>= f).run.asked answer s =
      secrets.map (fun own => .store (.get .secret own)) ++ (f found).run.asked answer s₁ ∧
        (f found).run.run answer s₁ = (.ok b, s') := by
  unfold storageCredentials? at h ⊢
  split at h
  · exact ⟨[], _, s, rfl, h⟩
  · rename_i name hname
    rw [bind_assoc] at h
    obtain ⟨found, s₁, hasked, hrest⟩ := Reading.asked_get h
    cases found with
    | none => cases hrest
    | some secret =>
      exact ⟨[⟨configNamespace, name⟩], secret, s₁, by simp only [bind_assoc]; exact hasked, hrest⟩

/-- What has been asked when an environment has been collected. -/
theorem asked_collect {x : Snapshot}
    (h : (collect configNamespace defaults key).run.run answer s = (.ok (some x), s')) :
    ∃ configKey : ObjectKey, ∃ secrets : List ObjectKey,
      (collect configNamespace defaults key).run.asked answer s =
      .store (.get .environment key) :: .store (.get .environmentConfig configKey) ::
        (secrets.map (fun own => .store (.get .secret own)) ++
          [.store (.get .job (key.own .job)), .store (.get .deployment key),
            .store (.get .service key), .store (.get .ingress key),
            .store (.get .secret (key.sibling (Naming.credentialsSecretName key.name)))]) := by
  obtain ⟨environment, s₁, h₁, h⟩ := Reading.asked_get h
  cases environment with
  | none => cases h
  | some e =>
    obtain ⟨config, s₂, h₂, h⟩ := Reading.asked_get h
    cases config with
    | none => cases h
    | some g =>
      obtain ⟨secrets, secret, s₃, h₃, h⟩ := asked_storageCredentials? h
      obtain ⟨job, s₄, h₄, h⟩ := Reading.asked_get h
      obtain ⟨deployment, s₅, h₅, h⟩ := Reading.asked_get h
      obtain ⟨service, s₆, h₆, h⟩ := Reading.asked_get h
      obtain ⟨ingress, s₇, h₇, h⟩ := Reading.asked_get h
      obtain ⟨credentials, s₈, h₈, h⟩ := Reading.asked_get h
      refine ⟨⟨configNamespace, (e.applyDefaults defaults).configName⟩, secrets, ?_⟩
      refine h₁.trans
        (congrArg (_ :: ·) (h₂.trans (congrArg (_ :: ·) (h₃.trans (congrArg (_ ++ ·) ?_)))))
      refine h₄.trans
        (congrArg (_ :: ·) (h₅.trans (congrArg (_ :: ·) (h₆.trans (congrArg (_ :: ·) ?_)))))
      exact h₇.trans (congrArg (_ :: ·) (h₈.trans rfl))

end Snapshot

/-- Where the objects of a kind are looked for when an environment is collected: once under a key
and nowhere else, so that what is stored there is what is found. -/
structure ObjectKey.LooksUp (key : ObjectKey) (k : Kind) (own : ObjectKey) : Prop where
  asked {answer : (q : Query) → World → q.Answer × World} (h : World.Answers answer)
    {configNamespace : String} {defaults : Defaults} {w w' : World} {c : Collection}
    (hc : (Collection.collect configNamespace defaults key).run.run answer w = (.ok (some c), w')) :
    ((Collection.collect configNamespace defaults key).run.asked answer w).filterMap
      (Query.lookup? k) = [own]
  found {answer : (q : Query) → World → q.Answer × World} (h : World.Answers answer)
    {configNamespace : String} {defaults : Defaults} {w w' : World} {c : Collection}
    (hc : (Collection.collect configNamespace defaults key).run.run answer w = (.ok (some c), w')) :
    w.store.read k own = .ok (c.snapshot.found k)

theorem Collection.asked_collect {σ : Type} {answer : (q : Query) → σ → q.Answer × σ} {s s' : σ}
    {configNamespace : String} {defaults : Defaults} {key : ObjectKey} {c : Collection} {k : Kind}
    (hk : k.IsMade)
    (h : (collect configNamespace defaults key).run.run answer s = (.ok (some c), s')) :
    ((collect configNamespace defaults key).run.asked answer s).filterMap (Query.lookup? k) =
      [key.own k] := by
  obtain ⟨found, s₁, hsnapshot, hrest, hasked⟩ := Dialogue.asked_bind_ok h
  cases found with
  | none => cases hrest
  | some x =>
    obtain ⟨configKey, secrets, hlist⟩ := Snapshot.asked_collect hsnapshot
    have hall : (collect configNamespace defaults key).run.asked answer s =
        (Snapshot.collect configNamespace defaults key).run.asked answer s :=
          hasked.trans (List.append_nil _)
    rw [hall, hlist]
    rcases hk with rfl | rfl | rfl | rfl <;> simp [Query.lookup?, List.filterMap_map, ObjectKey.own]

theorem ObjectKey.looksUp_own {k : Kind} (hk : k.IsMade) (key : ObjectKey) :
    key.LooksUp k (key.own k) where
  asked _ _ _ _ _ _ hc := Collection.asked_collect hk hc
  found h _ _ _ _ _ hc := (h.collected hc).1.1.found hk

/-! ## The network -/

/-- A port of a service leads to a port of a container, of which it takes the number, the name and
the protocol. -/
structure ServicePort.LeadsTo (p : ServicePort) (q : ContainerPort) : Prop where
  port : p.port = q.containerPort
  targetPort : p.targetPort = some (.int q.containerPort)
  name : p.name = q.name
  protocol : p.protocol = q.protocol

def Service.ports (v : Service) : List ServicePort := (v.spec.bind (·.ports)).getD []

def Ingress.backends (i : Ingress) : List IngressBackend :=
  i.spec.elim [] fun spec => spec.defaultBackend.toList ++
    (spec.rules.getD []).flatMap fun rule => (rule.http.elim [] (·.paths)).map (·.backend)

/-- A backend is a service, at the number of the first of its ports if it has any. -/
structure IngressBackend.LeadsTo (b : IngressBackend) (v : Service) : Prop where
  resource : b.resource = none
  service : ∃ target, b.service = some target ∧ v.metadata.name = some target.name ∧
    target.port = v.ports.head?.map fun p => { number := some p.port }

def Target.containerPorts (t : Target) : List ContainerPort :=
  (t.deployment.spec.bind (·.template.spec)).elim [] fun pod => pod.containers.flatMap fun c =>
    c.ports.getD []

namespace Snapshot
variable {x : Snapshot}

theorem spec_targetService {v : Service} (h : x.targetService = some v) :
    v.ports = x.servicePorts ∧ v.metadata.name = some x.key.name := by
  refine ⟨?_, ?_⟩
  · obtain ⟨_, _, h⟩ := Option.bind_eq_some_iff.mp h
    obtain ⟨settings, _, h⟩ := Option.bind_eq_some_iff.mp h
    cases h
    rfl
  · rw [metadata_targetService h]
    cases x.service <;> rfl

theorem containerPorts_target : x.target.containerPorts = x.environment.spec.ports.getD [] :=
  List.append_nil _

/-- Ports that are not asked for lead to those of the containers, one by one. -/
theorem forall₂_servicePorts (h : x.environment.spec.service.bind (·.ports) = none) :
    List.Forall₂ ServicePort.LeadsTo x.servicePorts (x.environment.spec.ports.getD []) := by
  unfold servicePorts
  rw [h, Option.getD_none]
  induction x.environment.spec.ports.getD [] with
  | nil => exact .nil
  | cons p ps ih => exact .cons ⟨rfl, rfl, rfl, rfl⟩ ih

theorem exists_targetService {i : Ingress} (h : x.targetIngress = some i) :
    ∃ v, x.targetService = some v := by
  rw [← Option.isSome_iff_exists, isSome_targetService]
  have hingress := x.isSome_targetIngress
  rw [h] at hingress
  exact (Bool.and_eq_true_iff.mp hingress.symm).1

theorem backends_targetIngress {i : Ingress} (h : x.targetIngress = some i) : i.backends = [{
    service := some {
      name := x.key.name, port :=
  x.servicePorts.head?.map fun p => { number := some p.port } } }] := by
  obtain ⟨_, _, h⟩ := Option.bind_eq_some_iff.mp h
  obtain ⟨settings, _, h⟩ := Option.bind_eq_some_iff.mp h
  cases h
  rfl

structure Fits (x : Snapshot) : Prop where
  sought {k : Kind} {o : k.Object} (ho : (Collection.mk x x.target).wanted k = some o) : ∃ ns name,
    (k.metadata o).ns = some ns ∧ (k.metadata o).name = some name ∧ x.key.LooksUp k ⟨ns, name⟩
  selected {v : Service} (hv : x.target.service = some v) : v.Selects x.target.workloadPods
  ports {v : Service} (hv : x.target.service = some v)
    (hports : x.environment.spec.service.bind (·.ports) = none) :
    List.Forall₂ ServicePort.LeadsTo v.ports x.target.containerPorts
  ingress {i : Ingress} (hi : x.target.ingress = some i) :
    ∃ v b, x.target.service = some v ∧ i.backends = [b] ∧
    b.LeadsTo v

theorem sought_wanted {k : Kind} {o : k.Object}
    (ho : (Collection.mk x x.target).wanted k = some o) : ∃ ns name,
    (k.metadata o).ns = some ns ∧ (k.metadata o).name = some name ∧ x.key.LooksUp k ⟨ns, name⟩ := by
  have hkey : k.keyOf o = .ok (x.key.own k) := Collection.keyOf_wanted rfl ho
  obtain ⟨hns, hname⟩ := ObjectKey.ofMeta_eq_ok.mp hkey
  have hmade : k.IsMade := by
    cases k with
    | job | deployment | service | ingress => simp [Kind.IsMade]
    | environment | environmentConfig | secret => cases ho
  exact ⟨_, _, hns, hname, x.key.looksUp_own hmade⟩

/-- Whatever has been found, the objects that are wanted fit together and can be found again. -/
theorem target_fits (x : Snapshot) : x.Fits where
  sought := sought_wanted
  selected hv := (selects_targetService hv).mpr (Naming.within_environmentLabels.mpr rfl)
  ports hv hports := by
    rw [(spec_targetService hv).1, containerPorts_target]
    exact forall₂_servicePorts hports
  ingress hi := by
    obtain ⟨v, hv⟩ := exists_targetService hi
    obtain ⟨hports, hname⟩ := spec_targetService hv
    refine ⟨v, _, hv, backends_targetIngress hi, rfl, _, rfl, hname, ?_⟩
    rw [hports]

end Snapshot

def Sample.ported : Snapshot := { (collectionAt "http://registry:5000/").snapshot with
  environment := {
    metadata := { name := some "web", ns := some "dev" }
    spec := {
      ports := some [{ containerPort := 8080, name := some "http" }, { containerPort := 9090 }]
      service := some { enabled := true }
      ingress := some { enabled := true } } } }

/-- The ingress leads to the first of two ports of the service, and these lead to the ports of the
container. -/
theorem Snapshot.target_fits_ported : ∃ (v : Service) (i : Ingress) (b : IngressBackend),
    Sample.ported.target.service = some v ∧ Sample.ported.target.ingress = some i ∧
    i.backends = [b] ∧
    b.service = some { name := "web", port := some { number := some 8080 } } ∧
    List.Forall₂ ServicePort.LeadsTo v.ports
      [{ containerPort := 8080, name := some "http" }, { containerPort := 9090 }] := by
  have hfits := Sample.ported.target_fits
  obtain ⟨i, hi⟩ : ∃ i, Sample.ported.target.ingress = some i := ⟨_, rfl⟩
  obtain ⟨v, b, hv, hbackends, _, target, htarget, hname, hport⟩ := hfits.ingress hi
  have hports : List.Forall₂ ServicePort.LeadsTo v.ports
      [{ containerPort := 8080, name := some "http" }, { containerPort := 9090 }] :=
        hfits.ports hv rfl
  refine ⟨v, i, b, hv, hi, hbackends, ?_, hports⟩
  cases hv
  rw [htarget]
  obtain ⟨name, port⟩ := target
  cases hname
  cases hport
  rfl

end EnvOperator
