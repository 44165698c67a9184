import EnvOperator.Proofs.Pass.Races
import EnvOperator.Proofs.Pass.Repeating
import EnvOperator.Proofs.Target.Attached
import Mathlib.Data.List.Basic

/-! # Redeploys

A workload is deployed again and again, for one revision or another, and in between others may
change anything. Each time the objects that are still wanted are sent and stored with the metadata
that was found of them, renewed. What others have attached to an object therefore stays on it as
long as the object is wanted and nobody else takes it away.
-/
namespace EnvOperator

def Request.bringing (k : Kind) (found wanted : Option k.Object) : Option Request :=
  match wanted, found with
  | some object, some _ => some (.replace k object)
  | some object, none => some (.create k object)
  | none, some existing => (k.keyOf existing).toOption.map (.delete k)
  | none, none => none

namespace Writing
variable {k : Kind} {found wanted : Option k.Object} {existing : k.Object} {w w' : World}

theorem asked_apply (h : (apply k found wanted).run.inWorld w = (.ok (), w')) :
    (apply k found wanted).run.asked World.answer w =
      ((Request.bringing k found wanted).map Query.store).toList := by
  cases wanted with
  | some o => cases found <;> rfl
  | none =>
    cases found with
    | none => rfl
    | some existing =>
      obtain ⟨key, hkey, _⟩ := delete_ok h
      have hbringing : Request.bringing k (some existing) none = some (.delete k key) :=
        congrArg (fun own => (Except.toOption own).map (Request.delete k)) hkey
      change (delete k existing).run.asked World.answer w = _
      rw [hbringing, run_delete hkey]
      rfl

end Writing

namespace Collection
variable {c : Collection} {key : ObjectKey} {ks : List Kind} {w w' : World}

theorem applyAll_sent (hnodup : ks.Nodup)
    (hread : ∀ k ∈ ks, w.store.read k key = .ok (c.snapshot.found k))
    (hwanted : ∀ k ∈ ks, ∀ o, c.wanted k = some o → k.keyOf o = .ok key)
    (h : (c.applyAll ks).run.inWorld w = (.ok (), w')) :
    (c.applyAll ks).run.asked World.answer w =
      ks.filterMap
        (fun k => (Request.bringing k (c.snapshot.found k) (c.wanted k)).map Query.store) ∧
    ∀ k ∈ ks, ∀ o, c.wanted k = some o → w'.store.stored? k key = some o := by
  induction ks generalizing w with
  | nil => exact ⟨rfl, nofun⟩
  | cons k ks ih =>
    obtain ⟨hk, hnodup⟩ := List.nodup_cons.mp hnodup
    obtain ⟨⟨⟩, w₁, ha, hb, hall⟩ := Dialogue.asked_bind_ok h
    have hleft := Writing.apply_left (hread k List.mem_cons_self) (hwanted k List.mem_cons_self) ha
    have hread' (k' : Kind) (hk' : k' ∈ ks) : w₁.store.read k' key = .ok (c.snapshot.found k') := by
      rw [MemoryStore.read_congr (hleft.frame k' (ne_of_mem_of_not_mem hk' hk) key)]
      exact hread k' (List.mem_cons_of_mem _ hk')
    have hwanted' (k' : Kind) (hk' : k' ∈ ks) := hwanted k' (List.mem_cons_of_mem _ hk')
    obtain ⟨hasked, hstored⟩ := ih hnodup hread' hwanted' hb
    obtain ⟨hframe, _⟩ := applyAll_left hnodup hread' hwanted' hb
    constructor
    · refine hall.trans ?_
      rw [Writing.asked_apply ha, hasked, List.filterMap_cons]
      cases Request.bringing k (c.snapshot.found k) (c.wanted k) <;> rfl
    · intro k' hk' o ho
      rcases List.mem_cons.mp hk' with rfl | hk'
      · have hnow : w₁.store.stored? k' key = some o := by
          rw [ho] at ha
          exact Writing.apply_stored (hwanted k' List.mem_cons_self o ho) ha
        rw [MemoryStore.stored?_congr (hframe k' hk key), hnow]
      · exact hstored k' hk' o ho

end Collection

/-- One deploying of a workload: what was collected, the status at the time, and the worlds before
it, after the collecting, and after it. -/
structure Redeploy where
  collected : Collection
  status : EnvironmentStatus
  before : World
  between : World
  after : World

namespace Redeploy

structure Succeeds (settings : Settings) (key : ObjectKey) (d : Redeploy) : Prop where
  collects :
    (Collection.collect settings.configNamespace settings.defaults key).run.inWorld d.before =
    (.ok (some d.collected), d.between)
  deploys : ((d.collected.step d.status .deploy).inWorld d.between).1.next = .deployVerify
  leaves : ((d.collected.step d.status .deploy).inWorld d.between).2 = d.after

def sent (d : Redeploy) : List Query :=
  (d.collected.step d.status .deploy).asked World.answer d.between

/-- An object of a workload was renewed: it is stored with the metadata that the environment makes
of what was found of it. -/
structure Renews (d : Redeploy) (key : ObjectKey) (e : Environment) (k : Kind) (o : k.Object) :
    Prop where
  stored : d.after.store.stored? k key = some o
  metadata : e.Renews key k ((d.before.store.stored? k key).map k.metadata) (k.metadata o)

/-- What comes of a redeploy: what was sent brings the objects from what was found to what is
wanted, and those that are wanted were renewed. -/
structure Leaves (d : Redeploy) (key : ObjectKey) (e : Environment) : Prop where
  environment : d.before.store.stored? .environment key = some e
  sent : d.sent = Collection.workloadKinds.filterMap fun k =>
    (Request.bringing k (d.before.store.stored? k key) (d.collected.wanted k)).map Query.store
  renews : ∀ k ∈ Collection.workloadKinds, ∀ o, d.collected.wanted k = some o → d.Renews key e k o

variable {settings : Settings} {key : ObjectKey} {d : Redeploy}

theorem Succeeds.exists_leaves (h : d.Succeeds settings key) : ∃ e, d.Leaves key e := by
  obtain ⟨⟨hx, htarget⟩, hsame⟩ := World.collect_effect h.collects
  obtain ⟨e, he, _⟩ := hx.exists_environment
  have hread (k : Kind) (hk : k ∈ Collection.workloadKinds) :
      d.between.store.read k key = .ok (d.collected.snapshot.found k) := by
    rw [hsame.1]
    exact hx.found_workload hk
  have hwanted (k : Kind) (hk : k ∈ Collection.workloadKinds) (o : k.Object)
      (ho : d.collected.wanted k = some o) :
      k.keyOf o = .ok key := by
    rw [Collection.keyOf_wanted htarget ho,
      Collection.own_of_makes (Collection.mem_workloadKinds.mp hk), hx.key_eq]
  have hfound (k : Kind) (hk : k ∈ Collection.workloadKinds) :
      d.before.store.stored? k key = d.collected.snapshot.found k :=
    MemoryStore.stored?_of_read (hx.found_workload hk)
  rcases happly : (d.collected.applyAll Collection.workloadKinds).run.inWorld d.between with ⟨r, w'⟩
  have hstep : (d.collected.step d.status .deploy).inWorld d.between =
      (Collection.afterApply d.status r, w') :=
    Collection.deploy_inWorld d.status happly
  have hnext := h.deploys
  have hafter := h.leaves
  rw [hstep] at hnext hafter
  have hok : r = .ok () := Collection.eq_ok_of_afterApply (congrArg Stage.isWaiting hnext)
  subst hok hafter
  obtain ⟨hasked, hstored⟩ := Collection.applyAll_sent (by decide) hread hwanted happly
  refine ⟨e, he, ?_, fun k hk o ho =>
    ⟨hstored k hk o ho, Collection.renews_wanted hx htarget he hk ho⟩⟩
  have hsent : d.sent = (d.collected.applyAll Collection.workloadKinds).run.asked World.answer
      d.between := by
    change (d.collected.deploy d.status).asked World.answer d.between = _
    unfold Collection.deploy
    rw [Collection.applyWorkload_eq, Dialogue.asked_bind]
    exact List.append_nil _
  rw [hsent, hasked]
  exact List.filterMap_congr fun k hk => by rw [hfound k hk]

end Redeploy

inductive Attachment
  | labelled (name value : String)
  | annotated (name value : String)

namespace Attachment

def On : Attachment → ObjectMeta → Prop
  | labelled name value, m => m.labelAt? name = some value
  | annotated name value, m => m.annotationAt? name = some value

/-- The revision is no business of others. -/
def OfOthers : Attachment → Prop
  | labelled _ _ => True
  | annotated name _ => name ≠ Naming.revisionAnnotation

def Stays (a : Attachment) (k : Kind) (key : ObjectKey) (w : World) : Prop :=
  ∃ o, w.store.stored? k key = some o ∧ a.On (k.metadata o)

variable {a : Attachment} {e : Environment} {key : ObjectKey} {k : Kind} {found m : ObjectMeta}

/-- What others have attached is kept when metadata is renewed. -/
theorem on_renewed (ha : a.OfOthers) (hon : a.On found) (h : e.Renews key k (some found) m) :
    a.On m := by
  cases a with
  | labelled name value =>
    have hfound : found.labelAt? name = some value := hon
    refine (h.labels name).trans ?_
    rw [Option.bind_some, hfound, Option.some_or]
  | annotated name value =>
    have hfound : found.annotationAt? name = some value := hon
    refine (h.annotations name).trans ?_
    rw [if_neg ha, Option.bind_some, hfound]

theorem stays_renewed {d : Redeploy} {o : k.Object} (ha : a.OfOthers) (hon : a.Stays k key d.before)
    (h : d.Renews key e k o) : a.Stays k key d.after := by
  obtain ⟨o', ho', hon⟩ := hon
  have hmetadata := h.metadata
  rw [ho'] at hmetadata
  exact ⟨o, h.stored, on_renewed ha hon hmetadata⟩

end Attachment

/-- Redeploys that succeed one after another, the latest first, with what others do in between. -/
inductive Redeployments (settings : Settings) (key : ObjectKey) (others : World → World → Prop)
    (first : World) : List Redeploy → World → Prop
  | first : Redeployments settings key others first [] first
  | others {past : List Redeploy} {w w' : World}
      (h : Redeployments settings key others first past w)
      (hw : others w w') : Redeployments settings key others first past w'
  | redeploy {past : List Redeploy} {d : Redeploy}
      (h : Redeployments settings key others first past d.before)
      (hd : d.Succeeds settings key) : Redeployments settings key others first (d :: past) d.after

namespace Redeployments
variable {settings : Settings} {key : ObjectKey} {others : World → World → Prop}
  {first last : World} {past : List Redeploy}

theorem succeeds (h : Redeployments settings key others first past last) :
    ∀ d ∈ past, d.Succeeds settings key := by
  induction h with
  | first => exact List.forall_mem_nil _
  | others _ _ ih => exact ih
  | redeploy _ hd ih =>
    intro d' hd'
    rcases List.mem_cons.mp hd' with rfl | hd'
    · exact hd
    · exact ih d' hd'

/-- An attachment stays on an object that is always wanted, if nobody else takes it away. -/
theorem stays (h : Redeployments settings key others first past last) {k : Kind}
    (hk : k ∈ Collection.workloadKinds) (hwanted : ∀ d ∈ past, (d.collected.wanted k).isSome = true)
    {a : Attachment} (ha : a.OfOthers)
    (hothers : ∀ w w', others w w' → a.Stays k key w → a.Stays k key w')
    (hfirst : a.Stays k key first) : a.Stays k key last := by
  induction h with
  | first => exact hfirst
  | others _ hw ih => exact hothers _ _ hw (ih hwanted)
  | @redeploy past d _ hd ih =>
    have hbefore : a.Stays k key d.before :=
      ih fun d' hd' => hwanted d' (List.mem_cons_of_mem _ hd')
    obtain ⟨o, ho⟩ := Option.isSome_iff_exists.mp (hwanted d List.mem_cons_self)
    obtain ⟨e, hleaves⟩ := hd.exists_leaves
    exact Attachment.stays_renewed ha hbefore (hleaves.renews k hk o ho)

/-- However often a workload is redeployed, for whatever revisions, whatever others do in between
and whatever fails: every redeploy that succeeds has sent what brings the objects from what was
stored to what is wanted, and has stored every object that is wanted with its metadata renewed. What
is attached to an object stays on it as long as the object is wanted and nobody else takes it
away. -/
theorem metadata_survives (h : Redeployments settings key others first past last) :
    (∀ d ∈ past, ∃ e, d.Leaves key e) ∧
    ∀ k ∈ [Kind.deployment, .service, .ingress],
      (∀ d ∈ past, (d.collected.wanted k).isSome = true) →
      ∀ a : Attachment, a.OfOthers → (∀ w w', others w w' → a.Stays k key w → a.Stays k key w') →
        a.Stays k key first → a.Stays k key last := by
  refine ⟨fun d hd => (h.succeeds d hd).exists_leaves, fun k hk hwanted a ha hothers hfirst => ?_⟩
  exact h.stays hk hwanted ha hothers hfirst

end Redeployments

namespace Sample

def asking (w : World) : World :=
  w.modify .environment key fun e => { e with spec := { e.spec with revision := some "2" } }

def redeploy (w : World) : Option Redeploy :=
  match (Collection.collect "kiln-system" {} key).run.inWorld w with
  | (.ok (some c), between) => some ⟨c, {}, w, between, ((c.step {} .deploy).inWorld between).2⟩
  | _ => none

theorem succeeds_redeploy {w : World} {d : Redeploy} (h : redeploy w = some d)
    (hd : ((d.collected.step d.status .deploy).inWorld d.between).1.next = .deployVerify) :
    d.before = w ∧ d.Succeeds {} key := by
  unfold redeploy at h
  split at h
  · rename_i c between hcollect
    cases h
    exact ⟨rfl, hcollect, hd, rfl⟩
  · cases h

def labelled : World :=
  make .deployment key { metadata := {
    name := some "web", ns := some "dev", labels := some (.ofList [("team", "red")]),
    annotations := some (.ofList [(Naming.revisionAnnotation, "0")]), resourceVersion :=
      some "7" } } first.world

end Sample

set_option maxRecDepth 100000 in
/-- A label outlives the redeploys for two revisions, the second of which is asked for in
between. -/
theorem Redeployments.metadata_survives_labelled : ∃ d₁ d₂,
    Redeployments {} Sample.key (fun w w' => w' = Sample.asking w) Sample.labelled
      [d₂, d₁] d₂.after ∧
    (∃ e, d₂.Leaves Sample.key e ∧ e.spec.revision = some "2") ∧
    (Attachment.labelled "team" "red").Stays .deployment Sample.key d₂.after := by
  have hfirst : ((Sample.redeploy Sample.labelled).map fun d =>
      ((d.collected.step d.status .deploy).inWorld d.between).1.next) = some .deployVerify := by
        decide +kernel
  have hsecond : ((Sample.redeploy Sample.labelled).bind fun d =>
      (Sample.redeploy (Sample.asking d.after)).map fun d =>
        (((d.collected.step d.status .deploy).inWorld d.between).1.next,
          (d.before.store.stored? .environment Sample.key).bind (·.spec.revision))) =
      some (.deployVerify, some "2") := by decide +kernel
  have hlabel : ((Sample.labelled.store.stored? .deployment Sample.key).bind fun d =>
      d.metadata.labelAt? "team") =
      some "red" := by decide +kernel
  obtain ⟨d₁, hd₁, hnext₁⟩ := Option.map_eq_some_iff.mp hfirst
  rw [hd₁, Option.bind_some] at hsecond
  obtain ⟨d₂, hd₂, hend⟩ := Option.map_eq_some_iff.mp hsecond
  obtain ⟨hnext₂, hrevision⟩ := Prod.mk.inj hend
  obtain ⟨hbefore₁, hsucceeds₁⟩ := Sample.succeeds_redeploy hd₁ hnext₁
  obtain ⟨hbefore₂, hsucceeds₂⟩ := Sample.succeeds_redeploy hd₂ hnext₂
  have hrun : Redeployments {} Sample.key (fun w w' => w' = Sample.asking w) Sample.labelled
      [d₂, d₁] d₂.after :=
    .redeploy (.others (.redeploy (hbefore₁ ▸ .first) hsucceeds₁) hbefore₂) hsucceeds₂
  obtain ⟨hleaves, hstays⟩ := hrun.metadata_survives
  obtain ⟨e, hsent⟩ := hleaves d₂ List.mem_cons_self
  refine ⟨d₁, d₂, hrun, ⟨e, hsent, ?_⟩, ?_⟩
  · rw [hsent.environment] at hrevision
    exact hrevision
  · refine hstays .deployment (by decide) (fun _ _ => rfl) (.labelled "team" "red") trivial ?_ ?_
    · rintro w w' rfl ⟨d, hd, hon⟩
      exact ⟨d, by rwa [Sample.asking, World.stored?_modify_of_ne (by decide)], hon⟩
    · obtain ⟨d, hd, hon⟩ := Option.bind_eq_some_iff.mp hlabel
      exact ⟨d, hd, hon⟩

end EnvOperator
