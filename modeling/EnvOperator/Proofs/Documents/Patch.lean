import EnvOperator.ApiServer.Http
import EnvOperator.Json.MergePatch
import EnvOperator.Proofs.Documents.Environment

/-! # Statuses sent as patches

A merge patch of a status changes nothing but the status. Members that the patch leaves out stay as
they were, so the status that is read back is the one that was sent as long as nothing is unset by
it.
-/
namespace EnvOperator

namespace Json

def occurrences (name : String) (ms : Members) : Nat := ms.countP fun m => m.1 == name

theorem occurrences_cons (name : String) (m : String × Json) (rest : Members) :
    occurrences name (m :: rest) = occurrences name rest + if m.1 = name then 1 else 0 := by
  simp [occurrences, List.countP_cons]

theorem lookup_of_occurrences {name : String} {ms : Members} (h : occurrences name ms = 0) :
    lookup name ms = none := by
  induction ms with
  | nil => rfl
  | cons m rest ih =>
    rw [occurrences_cons] at h
    have hne : m.1 ≠ name := by
      intro he
      simp [he] at h
    simp only [hne, if_false, Nat.add_zero] at h
    simp [lookup, hne, ih h]

theorem lookup_assign_ne {name other : String} (h : name ≠ other) (value : Json) (ms : Members) :
    lookup name (assign other value ms) = lookup name ms := by
  induction ms with
  | nil => simp [assign, lookup, h.symm]
  | cons m rest ih =>
    by_cases hm : m.1 = other
    · have hne : m.1 ≠ name := hm ▸ h.symm
      simp [assign, lookup, hm, h.symm]
    · simp [assign, lookup, hm, ih]

/-- What is assigned to a name is found under it, unless the name occurs again later on. -/
theorem lookup_assign_self {name : String} {ms : Members} (h : occurrences name ms ≤ 1)
    (value : Json) : lookup name (assign name value ms) = some value := by
  induction ms with
  | nil => simp [assign, lookup]
  | cons m rest ih =>
    rw [occurrences_cons] at h
    by_cases hm : m.1 = name
    · have hrest : occurrences name rest = 0 := by
        rw [if_pos hm] at h
        omega
      simp [assign, lookup, hm, lookup_of_occurrences hrest]
    · rw [if_neg hm, Nat.add_zero] at h
      simp [assign, lookup, hm, ih h]

theorem occurrences_assign (name other : String) (value : Json) (ms : Members) :
    occurrences name (assign other value ms) =
      if other = name then max 1 (occurrences name ms) else occurrences name ms := by
  induction ms with
  | nil => simp [assign, occurrences, List.countP_cons]
  | cons m rest ih =>
    by_cases hm : m.1 = other
    · simp only [assign, hm, if_true, occurrences_cons]
      split <;> omega
    · simp only [assign, hm, if_false, occurrences_cons, ih]
      by_cases hother : other = name
      · have hne : m.1 ≠ name := hother ▸ hm
        simp only [hother, hne, if_true, if_false, Nat.add_zero]
      · simp only [hother, if_false]

/-- A value that a merge patch puts in whole. -/
def IsPlain : Json → Prop
  | null | object _ => False
  | _ => True

theorem mergeMembers_plain {name : String} {value : Json} (h : value.IsPlain) (ms rest : Members) :
    mergeMembers ms ((name, value) :: rest) = mergeMembers (assign name value ms) rest := by
  cases value with
  | null | object => exact h.elim
  | bool | integer | decimal | string | array | unreadable => simp only [mergeMembers, mergePatch]

variable {ps : Members}

theorem occurrences_mergeMembers (hp : ∀ p ∈ ps, p.2.IsPlain) (name : String) (ms : Members) :
    occurrences name (mergeMembers ms ps) ≤ max 1 (occurrences name ms) := by
  induction ps generalizing ms with
  | nil =>
    rw [mergeMembers]
    omega
  | cons p rest ih =>
    have hle := ih (fun p hp' => hp p (List.mem_cons_of_mem _ hp')) (assign p.1 p.2 ms)
    rw [occurrences_assign] at hle
    rw [mergeMembers_plain (hp p List.mem_cons_self)]
    split at hle <;> omega

/-- After a patch of plain members each name means what the patch has for it, or else what it meant
before. -/
theorem lookup_mergeMembers (hp : ∀ p ∈ ps, p.2.IsPlain) {ms : Members} (name : String)
    (h : occurrences name ms ≤ 1) :
    lookup name (mergeMembers ms ps) = (lookup name ps).or (lookup name ms) := by
  induction ps generalizing ms with
  | nil => rw [mergeMembers, lookup, Option.none_or]
  | cons p rest ih =>
    have hassign : occurrences name (assign p.1 p.2 ms) ≤ 1 := by
      rw [occurrences_assign]
      split <;> omega
    rw [mergeMembers_plain (hp p List.mem_cons_self),
      ih (fun p hp' => hp p (List.mem_cons_of_mem _ hp')) hassign, lookup, Option.or_assoc]
    by_cases hname : p.1 = name
    · subst hname
      simp [lookup_assign_self h]
    · simp [lookup_assign_ne (Ne.symm hname), hname]

/-- The members of an object that is changed by a patch; a document of another sort is taken for an
empty one. -/
def membersOf : Json → Members
  | object ms => ms
  | _ => []

theorem mergePatch_object (target : Json) (ps : Members) :
    mergePatch target (object ps) = object (mergeMembers target.membersOf ps) := by
  cases target <;> simp only [mergePatch, membersOf]

end Json

namespace RecordCodec
variable {α : Type} {r : RecordCodec α}

theorem decodeStrict_object {ms : Json.Members} {a : α} : r.decodeStrict (.object ms) = some a ↔
    (∀ name ∈ r.names, Json.occurrences name ms ≤ 1) ∧ r.read (fun name => Json.lookup name ms) =
      some a := by
  have hany : (r.names.any fun name => 1 < ms.countP (fun m => m.1 == name)) = true ↔
      ∃ name ∈ r.names, 1 < Json.occurrences name ms := by
    simp [Json.occurrences]
  simp only [decodeStrict, hany]
  split
  · rename_i h
    obtain ⟨name, hmem, hlt⟩ := h
    constructor
    · intro h
      cases h
    · intro h
      exact absurd (h.1 name hmem) (Nat.not_le.mpr hlt)
  · rename_i h
    constructor
    · intro hr
      refine ⟨fun name hmem => ?_, hr⟩
      exact Nat.not_lt.mp fun hlt => h ⟨name, hmem, hlt⟩
    · exact And.right

theorem read_cons {β : Type} {name : String} {m : MemberCodec α} {rest : RecordCodec β}
    {f : String → Option Json} {v : α × β} :
    (cons name m rest).read f = some v ↔ m.read (f name) = some v.1 ∧ rest.read f = some v.2 := by
  obtain ⟨a, b⟩ := v
  simp [cons, Option.bind_eq_some_iff]

theorem read_imap {β : Type} {wrap : α → β} {unwrap : β → α} (hw : ∀ b, wrap (unwrap b) = b)
    (hu : ∀ a, unwrap (wrap a) = a) {f : String → Option Json} {b : β} :
    (r.imap wrap unwrap).read f = some b ↔ r.read f = some (unwrap b) := by
  simp only [imap, Option.map_eq_some_iff]
  constructor
  · rintro ⟨a, ha, rfl⟩
    rwa [hu]
  · intro h
    exact ⟨_, h, hw b⟩

end RecordCodec

/-- An optional member is read back from a patch unless it is unset there and set in what is
patched. -/
theorem MemberCodec.read_patched {α : Type} {c : Codec α} (hc : c.Lawful) {a b : Option α}
    {old : Option Json} (hold : (optional c).read old = some b) (h : b.isSome → a.isSome) :
    (optional c).read (((optional c).write a).or old) = some a := by
  cases a with
  | none =>
    cases b with
    | none => exact hold
    | some b => cases h rfl
  | some a => exact lawful_optional hc (some a)

theorem MemberCodec.read_optional {α : Type} {c : Codec α} {j : Json} {a : α} (hj : j ≠ .null)
    (h : c.decode j = some a) : (optional c).read (some j) = some (some a) := by
  cases j with
  | null => exact absurd rfl hj
  | bool | integer | decimal | string | array | object | unreadable =>
    exact congrArg (Option.map some) h

namespace EnvironmentStatus

theorem encode_eq (st : EnvironmentStatus) : codec.encode st = .object (record.write st) := rfl

structure Keeps (old new : EnvironmentStatus) : Prop where
  expectedRevision : old.expectedRevision.isSome → new.expectedRevision.isSome
  deployedRevision : old.deployedRevision.isSome → new.deployedRevision.isSome
  lastUpdated : old.lastUpdated.isSome → new.lastUpdated.isSome

theorem keeps_initial (new : EnvironmentStatus) : Keeps {} new := ⟨nofun, nofun, nofun⟩

theorem read_eq_some {f : String → Option Json} {st : EnvironmentStatus} : record.read f = some st ↔
    (MemberCodec.defaulted Stage.codec .initial).read (f "stage") = some st.stage ∧
    (MemberCodec.optional Codec.string).read (f "expectedRevision") = some st.expectedRevision ∧
    (MemberCodec.optional Codec.string).read (f "deployedRevision") = some st.deployedRevision ∧
    (MemberCodec.optional Codec.instant).read (f "lastUpdated") = some st.lastUpdated := by
  rw [record, RecordCodec.read_imap (fun _ => rfl) (fun _ => rfl)]
  simp only [RecordCodec.read_cons, RecordCodec.nil, and_true]

theorem plain_write (st : EnvironmentStatus) : ∀ p ∈ record.write st, p.2.IsPlain := by
  obtain ⟨stage, expected, deployed, updated⟩ := st
  cases expected <;> cases deployed <;> cases updated <;>
    simp [record, RecordCodec.imap, RecordCodec.cons, RecordCodec.nil, MemberCodec.defaulted,
      MemberCodec.optional, Stage.codec, Codec.imap, Codec.string, Codec.instant, Json.IsPlain]

theorem lookup_write (st : EnvironmentStatus) :
    Json.lookup "stage" (record.write st) =
      (MemberCodec.defaulted Stage.codec .initial).write st.stage ∧
    Json.lookup "expectedRevision" (record.write st) =
      (MemberCodec.optional Codec.string).write st.expectedRevision ∧
    Json.lookup "deployedRevision" (record.write st) =
      (MemberCodec.optional Codec.string).write st.deployedRevision ∧
    Json.lookup "lastUpdated" (record.write st) =
      (MemberCodec.optional Codec.instant).write st.lastUpdated := by
  obtain ⟨stage, expected, deployed, updated⟩ := st
  cases expected <;> cases deployed <;> cases updated <;> exact ⟨rfl, rfl, rfl, rfl⟩

/-- A status that keeps what is set is read back when its members have been merged into those of
another one. -/
theorem decode_merged {old new : EnvironmentStatus} {ms : Json.Members}
    (hms : record.decodeStrict (.object ms) = some old) (hk : old.Keeps new) :
    codec.decode (.object (Json.mergeMembers ms (record.write new))) = some new := by
  obtain ⟨hocc, hread⟩ := RecordCodec.decodeStrict_object.mp hms
  obtain ⟨_, hexpected, hdeployed, hupdated⟩ := read_eq_some.mp hread
  obtain ⟨hs, he, hd, hu⟩ := lookup_write new
  have hplain := plain_write new
  refine RecordCodec.decodeStrict_object.mpr
    ⟨fun name hmem => ?_, read_eq_some.mpr ⟨?_, ?_, ?_, ?_⟩⟩
  · have hle := Json.occurrences_mergeMembers hplain name ms
    have hone := hocc name hmem
    omega
  · rw [Json.lookup_mergeMembers hplain _ (hocc _ (by decide)), hs]
    exact MemberCodec.lawful_defaulted Stage.lawful _ new.stage
  · rw [Json.lookup_mergeMembers hplain _ (hocc _ (by decide)), he]
    exact MemberCodec.read_patched Codec.lawful_string hexpected hk.expectedRevision
  · rw [Json.lookup_mergeMembers hplain _ (hocc _ (by decide)), hd]
    exact MemberCodec.read_patched Codec.lawful_string hdeployed hk.deployedRevision
  · rw [Json.lookup_mergeMembers hplain _ (hocc _ (by decide)), hu]
    exact MemberCodec.read_patched Codec.lawful_instant hupdated hk.lastUpdated

theorem decode_patched {old : Option EnvironmentStatus} {new : EnvironmentStatus} {j : Option Json}
    (hold : (MemberCodec.optional codec).read j = some old) (hk : (old.getD {}).Keeps new) :
    codec.decode (Json.mergePatch (j.getD .null) (codec.encode new)) = some new := by
  have hempty : record.decodeStrict (.object []) = some {} := rfl
  have hfresh := decode_merged hempty (keeps_initial new)
  rw [encode_eq, Json.mergePatch_object]
  cases j with
  | none => exact hfresh
  | some j =>
    cases j with
    | object ms =>
      obtain ⟨st, hst, rfl⟩ := Option.map_eq_some_iff.mp hold
      exact decode_merged hst hk
    | null | bool | integer | decimal | string | array | unreadable => exact hfresh

end EnvironmentStatus

namespace Environment

theorem read_eq_some {f : String → Option Json} {e : Environment} : record.read f = some e ↔
    (MemberCodec.mandatory ObjectMeta.codec).read (f "metadata") = some e.metadata ∧
    (MemberCodec.mandatory EnvironmentSpec.codec).read (f "spec") = some e.spec ∧
    (MemberCodec.optional EnvironmentStatus.codec).read (f "status") = some e.status := by
  rw [record, RecordCodec.read_imap (fun _ => rfl) (fun _ => rfl)]
  simp only [RecordCodec.read_cons, RecordCodec.nil, and_true]

/-- A document of an environment that is patched with a status reads as the environment with that
status. -/
theorem decode_statusPatch {ms : Json.Members} {e : Environment} {st : EnvironmentStatus}
    (he : codec.decode (.object ms) = some e) (hk : e.statusOrInitial.Keeps st) :
    codec.decode (Json.mergePatch (.object ms) (HttpRequest.statusPatch st)) =
      some { e with status := some st } := by
  obtain ⟨hocc, hread⟩ := RecordCodec.decodeStrict_object.mp he
  obtain ⟨hmeta, hspec, hstatus⟩ := read_eq_some.mp hread
  have hpatched := EnvironmentStatus.decode_patched hstatus hk
  have hmerged : Json.mergePatch (.object ms) (HttpRequest.statusPatch st) =
      .object (Json.assign "status"
      (Json.mergePatch ((Json.lookup "status" ms).getD .null) (EnvironmentStatus.codec.encode st))
        ms) := by
    rw [HttpRequest.statusPatch, Json.mergePatch_object]
    rfl
  rw [hmerged]
  refine RecordCodec.decodeStrict_object.mpr ⟨fun name hmem => ?_, read_eq_some.mpr ⟨?_, ?_, ?_⟩⟩
  · have hone := hocc name hmem
    rw [Json.occurrences_assign]
    split <;> omega
  · rwa [Json.lookup_assign_ne (by decide)]
  · rwa [Json.lookup_assign_ne (by decide)]
  · rw [Json.lookup_assign_self (hocc _ (by decide))]
    refine MemberCodec.read_optional ?_ hpatched
    rw [EnvironmentStatus.encode_eq, Json.mergePatch_object]
    exact nofun

end Environment
end EnvOperator
