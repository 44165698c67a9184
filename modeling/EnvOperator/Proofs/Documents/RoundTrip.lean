import EnvOperator.Proofs.Documents.Patch
import EnvOperator.Proofs.Store.Effects
import EnvOperator.Time.OffsetLemmas

/-! # Documents that come back

What is persisted of environments and configurations is read back as it was written. Documents that
others have written may say a thing in more than one way; once read they are written in one way
only, and stay so. A name that belongs to no stage is given up for good, while an instant is kept to
the nanosecond whatever clock it was taken from.
-/
namespace EnvOperator

namespace Codec
variable {α : Type} {c : Codec α}

def rewrite (c : Codec α) (j : Json) : Option Json := (c.decode j).map c.encode

/-- Every value is read back from its document. A document that can be read is rewritten to one that
says the same, and that one to itself. -/
structure RoundTrips (c : Codec α) : Prop where
  decode_encode (v : α) : c.decode (c.encode v) = some v
  decode_rewrite (j j' : Json) (h : c.rewrite j = some j') : c.decode j' = c.decode j
  rewrite_rewrite (j j' : Json) (h : c.rewrite j = some j') : c.rewrite j' = some j'

theorem Lawful.roundTrips (h : c.Lawful) : c.RoundTrips := by
  have hrewrite {j j' : Json} (hj : c.rewrite j = some j') : c.decode j' = c.decode j := by
    obtain ⟨v, hv, rfl⟩ := Option.map_eq_some_iff.mp hj
    rw [h.decode_encode, hv]
  refine ⟨h.decode_encode, fun j j' => hrewrite, fun j j' hj => ?_⟩
  rw [rewrite, hrewrite hj]
  exact hj

end Codec

/-- A member of a readable object is replaced by what the new one says, and no other one changes. -/
theorem RecordCodec.decodeStrict_assign {α : Type} {r : RecordCodec α} {ms : Json.Members} {a b : α}
    {name : String} {j : Json} (hms : r.decodeStrict (.object ms) = some a) (hname : name ∈ r.names)
    (hread : r.read (fun n => if n = name then some j else Json.lookup n ms) = some b) :
    r.decodeStrict (.object (Json.assign name j ms)) = some b := by
  obtain ⟨hocc, _⟩ := decodeStrict_object.mp hms
  have hlookup : (fun n => Json.lookup n (Json.assign name j ms)) =
      fun n => if n = name then some j else Json.lookup n ms := by
    funext n
    split
    · rename_i h
      rw [h, Json.lookup_assign_self (hocc name hname)]
    · rename_i h
      rw [Json.lookup_assign_ne h]
  refine decodeStrict_object.mpr ⟨fun n hn => ?_, hlookup ▸ hread⟩
  have hone := hocc n hn
  rw [Json.occurrences_assign]
  split <;> omega

namespace Stage

theorem ofName_unknown {text : String} (h : ∀ stage : Stage, stage.name ≠ text) :
    ofName text = failed := by
  have hnone : all.find? (fun stage => stage.name == text) = none := by
    rw [List.find?_eq_none]
    intro stage _
    simpa using h stage
  rw [ofName, hnone, Option.getD_none]

theorem ofName_cases (text : String) :
    (ofName text).name = text ∨ (∀ stage : Stage, stage.name ≠ text) ∧ ofName text = failed := by
  by_cases h : ∃ stage : Stage, stage.name = text
  · obtain ⟨stage, rfl⟩ := h
    exact .inl (congrArg name (ofName_name stage))
  · have hunknown : ∀ stage : Stage, stage.name ≠ text := not_exists.mp h
    exact .inr ⟨hunknown, ofName_unknown hunknown⟩

end Stage

namespace EnvironmentStatus
variable {ms : Json.Members} {st : EnvironmentStatus}

theorem decode_stage (h : codec.decode (.object ms) = some st) (text : String) :
    codec.decode (.object (Json.assign "stage" (.string text) ms)) =
      some { st with stage := .ofName text } := by
  obtain ⟨_, hread⟩ := RecordCodec.decodeStrict_object.mp h
  obtain ⟨_, hexpected, hdeployed, hupdated⟩ := read_eq_some.mp hread
  exact RecordCodec.decodeStrict_assign h (by decide)
    (read_eq_some.mpr ⟨rfl, hexpected, hdeployed, hupdated⟩)

theorem decode_lastUpdated (h : codec.decode (.object ms) = some st) {text : String} {t : Instant}
    (ht : Rfc3339.read text = some t) :
    codec.decode (.object (Json.assign "lastUpdated" (.string text) ms)) =
      some { st with lastUpdated := some t } := by
  obtain ⟨_, hread⟩ := RecordCodec.decodeStrict_object.mp h
  obtain ⟨hstage, hexpected, hdeployed, _⟩ := read_eq_some.mp hread
  have hupdated : (MemberCodec.optional Codec.instant).read (some (.string text)) = some (some t) :=
    MemberCodec.read_optional nofun ht
  exact RecordCodec.decodeStrict_assign h (by decide)
    (read_eq_some.mpr ⟨hstage, hexpected, hdeployed, hupdated⟩)

theorem member?_stage (st : EnvironmentStatus) :
    (codec.encode st).member? "stage" = some (.string st.stage.name) :=
  (lookup_write st).1

end EnvironmentStatus

namespace MemoryStore

theorem read_updateStatus (s : MemoryStore) (key : ObjectKey) (st : EnvironmentStatus) :
    ((s.updateStatus key st).1 = .ok () ↔ ∃ e, s.read .environment key = .ok (some e)) ∧
    ∀ e, s.read .environment key = .ok (some e) →
      (s.updateStatus key st).2.read .environment key =
        .ok (some { e with status := some st }) := by
  cases s.statusUpdate key st with
  | unreadable hread hc | absent hread hc => simp [hread, hc]
  | @made e hread hc =>
    refine ⟨iff_of_true (congrArg Prod.fst hc) ⟨e, hread⟩, fun e' he' => ?_⟩
    obtain rfl : e = e' := Option.some.inj (Except.ok.inj (hread.symm.trans he'))
    rw [hc]
    exact read_eq_some.mpr (stored?_of_insert rfl)

end MemoryStore

/-- Specifications, configurations and statuses come back from their documents. Whatever a status
document says of the stage and of the time of the last update is understood, with all else as it
was, and kept from then on. So the status that is written to a store is the one that is read from
it. -/
theorem persisted_roundTrips :
    EnvironmentSpec.codec.RoundTrips ∧ EnvironmentConfigSpec.codec.RoundTrips ∧
    EnvironmentStatus.codec.RoundTrips ∧
    (∀ (ms : Json.Members) (st : EnvironmentStatus), EnvironmentStatus.codec.decode (.object ms) =
      some st →
      (∀ text : String, ∃ stage : Stage,
        EnvironmentStatus.codec.decode (.object (Json.assign "stage" (.string text) ms)) =
          some { st with stage } ∧
        (stage.name = text ∨ (∀ known : Stage, known.name ≠ text) ∧ stage = .failed) ∧
        (EnvironmentStatus.codec.encode { st with stage }).member? "stage" =
          some (.string stage.name)) ∧
      ∀ (t clock : Instant) (o : Rfc3339.Offset), t.atOffset? (-o.seconds) = some clock →
        EnvironmentStatus.codec.decode
          (.object (Json.assign "lastUpdated" (.string (Rfc3339.writeAt clock o)) ms)) =
          some { st with lastUpdated := some t }) ∧
    (∀ (t : Instant) (o : Rfc3339.Offset), firstYear < t.date.year → t.date.year < lastYear →
      ∃ clock, t.atOffset? (-o.seconds) = some clock) ∧
    ∀ (s : MemoryStore) (key : ObjectKey) (st : EnvironmentStatus),
      ((s.updateStatus key st).1 = .ok () ↔ ∃ e, s.read .environment key = .ok (some e)) ∧
      ∀ e, s.read .environment key = .ok (some e) →
        (s.updateStatus key st).2.read .environment key =
          .ok (some { e with status := some st }) := by
  refine ⟨EnvironmentSpec.lawful.roundTrips, EnvironmentConfigSpec.lawful.roundTrips,
    EnvironmentStatus.lawful.roundTrips, fun ms st hst =>
      ⟨fun text => ?_, fun t clock o hclock => ?_⟩,
    fun t o hfirst hlast => Rfc3339.exists_shown t o ⟨hfirst, hlast⟩, MemoryStore.read_updateStatus⟩
  · exact ⟨.ofName text, EnvironmentStatus.decode_stage hst text, Stage.ofName_cases text,
      EnvironmentStatus.member?_stage _⟩
  · exact EnvironmentStatus.decode_lastUpdated hst (Rfc3339.read_writeAt_of_shown hclock)

namespace Sample

/-- A clock two hours behind universal time that still shows the leap day. -/
def leapDay : Instant := ⟨⟨2024, 2, 29, by decide⟩, 84600, 123456789, by decide⟩

def twoHoursBehind : Rfc3339.Offset := ⟨true, 2, 0, by decide⟩

def nextDay : Instant := ⟨⟨2024, 3, 1, by decide⟩, 5400, 123456789, by decide⟩

def readableStore : MemoryStore where
  objects := (∅ : SortedMap ObjectId Json).insert ⟨.environment, ⟨"dev", "web"⟩⟩
    (Environment.codec.encode { metadata := { name := some "web", ns := some "dev" }, spec := {} })

end Sample

/-- Half past eleven at night on a leap day, two hours behind universal time; a stage that nobody
knows; and a status in a store. -/
theorem persisted_roundTrips_sample :
    Rfc3339.writeAt Sample.leapDay Sample.twoHoursBehind = "2024-02-29T23:30:00.123456789-02:00" ∧
    EnvironmentStatus.codec.decode (.object [("stage", .string "Deployed"),
      ("lastUpdated", .string (Rfc3339.writeAt Sample.leapDay Sample.twoHoursBehind))]) =
      some { stage := .deployed, lastUpdated := some Sample.nextDay } ∧
    EnvironmentStatus.codec.decode (.object [("stage", .string "Paused")]) =
      some { stage := .failed } ∧
    ∃ e : Environment,
      (Sample.readableStore.updateStatus ⟨"dev", "web"⟩ { stage := .failed }).2.read .environment
      ⟨"dev", "web"⟩ = .ok (some { e with status := some { stage := .failed } }) := by
  obtain ⟨_, _, _, hstatus, _, hstore⟩ := persisted_roundTrips
  obtain ⟨hstage, hupdated⟩ := hstatus [("stage", .string "Deployed")] { stage := .deployed } rfl
  refine ⟨by decide, hupdated Sample.nextDay Sample.leapDay Sample.twoHoursBehind (by decide),
    ?_, ?_⟩
  · obtain ⟨stage, hdecode, hname, _⟩ := hstage "Paused"
    obtain hname | ⟨_, rfl⟩ := hname
    · cases stage <;> exact absurd hname (by decide)
    · exact hdecode
  · exact ⟨_, (hstore Sample.readableStore ⟨"dev", "web"⟩ { stage := .failed }).2 _
      (MemoryStore.read_eq_some.mpr (MemoryStore.stored?_of_insert (s := {}) rfl))⟩

end EnvOperator
