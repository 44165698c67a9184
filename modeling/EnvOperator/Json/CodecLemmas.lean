import EnvOperator.Json.Codec
import EnvOperator.Time.Rfc3339Lemmas

/-! # Lawful codecs

A codec is lawful if every value is read back from its document and no document
is null, so that a value can be told from its absence. Records are lawful if
their members are and no two members share a name.
-/
namespace EnvOperator

namespace Json

theorem lookup_eq_none {name : String} {ms : Members} (h : name ∉ ms.map Prod.fst) :
    lookup name ms = none := by
  induction ms with
  | nil => rfl
  | cons m rest ih =>
    simp only [List.map_cons, List.mem_cons, not_or] at h; simp [lookup, ih h.2, Ne.symm h.1]

/-- Without repeated names every member counts. -/
theorem overwritten_eq_nil {ms : Members} (h : (ms.map Prod.fst).Nodup) : overwritten ms = [] := by
  induction ms with
  | nil => rfl
  | cons m rest ih =>
    have ⟨hm, hr⟩ := List.nodup_cons.mp h
    simp [overwritten, lookup_eq_none hm, ih hr]

end Json

structure Codec.Lawful {α : Type} (c : Codec α) : Prop where
  decode_encode (a : α) : c.decode (c.encode a) = some a
  encode_ne_null (a : α) : c.encode a ≠ .null

def MemberCodec.Lawful {α : Type} (m : MemberCodec α) : Prop := ∀ a, m.read (m.write a) = some a

/-- A record that is read back as long as no two of its members share a name. -/
structure RecordCodec.Lawful {α : Type} (r : RecordCodec α) : Prop where
  sublist (a : α) : ((r.write a).map Prod.fst).Sublist r.names
  read_congr {f g : String → Option Json} : (∀ n ∈ r.names, f n = g n) → r.read f = r.read g
  read_write (hn : r.names.Nodup) (a : α) : r.read (fun n => Json.lookup n (r.write a)) = some a

namespace Codec
variable {α β : Type}

theorem lawful_string : string.Lawful := ⟨fun _ => rfl, fun _ => by simp [string]⟩

theorem lawful_bool : bool.Lawful := ⟨fun _ => rfl, fun _ => by simp [bool]⟩

theorem lawful_ranged {least greatest : Int} {ofInt : Int → α} {toInt : α → Int}
    (hr : ∀ a, least ≤ toInt a ∧ toInt a ≤ greatest) (hi : ∀ a, ofInt (toInt a) = a) :
    (ranged least greatest ofInt toInt).Lawful :=
  ⟨fun a => by simp [ranged, hr a, hi a], fun _ => by simp [ranged]⟩

theorem lawful_int32 : int32.Lawful :=
  lawful_ranged (fun a => ⟨a.le_toInt, by have := a.toInt_lt; omega⟩) Int32.ofInt_toInt

theorem lawful_int64 : int64.Lawful :=
  lawful_ranged (fun a => ⟨a.le_toInt, by have := a.toInt_lt; omega⟩) Int64.ofInt_toInt

theorem lawful_intOrString : intOrString.Lawful := by
  refine ⟨fun a => ?_, fun a => ?_⟩ <;> cases a with
  | int i =>
    have := lawful_int32.decode_encode i
    simp_all [intOrString, int32, ranged]
  | string s => simp [intOrString]

theorem lawful_anything : anything.Lawful :=
  ⟨fun j => by simp [anything, j.property], fun j => j.property.1⟩

theorem decodeItems_map {c : Codec α} (h : c.Lawful) (xs : List α) :
    decodeItems c (xs.map c.encode) = some xs := by
  induction xs with
  | nil => rfl
  | cons x xs ih => simp [decodeItems, h.decode_encode, ih]

theorem lawful_list {c : Codec α} (h : c.Lawful) : (list c).Lawful :=
  ⟨decodeItems_map h, fun _ => by simp [list]⟩

theorem decodeBindings_map {c : Codec α} (h : c.Lawful) (xs : List (String × α)) :
    decodeBindings c (xs.map fun e => (e.1, c.encode e.2)) = some xs := by
  induction xs with
  | nil => rfl
  | cons x xs ih => simp [decodeBindings, h.decode_encode, ih]

theorem lawful_map {c : Codec α} (h : c.Lawful) : (map c).Lawful :=
  ⟨fun m => by simp [map, decodeBindings_map h], fun _ => by simp [map]⟩

theorem Lawful.imap {c : Codec α} (h : c.Lawful) {wrap : α → β} {unwrap : β → α}
    (hw : ∀ b, wrap (unwrap b) = b) : (c.imap wrap unwrap).Lawful :=
  ⟨fun b => by simp [Codec.imap, h.decode_encode, hw], fun b => h.encode_ne_null _⟩

end Codec
namespace MemberCodec
variable {α : Type} {c : Codec α}

theorem lawful_optional (h : c.Lawful) : (optional c).Lawful := by
  rintro (_ | a)
  · rfl
  · have := h.decode_encode a
    have hn := h.encode_ne_null a
    simp only [optional, Option.map_some]
    cases hc : c.encode a <;> simp_all

theorem lawful_required (h : c.Lawful) (empty : α) : (required c empty).Lawful := by
  intro a
  have := h.decode_encode a
  have hn := h.encode_ne_null a
  simp only [required]
  cases hc : c.encode a <;> simp_all

theorem lawful_defaulted (h : c.Lawful) (default : α) : (defaulted c default).Lawful :=
  h.decode_encode

theorem lawful_mandatory (h : c.Lawful) : (mandatory c).Lawful := h.decode_encode

end MemberCodec

namespace RecordCodec
variable {α β : Type}

theorem lawful_nil : nil.Lawful := ⟨fun _ => .slnil, fun _ => rfl, fun _ _ => rfl⟩

theorem lawful_cons {name : String} {m : MemberCodec α} {rest : RecordCodec β} (hm : m.Lawful)
    (hr : rest.Lawful) : (cons name m rest).Lawful where
  sublist v := by
    have := hr.sublist v.2
    cases hw : m.write v.1 <;> simp [cons, hw, this, List.Sublist.cons]
  read_congr {f g} h := by
    have h1 := h name (by simp [cons])
    have h2 := hr.read_congr (f := f) (g := g) fun n hn => h n (by simp [cons, hn])
    simp [cons, h1, h2]
  read_write hd v := by
    have ⟨hn, hd⟩ := List.nodup_cons.mp hd
    have hnot : name ∉ (rest.write v.2).map Prod.fst := fun h => hn ((hr.sublist v.2).subset h)
    have h1 : Json.lookup name ((cons name m rest).write v) = m.write v.1 := by
      cases hw : m.write v.1 <;> simp [cons, hw, Json.lookup, Json.lookup_eq_none hnot]
    have h2 : ∀ n ∈ rest.names, Json.lookup n ((cons name m rest).write v) =
        Json.lookup n (rest.write v.2) := by
      intro n hmem
      have hne : name ≠ n := fun h => hn (h ▸ hmem)
      cases hw : m.write v.1 <;> simp [cons, hw, Json.lookup, hne]
    have h3 := hr.read_congr h2
    simp only [hr.read_write hd] at h3
    have := hm v.1
    simp only [cons] at h1 h3 ⊢
    simp [h1, h3, this]

theorem Lawful.imap {r : RecordCodec α} (h : r.Lawful) {wrap : α → β} {unwrap : β → α}
    (hw : ∀ b, wrap (unwrap b) = b) : (r.imap wrap unwrap).Lawful where
  sublist b := h.sublist (unwrap b)
  read_congr hf := by simp [RecordCodec.imap, h.read_congr hf]
  read_write hn b := by simp [RecordCodec.imap, h.read_write hn, hw]

theorem readMembers_eq {r : RecordCodec α} {ms : Json.Members} (h : (ms.map Prod.fst).Nodup) :
    r.readMembers ms = r.read fun name => Json.lookup name ms := by
  simp [readMembers, Json.overwritten_eq_nil h]

theorem Lawful.object {r : RecordCodec α} (h : r.Lawful) (hn : r.names.Nodup) : r.object.Lawful :=
  ⟨fun a => (readMembers_eq ((h.sublist a).nodup hn)).trans (h.read_write hn a),
    fun _ => by simp [RecordCodec.object]⟩

end RecordCodec
namespace Codec
variable {α β : Type}

theorem lawful_bytes : bytes.Lawful := ⟨Base64.decode_encode, fun _ => by simp [bytes]⟩

theorem lawful_instant : instant.Lawful := ⟨Rfc3339.read_write, fun _ => by simp [instant]⟩

theorem lawful_timestamp : timestamp.Lawful :=
  ⟨fun t => by simp [timestamp, Rfc3339.read_write, Timestamp.ofInstant_instant],
    fun _ => by simp [timestamp]⟩

end Codec

namespace RecordCodec
variable {α β : Type}

theorem Lawful.strict {r : RecordCodec α} (h : r.Lawful) (hd : r.names.Nodup) :
    r.strict.Lawful := by
  refine ⟨fun a => ?_, fun _ => by simp [RecordCodec.strict]⟩
  have hn := List.nodup_iff_count.mp ((h.sublist a).nodup hd)
  have : (r.names.any fun name => 1 < (r.write a).countP (fun m => m.1 == name)) = false := by
    simp only [List.any_eq_false, decide_eq_true_eq]
    intro name _
    have := hn name
    rw [List.count_eq_countP, List.countP_map] at this
    exact Nat.not_lt.mpr this
  simp only [RecordCodec.strict, decodeStrict, this]
  exact h.read_write hd a

theorem nodup_typeMembers {names : List String} (hd : ("apiVersion" :: "kind" :: names).Nodup) :
    "apiVersion" ∉ names ∧ "kind" ∉ names ∧ names.Nodup := by
  simp_all

theorem lookup_typeMembers {r : RecordCodec α} (h : r.Lawful) (hv : "apiVersion" ∉ r.names)
    (hk : "kind" ∉ r.names) (apiVersion kind : String) (a : α) :
    (∀ n ∈ r.names, Json.lookup n (typeMembers apiVersion kind ++ r.write a) =
      Json.lookup n (r.write a)) ∧
    Json.lookup "apiVersion" (typeMembers apiVersion kind ++ r.write a) =
      some (.string apiVersion) ∧
    Json.lookup "kind" (typeMembers apiVersion kind ++ r.write a) = some (.string kind) := by
  have hs := h.sublist a
  have h1 : Json.lookup "apiVersion" (r.write a) = none :=
    Json.lookup_eq_none fun hm => hv (hs.subset hm)
  have h2 : Json.lookup "kind" (r.write a) = none := Json.lookup_eq_none fun hm => hk (hs.subset hm)
  refine ⟨fun n hn => ?_, ?_, ?_⟩
  · have h3 : n ≠ "apiVersion" := fun e => hv (e ▸ hn)
    have h4 : n ≠ "kind" := fun e => hk (e ▸ hn)
    simp [typeMembers, Json.lookup, Ne.symm h3, Ne.symm h4]
  · simp [typeMembers, Json.lookup, h1]
  · simp [typeMembers, Json.lookup, h2]

theorem Lawful.ofKind {r : RecordCodec α} (h : r.Lawful)
    (hd : ("apiVersion" :: "kind" :: r.names).Nodup) (apiVersion kind : String) :
    (r.ofKind apiVersion kind).Lawful := by
  have hs := fun a => ((h.sublist a).cons_cons "kind").cons_cons "apiVersion"
  obtain ⟨hv, hk, hd'⟩ := nodup_typeMembers hd
  refine ⟨fun a => ?_, fun _ => by simp [RecordCodec.ofKind]⟩
  obtain ⟨h1, _, _⟩ := lookup_typeMembers h hv hk apiVersion kind a
  have h2 : ∀ m ∈ r.write a, m.1 ≠ "apiVersion" ∧ m.1 ≠ "kind" := fun m hm =>
    have hmem := (h.sublist a).subset (List.mem_map_of_mem (f := Prod.fst) hm)
    ⟨fun e => hv (e ▸ hmem), fun e => hk (e ▸ hmem)⟩
  have h3 : ((typeMembers apiVersion kind ++ r.write a).all fun m =>
      (typeMembers apiVersion kind).all fun t => m.1 != t.1 || m.2 == t.2) = true := by
    simp only [List.all_append, Bool.and_eq_true, List.all_eq_true]
    refine ⟨by simp [typeMembers], fun m hm => ?_⟩
    simp [typeMembers, h2 m hm]
  have hnd : ((typeMembers apiVersion kind ++ r.write a).map Prod.fst).Nodup := by
    simpa [typeMembers] using (hs a).nodup hd
  simp only [RecordCodec.ofKind, h3, if_true]
  rw [readMembers_eq hnd, h.read_congr h1, h.read_write hd']

theorem Lawful.asKind {r : RecordCodec α} (h : r.Lawful)
    (hd : ("apiVersion" :: "kind" :: r.names).Nodup) (apiVersion kind : String) :
    (r.asKind apiVersion kind).Lawful := by
  obtain ⟨hv, hk, hd⟩ := nodup_typeMembers hd
  refine ⟨fun a => ?_, fun _ => by simp [RecordCodec.asKind]⟩
  obtain ⟨h1, h2, h3⟩ := lookup_typeMembers h hv hk apiVersion kind a
  have hn := List.nodup_iff_count.mp ((h.sublist a).nodup hd)
  have : (r.names.any fun name => 1 < (typeMembers apiVersion kind ++ r.write a).countP
      (fun m => m.1 == name)) =
      false := by
    simp only [List.any_eq_false, decide_eq_true_eq]
    intro name hmem
    have h5 : "apiVersion" ≠ name := fun e => hv (e ▸ hmem)
    have h6 : "kind" ≠ name := fun e => hk (e ▸ hmem)
    have := hn name
    rw [List.count_eq_countP, List.countP_map] at this
    rw [List.countP_append]
    simp only [typeMembers, List.countP_cons, List.countP_nil, beq_iff_eq, h5, h6, if_false,
      Nat.zero_add, Nat.add_zero]
    exact Nat.not_lt.mpr this
  simp only [RecordCodec.asKind, decodeStrict, this]
  exact (h.read_congr h1).trans (h.read_write hd a)

end RecordCodec

end EnvOperator
