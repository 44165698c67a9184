import EnvOperator.ApiServer.Reply
import EnvOperator.Proofs.Dialogue.Rules
import EnvOperator.Snapshot.Collect

/-! # Missing objects at the API server

A reading and a deletion tell from an error reply whether the object is missing, but they go by
different members of it: the one by its reason and the other by its code. They agree on replies
whose code is that of a missing object exactly if their reason is.
-/
namespace EnvOperator

def Failure.IsNamedMissing (f : Failure) : Prop := f.reason = "NotFound"

def Failure.IsCodedMissing (f : Failure) : Prop := f.code = 404

instance (f : Failure) : Decidable f.IsNamedMissing := inferInstanceAs (Decidable (_ = _))

instance (f : Failure) : Decidable f.IsCodedMissing := inferInstanceAs (Decidable (_ = _))

theorem Failure.isNotFound_error (f : Failure) : f.error.isNotFound = true ↔ f.IsCodedMissing := by
  unfold error IsCodedMissing
  split
  · exact iff_of_true rfl ‹_›
  · refine iff_of_false ?_ ‹_›
    repeat' split
    all_goals nofun

namespace HttpReply
variable {α : Type} {c : Codec α} {reply : HttpReply}

theorem deletion_of_isFailure (h : reply.isFailure = true) :
    reply.deletion c = .error (Failure.ofReply reply).error :=
  if_pos h

theorem object?_of_isFailure (h : reply.isFailure = true) : reply.object? c =
    if (Failure.ofReply reply).IsNamedMissing then
      .ok none else .error (Failure.ofReply reply).error := by
  unfold object? object Failure.IsNamedMissing
  simp only [h, Bool.true_and, beq_iff_eq, if_true]
  rfl

end HttpReply

namespace ApiServer
variable {k : Kind} {o : k.Object} {key : ObjectKey} {path : String} {reply : HttpReply}

def answered (reply : HttpReply) (r : Request) : r.Answer := (exchange (fun _ => some reply) r).2

theorem answered_get (hpath : HttpRequest.objectPath k key "" = .ok path) :
    answered reply (.get k key) = reply.object? k.codec := by
  simp only [answered, exchange, HttpRequest.ofRequest, hpath]
  rfl

theorem answered_delete (hpath : HttpRequest.objectPath k key "" = .ok path) :
    answered reply (.delete k key) = reply.deletion k.codec := by
  simp only [answered, exchange, HttpRequest.ofRequest, hpath]
  rfl

theorem answered_get_eq_none_iff (hpath : HttpRequest.objectPath k key "" = .ok path)
    (hfail : reply.isFailure = true) :
    answered reply (.get k key) = .ok none ↔ (Failure.ofReply reply).IsNamedMissing := by
  rw [answered_get hpath, HttpReply.object?_of_isFailure hfail]
  split
  · exact iff_of_true rfl ‹_›
  · exact iff_of_false nofun ‹_›

theorem answered_delete_isNotFound_iff (hpath : HttpRequest.objectPath k key "" = .ok path)
    (hfail : reply.isFailure = true) :
    (∃ e, answered reply (.delete k key) = .error e ∧ e.isNotFound = true) ↔
      (Failure.ofReply reply).IsCodedMissing := by
  rw [answered_delete hpath, HttpReply.deletion_of_isFailure hfail, ← Failure.isNotFound_error]
  constructor
  · rintro ⟨e, he, hmissing⟩
    rwa [Except.error.inj he]
  · exact fun hmissing => ⟨_, rfl, hmissing⟩

section
variable {σ : Type} {answer : (q : Query) → σ → q.Answer × σ} {s : σ}

/-- Somebody passes requests on to a server that gives each the same reply. -/
def Passes (reply : HttpReply) (answer : (q : Query) → σ → q.Answer × σ) : Prop :=
  ∀ r s, (answer (.store r) s).1 = answered reply r

theorem Passes.get (h : Passes reply answer) :
    ((Reading.get k key).run.run answer s).1 = (answered reply (.get k key)).mapError .store :=
  congrArg (Except.mapError PassError.store) (h (.get k key) s)

/-- An object that has a key is deleted under it, and it is no error that it is missing. -/
theorem Passes.delete (h : Passes reply answer) (hkey : k.keyOf o = .ok key) :
    ((Writing.delete k o).run.run answer s).1 = match answered reply (.delete k key) with
      | .ok () => .ok ()
      | .error e => if e.isNotFound then .ok () else .error (.store e) := by
  rw [Writing.run_delete hkey, ← h (.delete k key) s]
  change Writing.deleted (answer (.store (.delete k key)) s).1 = _
  cases (answer (.store (.delete k key)) s).1 <;> rfl

end

/-- From an error reply a read takes that an object is missing if it is named so, and a deletion if
it is coded so. They agree exactly where a reply does both or neither. Otherwise one of them goes on
where the other one fails, as a pass reads and deletes. -/
theorem absence_agrees_iff (hpath : HttpRequest.objectPath k key "" = .ok path)
    (hfail : reply.isFailure = true) : let f := Failure.ofReply reply
    (answered reply (.get k key) = .ok none ↔ f.IsNamedMissing) ∧
    ((∃ e, answered reply (.delete k key) = .error e ∧ e.isNotFound = true) ↔ f.IsCodedMissing) ∧
    ((answered reply (.get k key) = .ok none ↔
        ∃ e, answered reply (.delete k key) = .error e ∧ e.isNotFound = true) ↔
      (f.IsNamedMissing ↔ f.IsCodedMissing)) ∧
    ∀ (σ : Type) (answer : (q : Query) → σ → q.Answer × σ) (s : σ) (o : k.Object),
      Passes reply answer →
      k.keyOf o = .ok key →
      ((∃ found, ((Reading.get k key).run.run answer s).1 = .ok found) ↔ f.IsNamedMissing) ∧
      (((Writing.delete k o).run.run answer s).1 = .ok () ↔ f.IsCodedMissing) := by
  intro f
  have hget : answered reply (.get k key) = .ok none ↔ f.IsNamedMissing :=
    answered_get_eq_none_iff hpath hfail
  have hdelete : (∃ e, answered reply (.delete k key) = .error e ∧ e.isNotFound = true) ↔
      f.IsCodedMissing :=
    answered_delete_isNotFound_iff hpath hfail
  refine ⟨hget, hdelete, by rw [hget, hdelete], fun σ answer s o hpasses hkey => ⟨?_, ?_⟩⟩
  · rw [hpasses.get, answered_get hpath, HttpReply.object?_of_isFailure hfail]
    split
    · exact iff_of_true ⟨none, rfl⟩ ‹_›
    · exact iff_of_false nofun ‹_›
  · rw [hpasses.delete hkey, answered_delete hpath, HttpReply.deletion_of_isFailure hfail,
      ← Failure.isNotFound_error]
    dsimp only
    split
    · exact iff_of_true rfl ‹_›
    · exact iff_of_false nofun ‹_›

end ApiServer

namespace Sample

def missing : HttpReply where
  status := 404
  body :=
    "\x7b\"status\": \"Failure\", \"message\": \"gone\", \"reason\": \"NotFound\", \"code\": 404\x7d"

def unserved : HttpReply := ⟨404, "404 page not found"⟩

theorem objectPath_job : HttpRequest.objectPath .job ⟨"dev", "web-build"⟩ "" =
    .ok "/apis/batch/v1/namespaces/dev/jobs/web-build" := by
  rfl

end Sample

/-- A missing object is missing for either. -/
theorem ApiServer.absence_agrees_missing :
    HttpRequest.objectPath .job ⟨"dev", "web-build"⟩ "" =
      .ok "/apis/batch/v1/namespaces/dev/jobs/web-build" ∧
    Sample.missing.isFailure = true ∧
    (answered Sample.missing (.get .job ⟨"dev", "web-build"⟩) = .ok none ↔
      ∃ e, answered Sample.missing (.delete .job ⟨"dev", "web-build"⟩) = .error e ∧
      e.isNotFound = true) := by
  have hfail : Sample.missing.isFailure = true := by decide
  have hnamed : (Failure.ofReply Sample.missing).IsNamedMissing := by decide +kernel
  have hcoded : (Failure.ofReply Sample.missing).IsCodedMissing := by decide +kernel
  exact ⟨Sample.objectPath_job, hfail, (absence_agrees_iff Sample.objectPath_job hfail).2.2.1.mpr
    (iff_of_true hnamed hcoded)⟩

/-- Reading fails for want of what a deletion takes for missing. -/
theorem ApiServer.absence_misread :
    Sample.unserved.isFailure = true ∧
    answered Sample.unserved (.get .job ⟨"dev", "web-build"⟩) =
      .error (.notFound "\"404 page not found\"") ∧
    answered Sample.unserved (.delete .job ⟨"dev", "web-build"⟩) =
      .error (.notFound "\"404 page not found\"") := by
  have hfail : Sample.unserved.isFailure = true := by decide
  have hnamed : ¬ (Failure.ofReply Sample.unserved).IsNamedMissing := by decide +kernel
  have herror : (Failure.ofReply Sample.unserved).error = .notFound "\"404 page not found\"" := by
    decide +kernel
  refine ⟨hfail, ?_, ?_⟩
  · rw [answered_get Sample.objectPath_job, HttpReply.object?_of_isFailure hfail, if_neg hnamed,
      herror]
  · rw [answered_delete Sample.objectPath_job, HttpReply.deletion_of_isFailure hfail, herror]

end EnvOperator
