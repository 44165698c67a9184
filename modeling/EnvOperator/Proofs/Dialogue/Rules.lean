import EnvOperator.Pipeline.Deploy
import EnvOperator.Pipeline.World

/-! # Rules for dialogues

A dialogue obeys a rule if it asks only certain questions and ends only in certain results, as long
as every answer it gets is sound. Rules are put together along the dialogue, and whoever answers
soundly while keeping an invariant can rely on them.
-/
namespace EnvOperator
namespace Dialogue
variable {α β σ : Type}

/-- As long as the answers are `sound`, only questions of `P` are asked, and the result is one of
`Q`. -/
def Obeys (sound : (q : Query) → q.Answer → Prop) (P : Query → Prop) (Q : α → Prop) :
    Dialogue α → Prop
  | done a => Q a
  | ask q next => P q ∧ ∀ answer, sound q answer → (next answer).Obeys sound P Q

def asked (answer : (q : Query) → σ → q.Answer × σ) : Dialogue α → σ → List Query
  | done _, _ => []
  | ask q next, s => q :: (next (answer q s).1).asked answer (answer q s).2

def exchanged (answer : (q : Query) → σ → q.Answer × σ) :
    Dialogue α → σ → List ((q : Query) × q.Answer)
  | done _, _ => []
  | ask q next, s => ⟨q, (answer q s).1⟩ :: (next (answer q s).1).exchanged answer (answer q s).2

section Obeys
variable {sound sound' : (q : Query) → q.Answer → Prop} {P P' : Query → Prop} {Q Q' : α → Prop}
  {R : β → Prop}

theorem obeys_pure {a : α} (h : Q a) : (pure a : Dialogue α).Obeys sound P Q := h

theorem Obeys.bind {d : Dialogue α} {f : α → Dialogue β} (h : d.Obeys sound P Q)
    (hf : ∀ a, Q a → (f a).Obeys sound P R) : (d >>= f).Obeys sound P R := by
  induction d with
  | done a => exact hf a h
  | ask q next ih => exact ⟨h.1, fun answer hs => ih answer (h.2 answer hs)⟩

theorem Obeys.mono {d : Dialogue α} (h : d.Obeys sound P Q) (hs : ∀ q a, sound' q a → sound q a)
    (hP : ∀ q, P q → P' q) (hQ : ∀ a, Q a → Q' a) : d.Obeys sound' P' Q' := by
  induction d with
  | done a => exact hQ a h
  | ask q next ih => exact ⟨hP q h.1, fun answer ha => ih answer (h.2 answer (hs q answer ha))⟩

/-- Nothing has to be assumed of answers if every answer to the questions that are asked is
sound. -/
theorem Obeys.of_always {d : Dialogue α} (h : d.Obeys sound P Q) (hs : ∀ q, P q → ∀ a, sound q a) :
    d.Obeys (fun _ _ => True) P Q := by
  induction d with
  | done a => exact h
  | ask q next ih => exact ⟨h.1, fun a _ => ih a (h.2 a (hs q h.1 a))⟩

theorem obeys_request {r : Request} {Q : r.Answer → Prop} (hP : P (.store r))
    (hQ : ∀ a, sound (.store r) a → Q a) : (request r).Obeys sound P Q := ⟨hP, hQ⟩

theorem obeys_hasTag {url repository tag : String} {Q : Except RegistryError Bool → Prop}
    (hP : P (.tags url repository))
    (hQ : ∀ a, sound (.tags url repository) a → Q (a.map (·.contains tag))) :
    (hasTag url repository tag).Obeys sound P Q := ⟨hP, hQ⟩

variable {answer : (q : Query) → σ → q.Answer × σ} {I : σ → Prop}

/-- Who answers soundly and keeps an invariant gets a result that obeys the rule, and has kept the
invariant. -/
theorem Obeys.run {d : Dialogue α} (h : d.Obeys sound P Q) {s : σ} (hI : I s)
    (hstep : ∀ q s, P q → I s → sound q (answer q s).1 ∧ I (answer q s).2) :
    Q (d.run answer s).1 ∧ I (d.run answer s).2 := by
  induction d generalizing s with
  | done a => exact ⟨h, hI⟩
  | ask q next ih =>
    obtain ⟨hs, hI'⟩ := hstep q s h.1 hI
    exact ih _ (h.2 _ hs) hI'

theorem Obeys.asked {d : Dialogue α} (h : d.Obeys sound P Q) {s : σ} (hI : I s)
    (hstep : ∀ q s, P q → I s → sound q (answer q s).1 ∧ I (answer q s).2) :
    ∀ q ∈ d.asked answer s, P q := by
  induction d generalizing s with
  | done a => intro q hq; cases hq
  | ask q next ih =>
    obtain ⟨hs, hI'⟩ := hstep q s h.1 hI
    intro q' hq
    rcases List.mem_cons.mp hq with rfl | hq
    · exact h.1
    · exact ih _ (h.2 _ hs) hI' q' hq

theorem Obeys.inWorld {d : Dialogue α} {I : World → Prop} {w : World} (h : d.Obeys sound P Q)
    (hI : I w) (hstep : ∀ q w, P q → I w → sound q (World.answer q w).1 ∧ I (World.answer q w).2) :
    Q (d.inWorld w).1 ∧ I (d.inWorld w).2 :=
  h.run hI hstep

end Obeys

theorem run_bind_eq (answer : (q : Query) → σ → q.Answer × σ) (d : Dialogue α) (f : α → Dialogue β)
    (s : σ) : (d >>= f).run answer s = (f (d.run answer s).1).run answer (d.run answer s).2 :=
  run_bind answer d f s

theorem asked_bind (answer : (q : Query) → σ → q.Answer × σ) (d : Dialogue α) (f : α → Dialogue β)
    (s : σ) :
    (d >>= f).asked answer s = d.asked answer s ++ (f (d.run answer s).1).asked answer
      (d.run answer s).2 := by
  induction d generalizing s with
  | done a => rfl
  | ask q next ih => exact congrArg (q :: ·) (ih _ _)

theorem asked_bind_ok {ε : Type} {answer : (q : Query) → σ → q.Answer × σ}
    {x : ExceptT ε Dialogue α} {f : α → ExceptT ε Dialogue β} {s s' : σ} {b : β}
    (h : (x >>= f).run.run answer s = (.ok b, s')) :
    ∃ a s₁, x.run.run answer s = (.ok a, s₁) ∧ (f a).run.run answer s₁ = (.ok b, s') ∧
      (x >>= f).run.asked answer s = x.run.asked answer s ++ (f a).run.asked answer s₁ := by
  have hasked : (x >>= f).run.asked answer s = _ := asked_bind answer x.run (ExceptT.bindCont f) s
  have hrun : (x >>= f).run.run answer s = _ := run_bind_eq answer x.run (ExceptT.bindCont f) s
  rw [h] at hrun
  rw [hasked]
  generalize x.run.run answer s = ended at hrun ⊢
  rcases ended with ⟨e | a, s₁⟩
  · cases hrun
  · exact ⟨a, s₁, rfl, hrun.symm, rfl⟩

theorem exchanged_bind (answer : (q : Query) → σ → q.Answer × σ) (d : Dialogue α)
    (f : α → Dialogue β) (s : σ) : (d >>= f).exchanged answer s =
      d.exchanged answer s ++ (f (d.run answer s).1).exchanged answer (d.run answer s).2 := by
  induction d generalizing s with
  | done a => rfl
  | ask q next ih => exact congrArg (⟨q, (answer q s).1⟩ :: ·) (ih _ _)

theorem map_exchanged (answer : (q : Query) → σ → q.Answer × σ) (d : Dialogue α) (s : σ) :
    (d.exchanged answer s).map Sigma.fst = d.asked answer s := by
  induction d generalizing s with
  | done a => rfl
  | ask q next ih => exact congrArg (q :: ·) (ih _ _)

theorem mem_asked {answer : (q : Query) → σ → q.Answer × σ} {d : Dialogue α} {s : σ}
    {x : (q : Query) × q.Answer} (h : x ∈ d.exchanged answer s) : x.1 ∈ d.asked answer s := by
  rw [← map_exchanged]
  exact List.mem_map_of_mem h

theorem asked_map (answer : (q : Query) → σ → q.Answer × σ) (f : α → β) (d : Dialogue α) (s : σ) :
    (f <$> d).asked answer s = d.asked answer s := by
  rw [← bind_pure_comp, asked_bind]
  exact List.append_nil _

theorem inWorld_map (f : α → β) (d : Dialogue α) (w : World) :
    (f <$> d).inWorld w = (f (d.inWorld w).1, (d.inWorld w).2) := by
  rw [← bind_pure_comp]
  exact run_bind_eq World.answer d (pure ∘ f) w

theorem inWorld_bind {d : Dialogue α} {f : α → Dialogue β} {w w₁ : World} {a : α}
    (h : d.inWorld w = (a, w₁)) : (d >>= f).inWorld w = (f a).inWorld w₁ := by
  have hb := run_bind_eq World.answer d f w
  change d.run World.answer w = (a, w₁) at h
  rw [h] at hb
  exact hb

theorem inWorld_bind_iff {d : Dialogue α} {f : α → Dialogue β} {w w' : World} {b : β} :
    (d >>= f).inWorld w = (b, w') ↔ ∃ a w₁, d.inWorld w = (a, w₁) ∧ (f a).inWorld w₁ = (b, w') :=
  ⟨fun h => ⟨_, _, rfl, (inWorld_bind rfl).symm.trans h⟩, fun ⟨_, _, h₁, h₂⟩ =>
    (inWorld_bind h₁).trans h₂⟩

end Dialogue
end EnvOperator
