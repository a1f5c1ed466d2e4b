import LazyDispatch.Proofs.Shape

/-! Wider predictions. A prediction that says less keeps more candidates, in the same order, and
what these predict says no more; so a chain of calls that is accepted from the narrow prediction is
accepted from the wide one. -/

namespace LazyDispatch

theorem Common.covers {few many : List Candidate} {narrow wide : Tag} (less : Common few narrow)
    (more : Common many wide) (kept : few ⊆ many) (some : few ≠ []) : wide.Covers narrow := by
  cases more with
  | mixed _ _ _ => exact .inl rfl
  | agreed same =>
      cases less with
      | agreed alike =>
          obtain ⟨candidate, member⟩ := List.exists_mem_of_ne_nil few some
          exact .inr ((same candidate (kept member)).symm.trans (alike candidate member))
      | mixed first second apart =>
          exact absurd ((same _ (kept first)).trans (same _ (kept second)).symm) apart

namespace Snapshot

variable {snapshot : Snapshot} {narrow wide : Tag} {operation : String} {args : List Value}

theorem filter_sublist_of_covers (covers : wide.Covers narrow) (args : List Value)
    (candidates : List Candidate) :
    (candidates.filter fun candidate => candidate.accepts (Value.tags narrow args)).Sublist
      (candidates.filter fun candidate => candidate.accepts (Value.tags wide args)) := by
  apply List.monotone_filter_right
  intro candidate accepted
  exact Signature.accepts_of_covers covers accepted

/-- A call planned from the narrow prediction is planned from the wide one, with no candidate less
and no more said of what comes next. -/
theorem plan_of_covers (covers : wide.Covers narrow) {step : PendingStep Value} {next : Tag}
    (planned : snapshot.plan narrow operation args = .ok (step, next)) :
    ∃ wider further, snapshot.plan wide operation args = .ok (wider, further) ∧
      step.candidates.Sublist wider.candidates ∧ further.Covers next := by
  obtain ⟨candidates, known, rfl, found⟩ := plan_eq_ok.mp planned
  have kept := filter_sublist_of_covers covers args candidates
  obtain ⟨some, common⟩ := predict?_eq_some_iff.mp found
  obtain ⟨candidate, member⟩ := List.exists_mem_of_ne_nil _ some
  have fits := Candidate.accepts_iff.mp (List.mem_filter.mp (kept.subset member)).2
  obtain ⟨wider, further, plan⟩ := plan_of_fit known (List.mem_filter.mp member).1 fits
  obtain ⟨others, also, rfl, predicted⟩ := plan_eq_ok.mp plan
  cases known.symm.trans also
  have commonly := (predict?_eq_some_iff.mp predicted).2
  exact ⟨_, further, plan, kept, common.covers commonly kept.subset some⟩

end Snapshot

namespace Stream

/-- The last calls of two streams: the one keeps some candidates of the other, in order, and
predicts what the other predicts or more. -/
structure Within (stream other : Stream Value) : Prop where
  predicted : other.predicted.Covers stream.predicted
  candidates : ∃ steps step others wider, stream.steps = steps ++ [step] ∧
    other.steps = others ++ [wider] ∧ step.candidates.Sublist wider.candidates

/-- Widening never rejects. A chain of calls that one stream accepts is accepted by any other over
the same snapshot whose prediction is the same or `any`, and call by call the other keeps all the
candidates and predicts the same or `any` again. -/
theorem widening_accepts {σ τ : Type} {first second : Stream Value}
    (same : second.snapshot = first.snapshot) (covers : second.predicted.Covers first.predicted)
    {calls : List Call} {store after : Store σ} {made : List (Stream Value)}
    (accepted : first.invokeEach calls store = some (.ok made, after)) (other : Store τ) :
    ∃ wider later, second.invokeEach calls other = some (.ok wider, later) ∧
      made.length = calls.length ∧ List.Forall₂ Within made wider := by
  induction calls generalizing first second store other made with
  | nil =>
      cases accepted
      exact ⟨[], other, rfl, rfl, .nil⟩
  | cons asked rest ih =>
      cases planned : first.snapshot.plan first.predicted asked.operation asked.args with
      | error failure =>
          rw [invokeEach_of_refused planned] at accepted
          cases accepted
      | ok plan =>
          obtain ⟨step, next⟩ := plan
          obtain ⟨wide, further, also, kept, onward⟩ := Snapshot.plan_of_covers covers planned
          rw [← same] at also
          rw [invokeEach_of_planned planned] at accepted
          obtain ⟨⟨outcome, ended⟩, ran, moved⟩ := Option.map_eq_some_iff.mp accepted
          cases outcome with
          | error failure => cases moved
          | ok longer =>
              cases moved
              have sameLater : (second.longer other.nextCell wide further).snapshot =
                  (first.longer store.nextCell step next).snapshot := same
              obtain ⟨wider, later, accepts, length, within⟩ := ih sameLater onward ran
                (other.report [.stepAppended asked.operation (Value.tags second.predicted asked.args)
                  wide.candidates.length further]).allocate
              refine ⟨second.longer other.nextCell wide further :: wider, later, ?_, ?_,
                .cons ⟨onward, _, step, _, wide, rfl, rfl, kept⟩ within⟩
              · rw [invokeEach_of_planned also, accepts]
                rfl
              · rw [List.length_cons, List.length_cons, length]

end Stream

namespace Sample

def sized : Stream Value := ⟨3, snapshot, source, .number, [⟨"size", [sizeOfList], []⟩]⟩

theorem widening_accepts_size :
    midway.snapshot = begun.snapshot ∧ midway.predicted.Covers begun.predicted ∧
      ∃ after, begun.invokeEach [⟨"size", []⟩] (store 3) = some (.ok [sized], after) ∧
        ∃ wider later, midway.invokeEach [⟨"size", []⟩] (store 3) = some (.ok wider, later) ∧
          [sized].length = 1 ∧ List.Forall₂ Stream.Within [sized] wider := by
  have same : midway.snapshot = begun.snapshot := rfl
  have covers : midway.predicted.Covers begun.predicted := .inl rfl
  have accepted : begun.invokeEach [⟨"size", []⟩] (store 3) = some (.ok [sized], _) := rfl
  exact ⟨same, covers, _, accepted, Stream.widening_accepts same covers accepted (store 3)⟩

end Sample
end LazyDispatch
