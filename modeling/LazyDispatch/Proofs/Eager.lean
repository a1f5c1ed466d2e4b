import LazyDispatch.Proofs.Mirroring
import LazyDispatch.Proofs.Prediction

/-! Lazy dispatch against eager dispatch. The eager interpreter looks at every candidate of an
operation, with the actual value in hand, call by call. A stream whose callables return what they
declare comes to the same: the same callables on the same arguments, and the same end. -/

namespace LazyDispatch

variable {σ : Type}

/-- How eager dispatch ends: with a value, at a call that no candidate accepts, or at a callable
that fails. -/
inductive Ending where
  | value (value : Value)
  | mismatch (index : Nat) (operation : String) (types : List Tag)
  | failed (failure : Failure)

structure Trial (σ : Type) where
  runs : List Application
  ending : Ending
  store : Store σ

def Snapshot.eager (snapshot : Snapshot) (call : Callable → List Value → Run σ Value) :
    Nat → Value → List Call → Store σ → Option (Trial σ)
  | _, current, [], store => some ⟨[], .value current, store⟩
  | index, current, asked :: rest, store =>
    let types := Value.tags current.tag asked.args
    match snapshot.choose? asked.operation types with
    | none => some ⟨[], .mismatch index asked.operation types, store⟩
    | some candidate =>
      let input := current :: asked.args
      let begun := store.report [.stepResolved asked.operation index types candidate.signature]
      match call candidate.callable input begun with
      | none => none
      | some (.error failure, after) =>
        some ⟨[⟨candidate.callable, input⟩], .failed failure, after⟩
      | some (.ok next, after) =>
        (snapshot.eager call (index + 1) next rest after).map fun trial =>
          { trial with runs := ⟨candidate.callable, input⟩ :: trial.runs }

/-- What a stream of these steps answers when eager dispatch ends so. A mismatch fails at the step
of that place, and lists the parameters that the step had kept. -/
inductive Ending.Answers (steps : List (PendingStep Value)) :
    Ending → Except Failure Value → Prop where
  | value {value : Value} : Answers steps (.value value) (.ok value)
  | mismatch {index : Nat} {step : PendingStep Value} {types : List Tag}
      (found : steps[index]? = some step) :
      Answers steps (.mismatch index step.operation types)
        (.error (.wrongTransformationArgs step.operation types
          (step.candidates.map Candidate.params)))
  | failed {failure : Failure} : Answers steps (.failed failure) (.error failure)

structure Trial.Matches (trial : Trial σ) (steps : List (PendingStep Value))
    (journal : List Application) (outcome : Except Failure Value)
    (after : Store (σ × List Application)) : Prop where
  answers : trial.ending.Answers steps outcome
  host : after.host = (trial.store.host, journal ++ trial.runs)
  shared : after.shared = trial.store.shared

/-- A journaled run agrees with eager dispatch: both come to no end, or both end alike. -/
inductive Agrees (steps : List (PendingStep Value)) (journal : List Application) :
    Option (Trial σ) → Option (Except Failure Value × Store (σ × List Application)) → Prop where
  | deep : Agrees steps journal none none
  | ended {trial : Trial σ} {outcome : Except Failure Value} {after : Store (σ × List Application)}
      (matching : trial.Matches steps journal outcome after) :
      Agrees steps journal (some trial) (some (outcome, after))

variable {snapshot : Snapshot} {call : Callable → List Value → Run σ Value}

theorem Agrees.cons {steps : List (PendingStep Value)} {journal : List Application}
    {application : Application} {trial : Option (Trial σ)}
    {ended : Option (Except Failure Value × Store (σ × List Application))}
    (agrees : Agrees steps (journal ++ [application]) trial ended) :
    Agrees steps journal
      (trial.map fun trial => { trial with runs := application :: trial.runs }) ended := by
  cases agrees with
  | deep => exact .deep
  | ended matching =>
      obtain ⟨answers, host, shared⟩ := matching
      refine .ended ⟨answers, ?_, shared⟩
      rw [host, List.append_assoc, List.singleton_append]

theorem eager_of_mismatch {current : Value} {asked : Call}
    (missing : snapshot.choose? asked.operation (Value.tags current.tag asked.args) = none)
    (index : Nat) (rest : List Call) (store : Store σ) :
    snapshot.eager call index current (asked :: rest) store =
      some ⟨[], .mismatch index asked.operation (Value.tags current.tag asked.args), store⟩ := by
  simp only [Snapshot.eager, missing]

theorem eager_of_chosen {current : Value} {asked : Call} {candidate : Candidate}
    (chosen : snapshot.choose? asked.operation (Value.tags current.tag asked.args) = some candidate)
    (index : Nat) (rest : List Call) (store : Store σ) :
    snapshot.eager call index current (asked :: rest) store =
      match call candidate.callable (current :: asked.args) (store.report
        [.stepResolved asked.operation index (Value.tags current.tag asked.args)
          candidate.signature]) with
      | none => none
      | some (.error failure, after) =>
        some ⟨[⟨candidate.callable, current :: asked.args⟩], .failed failure, after⟩
      | some (.ok next, after) =>
        (snapshot.eager call (index + 1) next rest after).map fun trial =>
          { trial with runs := ⟨candidate.callable, current :: asked.args⟩ :: trial.runs } := by
  simp only [Snapshot.eager, chosen]

theorem journaled_honest (honest : snapshot.Honest call) : snapshot.Honest (journaled call) := by
  intro candidate args dispatches store value after ran
  exact honest candidate args dispatches store.plain value after.plain
    ((journaled_mirrors call candidate.callable args).of_some ran)

theorem journaled_spares {cell : Nat} (spares : snapshot.Spares call cell) :
    snapshot.Spares (journaled call) cell := by
  intro candidate args dispatches store outcome after vacant ran
  exact spares candidate args dispatches store.plain outcome after.plain vacant
    ((journaled_mirrors call candidate.callable args).of_some ran)

theorem journaled_apply (call : Callable → List Value → Run σ Value) (callable : Callable)
    (args : List Value) (store : Store (σ × List Application)) :
    journaled call callable args store =
      match call callable args store.plain with
      | none => none
      | some (outcome, after) =>
        some (outcome, after.beside (store.host.2 ++ [⟨callable, args⟩])) := by
  unfold journaled
  cases call callable args store.plain <;> rfl

theorem resolve_agrees (honest : snapshot.Honest call) {tag last : Tag} {calls : List Call}
    {rest : List (PendingStep Value)} (planned : snapshot.Planned tag calls rest last)
    (front : List (PendingStep Value)) (current : Value) (covers : tag.Covers current.tag)
    (store : Store (σ × List Application)) :
    Agrees (front ++ rest) store.host.2
      (snapshot.eager call front.length current calls store.plain)
      (resolve (journaled call) front.length current rest store) := by
  -- The prediction covers the value at hand all along, so each step chooses what dispatch runs.
  induction planned generalizing front current store with
  | nil =>
      refine .ended ⟨.value, ?_, rfl⟩
      rw [List.append_nil]
      rfl
  | cons planned later ih =>
      rename_i first next last asked calls step steps
      have same := Snapshot.plan_choose? planned covers
      obtain ⟨operation, args⟩ := Snapshot.plan_call planned
      have types : step.types current = Value.tags current.tag asked.args := by
        rw [PendingStep.types, args]
      cases choice : snapshot.choose? asked.operation (Value.tags current.tag asked.args) with
      | none =>
          have place : (front ++ step :: steps)[front.length]? = some step := by simp
          rw [choice] at same
          rw [eager_of_mismatch choice, resolve_of_mismatch same, ← operation, ← types]
          refine .ended ⟨.mismatch place, ?_, rfl⟩
          rw [List.append_nil]
          rfl
      | some candidate =>
          have honestly := honest candidate (current :: asked.args) ⟨asked.operation, choice⟩
          rw [choice] at same
          have member : candidate ∈ step.candidates := List.mem_of_find?_eq_some same
          rw [eager_of_chosen choice, resolve_of_chosen same, Run.bind_apply, journaled_apply,
            PendingStep.chosen, types, operation, args, Store.plain_report]
          cases ran : call candidate.callable (current :: asked.args) (store.plain.report
              [.stepResolved asked.operation front.length (Value.tags current.tag asked.args)
                candidate.signature]) with
          | none => exact .deep
          | some ended =>
              obtain ⟨outcome, after⟩ := ended
              cases outcome with
              | error failure => exact .ended ⟨.failed, rfl, rfl⟩
              | ok value =>
                  have reached : next.Covers value.tag :=
                    (Snapshot.plan_covers planned member).trans (honestly _ _ _ ran)
                  have agrees := ih (front ++ [step]) value reached
                    (after.beside (store.host.2 ++ [⟨candidate.callable, current :: asked.args⟩]))
                  rw [List.length_append, List.append_assoc] at agrees
                  exact agrees.cons

/-- The first result of a stream is what eager dispatch of its calls comes to, by the same runs. -/
theorem result_agrees_with_eager {source : Value} {first stream : Stream Value} {calls : List Call}
    (started : Stream.Started snapshot source first) (grown : first.Extends calls stream)
    (honest : snapshot.Honest call) (spares : snapshot.Spares call stream.cell) {store : Store σ}
    (vacant : store.Vacant stream.cell) :
    Agrees stream.steps [] (snapshot.eager call 0 source calls store)
        (stream.result (journaled call) (store.beside [])) ∧
      Run.seen (stream.result (journaled call) (store.beside [])) = stream.result call store := by
  refine ⟨?_, stream.result_mirrors (journaled_mirrors call) _⟩
  obtain ⟨-, sameSource, planned⟩ := started.planned grown
  have agrees : Agrees stream.steps [] (snapshot.eager call 0 source calls store)
      (resolve (journaled call) 0 source stream.steps (store.beside [])) :=
    resolve_agrees honest planned [] source (Tag.Covers.refl _) (store.beside [])
  have empty : (store.beside ([] : List Application)).Vacant stream.cell := vacant
  rw [Stream.result_of_empty empty.result?, sameSource]
  cases resolved : resolve (journaled call) 0 source stream.steps (store.beside []) with
  | none =>
      rw [resolved] at agrees
      exact agrees
  | some ended =>
      obtain ⟨outcome, after⟩ := ended
      rw [resolved] at agrees
      cases outcome with
      | error failure => exact agrees
      | ok value =>
          have predicts : Progress.Predicts snapshot stream.predicted
              ⟨0, source, stream.steps, store.beside ([] : List Application)⟩ :=
            ⟨source.tag, calls, Tag.Covers.refl _, planned⟩
          have kept : after.result? stream.cell = none :=
            (predicts.finish_vacant (journaled_honest honest) (journaled_spares spares) empty
              resolved).result?
          have final : (stream.settled value after).host = after.host :=
            Store.host_keep _ _ _
          have shared : (stream.settled value after).shared = after.shared :=
            Store.shared_keep _ _ _
          simp only [kept, Option.getD_none]
          generalize snapshot.eager call 0 source calls store = trial at agrees ⊢
          cases agrees with
          | ended matching =>
              exact .ended ⟨matching.answers, final.trans matching.host,
                shared.trans matching.shared⟩

theorem result_agrees_with_eager_sample :
    Stream.Started Sample.snapshot Sample.source Sample.begun ∧
      Sample.begun.Extends Sample.calls Sample.grown ∧ Sample.snapshot.Honest Sample.call ∧
      Sample.snapshot.Spares Sample.call Sample.grown.cell ∧
      (Sample.store 3).Vacant Sample.grown.cell ∧
      Agrees Sample.grown.steps []
        (Sample.snapshot.eager Sample.call 0 Sample.source Sample.calls (Sample.store 3))
        (Sample.grown.result (journaled Sample.call) ((Sample.store 3).beside [])) :=
  ⟨Sample.started, Sample.extends_, Sample.honest, Sample.spares 2,
    Sample.vacant,
    (result_agrees_with_eager Sample.started Sample.extends_ Sample.honest (Sample.spares 2)
      Sample.vacant).1⟩

end LazyDispatch
