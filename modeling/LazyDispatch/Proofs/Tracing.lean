import LazyDispatch.Proofs.Accounting

/-! The events of a resolution. While callables report nothing themselves, each run is told right
before it takes place, by the place, the types and the signature of the candidate that runs; and the
way in which the resolution ends is told last. -/

namespace LazyDispatch

section

variable {σ : Type} {call : Callable → List Value → Run σ Value} {stream : Stream Value}
  {store after : Store σ} {reached : Progress σ} {step : PendingStep Value} {candidate : Candidate}
  {outcome : Except Failure Value} {runs : List Application} {reports : List Event}

namespace Stream

/-- A resolution comes to a step and runs the candidate it chooses, right after the report of it. -/
structure Calls (call : Callable → List Value → Run σ Value) (stream : Stream Value)
    (store : Store σ) (reached : Progress σ) (step : PendingStep Value) (candidate : Candidate)
    (outcome : Except Failure Value) (after : Store σ) : Prop where
  reaches : Reaches call (stream.begin store) reached
  here : stream.steps[reached.index]? = some step
  chosen : step.choose? reached.current = some candidate
  ran : call candidate.callable (reached.current :: step.args)
    (reached.store.report [step.chosen reached.index reached.current candidate]) =
      some (outcome, after)

/-- No callable that runs in a resolution from the store reports anything. -/
def Silent (call : Callable → List Value → Run σ Value) (stream : Stream Value)
    (store : Store σ) : Prop :=
  ∀ reached step candidate outcome after,
    stream.Calls call store reached step candidate outcome after →
      after.events = reached.store.events ++ [step.chosen reached.index reached.current candidate]

/-- Each run has its report, at the same place: the operation, the place, the types of the value and
the arguments, and the signature of the candidate whose callable runs. What had been reported when
the run began are the reports before it, and then its own. -/
structure Tells (call : Callable → List Value → Run σ Value) (stream : Stream Value)
    (store : Store σ) (runs : List Application) (reports : List Event) : Prop where
  length : reports.length = runs.length
  each : ∀ place application, runs[place]? = some application →
    ∃ reached step candidate outcome after,
      stream.Calls call store reached step candidate outcome after ∧ reached.index = place ∧
      application = ⟨candidate.callable, reached.current :: step.args⟩ ∧
      reports[place]? = some (.stepResolved step.operation place
        (Value.tags reached.current.tag step.args) candidate.signature) ∧
      reached.store.events = store.events ++ reports.take place

/-- The ways in which a resolution ends, with the runs they take and the events that close them. -/
inductive Closes (call : Callable → List Value → Run σ Value) (stream : Stream Value)
    (store : Store σ) : Nat → Except Failure Value → List Event → Prop where
  | value {reached : Progress σ} (reaches : Reaches call (stream.begin store) reached)
      (last : reached.index = stream.steps.length) :
      Closes call stream store stream.steps.length (.ok reached.current)
        [.streamResolved stream.steps.length reached.current.tag]
  | mismatch {reached : Progress σ} {step : PendingStep Value}
      (reaches : Reaches call (stream.begin store) reached)
      (here : stream.steps[reached.index]? = some step)
      (none : step.choose? reached.current = none) :
      Closes call stream store reached.index (.error (step.mismatch reached.current))
        [.wrongTransformationArgs step.operation reached.index
          (Value.tags reached.current.tag step.args)]
  | failed {reached : Progress σ} {step : PendingStep Value} {candidate : Candidate}
      {failure : Failure} {after : Store σ}
      (calls : stream.Calls call store reached step candidate (.error failure) after) :
      Closes call stream store (reached.index + 1) (.error failure) []

/-- A result that takes so many runs, and reports them one by one and the closing events then. -/
def Traced (call : Callable → List Value → Run σ Value) (stream : Stream Value) (store : Store σ)
    (count : Nat) (outcome : Except Failure Value) (closing : List Event) : Prop :=
  ∃ runs reports after, stream.watched call store = some ((outcome, runs), after) ∧
    runs.length = count ∧ stream.Tells call store runs reports ∧
    after.events = store.events ++ reports ++ closing

end Stream

def Progress.beside {τ : Type} (progress : Progress σ) (more : τ) : Progress (σ × τ) :=
  ⟨progress.index, progress.current, progress.rest, progress.store.beside more⟩

namespace Stream

theorem Silent.of_candidates
    (quiet : ∀ step ∈ stream.steps, ∀ candidate ∈ step.candidates, ∀ args store outcome after,
      call candidate.callable args store = some (outcome, after) → after.events = store.events)
    (store : Store σ) : stream.Silent call store := by
  intro reached step candidate outcome after calls
  exact quiet step (List.mem_of_getElem? calls.here) candidate
    (List.mem_of_find?_eq_some calls.chosen) _ _ _ _ calls.ran

theorem Tells.nil : stream.Tells call store [] [] :=
  ⟨rfl, fun _ _ found => by cases found⟩

theorem Tells.concat (tells : stream.Tells call store runs reports)
    (calls : stream.Calls call store reached step candidate outcome after)
    (here : reached.index = runs.length)
    (events : reached.store.events = store.events ++ reports) :
    stream.Tells call store (runs ++ [⟨candidate.callable, reached.current :: step.args⟩])
      (reports ++ [step.chosen reached.index reached.current candidate]) := by
  obtain ⟨length, each⟩ := tells
  refine ⟨by simp only [List.length_append, length, List.length_singleton], ?_⟩
  intro place application found
  rcases of_getElem?_concat found with earlier | ⟨rfl, rfl⟩
  · obtain ⟨reached', step', candidate', outcome', after', calls', here', same, told, before⟩ :=
      each place application earlier
    obtain ⟨inside, -⟩ := List.getElem?_eq_some_iff.mp told
    refine ⟨reached', step', candidate', outcome', after', calls', here', same, ?_, ?_⟩
    · rw [List.getElem?_append_left inside, told]
    · rw [List.take_append_of_le_length (Nat.le_of_lt inside), before]
  · refine ⟨reached, step, candidate, outcome, after, calls, here, rfl, ?_, ?_⟩
    · rw [← length, List.getElem?_concat_length, here, ← length]
      rfl
    · rw [← length, List.take_left, events]

theorem Calls.journaled (calls : stream.Calls call store reached step candidate outcome after) :
    journaled call candidate.callable (reached.current :: step.args)
        ((reached.store.beside runs).report
          [step.chosen reached.index reached.current candidate]) =
      some (outcome,
        after.beside (runs ++ [⟨candidate.callable, reached.current :: step.args⟩])) := by
  have plainly : ((reached.store.beside runs).report
      [step.chosen reached.index reached.current candidate]).plain =
        reached.store.report [step.chosen reached.index reached.current candidate] := rfl
  rw [LazyDispatch.journaled, plainly, calls.ran]
  rfl

theorem Silent.told (silent : stream.Silent call store)
    (reaches : Reaches call (stream.begin store) reached) :
    ∃ runs reports, runs.length = reached.index ∧ stream.Tells call store runs reports ∧
      reached.store.events = store.events ++ reports ∧
      Reaches (journaled call) (stream.begin (store.beside [])) (reached.beside runs) := by
  -- The resolution that notes its runs goes along, so the runs told are the ones it notes.
  induction reaches with
  | refl => exact ⟨[], [], rfl, .nil, (List.append_nil _).symm, .refl⟩
  | tail earlier advances ih =>
      cases advances with
      | run chosen ran =>
          obtain ⟨runs, reports, length, tells, events, widely⟩ := ih
          have calls : stream.Calls call store _ _ _ _ _ :=
            ⟨earlier, Reaches.getElem?_of_rest earlier rfl, chosen, ran⟩
          refine ⟨_, _, ?_, tells.concat calls length.symm events, ?_,
            widely.tail (.run chosen calls.journaled)⟩
          · rw [List.length_append, length, List.length_singleton]
          · rw [silent _ _ _ _ _ calls, events, List.append_assoc]

section

variable {wide : Store (σ × List Application)}

theorem watched_of_value {value : Value} (vacant : store.Vacant stream.cell)
    (finished : (stream.begin (store.beside [])).finish (journaled call) =
      some (.ok value, wide)) (still : wide.Vacant stream.cell) :
    stream.watched call store =
      some ((.ok value, wide.host.2), stream.settled value wide.plain) := by
  have empty : (store.beside ([] : List Application)).Vacant stream.cell := vacant
  have resolved : resolve (journaled call) 0 stream.source stream.steps (store.beside []) =
      some (.ok value, wide) := finished
  have journal : (stream.settled value wide).host = wide.host := Store.host_keep _ _ _
  have plainly : (stream.settled value wide).plain = stream.settled value wide.plain :=
    Store.keep_plain _ _ _
  rw [watched, result_of_empty empty.result?, resolved]
  simp only [still.result?, Option.getD_none, Option.map_some, journal, plainly]

theorem watched_of_failure {failure : Failure} (vacant : store.Vacant stream.cell)
    (finished : (stream.begin (store.beside [])).finish (journaled call) =
      some (.error failure, wide)) :
    stream.watched call store = some ((.error failure, wide.host.2), wide.plain) := by
  have empty : (store.beside ([] : List Application)).Vacant stream.cell := vacant
  have resolved : resolve (journaled call) 0 stream.source stream.steps (store.beside []) =
      some (.error failure, wide) := finished
  rw [watched, result_of_empty empty.result?, resolved]
  rfl

end

theorem events_settled (value : Value) (store : Store σ) :
    (stream.settled value store).events =
      store.events ++ [.streamResolved stream.steps.length value.tag] := by
  rw [settled, Store.keep]
  cases (store.report _).result? stream.cell <;> rfl

theorem Closes.traced {count : Nat} {closing : List Event}
    (closes : stream.Closes call store count outcome closing)
    (vacant : store.Vacant stream.cell) (spared : stream.Spared call store)
    (silent : stream.Silent call store) : stream.Traced call store count outcome closing := by
  cases closes with
  | value reaches last =>
      rename_i reached
      obtain ⟨runs, reports, length, tells, events, widely⟩ := silent.told reaches
      have still := spared.vacant vacant reaches
      have nothing : reached.rest = [] := by
        rw [Reaches.rest_eq reaches, last, List.drop_length]
      have ends : (reached.beside runs).Ends (journaled call) (.ok reached.current)
          (reached.store.beside runs) := by
        rw [Progress.beside, nothing]
        exact .value
      have finished := (Progress.finish_of_reaches widely).trans ends.finish_eq
      refine ⟨runs, reports, _, watched_of_value vacant finished still, length.trans last, tells,
        ?_⟩
      rw [events_settled, ← events]
      rfl
  | mismatch reaches here none =>
      rename_i reached step
      obtain ⟨runs, reports, length, tells, events, widely⟩ := silent.told reaches
      obtain ⟨rest, left⟩ := Reaches.rest_of_getElem? reaches here
      have ends : (reached.beside runs).Ends (journaled call)
          (.error (step.mismatch reached.current))
          ((reached.store.beside runs).report [step.mismatched reached.index reached.current]) := by
        rw [Progress.beside, left]
        exact .mismatch none
      have finished := (Progress.finish_of_reaches widely).trans ends.finish_eq
      refine ⟨runs, reports, _, watched_of_failure vacant finished, length, tells, ?_⟩
      rw [← events]
      rfl
  | failed calls =>
      rename_i reached step candidate failure after
      obtain ⟨runs, reports, length, tells, events, widely⟩ := silent.told calls.reaches
      obtain ⟨rest, left⟩ := Reaches.rest_of_getElem? calls.reaches calls.here
      have ends : (reached.beside runs).Ends (journaled call) (.error failure)
          (after.beside (runs ++ [⟨candidate.callable, reached.current :: step.args⟩])) := by
        rw [Progress.beside, left]
        exact .failed calls.chosen calls.journaled
      have finished := (Progress.finish_of_reaches widely).trans ends.finish_eq
      refine ⟨_, _, _, watched_of_failure vacant finished, ?_,
        tells.concat calls length.symm events, ?_⟩
      · rw [← length]
        exact List.length_append
      · have left := silent _ _ _ _ _ calls
        rw [List.append_nil, ← List.append_assoc, ← events]
        exact left

theorem RunsTo.calls {place : Nat} {application : Application}
    (ran : stream.RunsTo call store place application outcome after) :
    ∃ reached step candidate, stream.Calls call store reached step candidate outcome after ∧
      reached.index = place := by
  obtain ⟨reached, step, rest, candidate, reaches, here, left, chosen, rfl, ran⟩ := ran
  cases here
  have here := Reaches.getElem?_of_rest reaches left
  exact ⟨reached, step, candidate, ⟨reaches, here, chosen, ran⟩, rfl⟩

theorem Takes.closes {count : Nat} (takes : stream.Takes call store count outcome) :
    ∃ closing, stream.Closes call store count outcome closing := by
  cases takes with
  | value reaches last => exact ⟨_, .value reaches last⟩
  | mismatch reaches here none => exact ⟨_, .mismatch reaches here none⟩
  | failed ran =>
      obtain ⟨reached, step, candidate, calls, rfl⟩ := ran.calls
      exact ⟨_, .failed calls⟩

end Stream

/-- The events of a result of a stream that is not resolved, where callables neither report anything
nor resolve it. Each way in which the resolution can end has its trace: a report for each run, right
before it, and then the end of the resolution; and a result ends in one of these ways. Once a value
is kept, nothing is reported. -/
theorem events_tell_resolution (vacant : store.Vacant stream.cell)
    (spared : stream.Spared call store) (silent : stream.Silent call store) :
    (∀ store, (stream.watched call store).map (fun ended => (ended.1.1, ended.2)) =
        stream.result call store) ∧
      (∀ count outcome closing, stream.Closes call store count outcome closing →
        stream.Traced call store count outcome closing) ∧
      (∀ outcome after, stream.result call store = some (outcome, after) →
        ∃ count closing, stream.Closes call store count outcome closing) ∧
      ∀ (resolved : Store σ) (value : Value), resolved.result? stream.cell = some value →
        stream.result call resolved = some (.ok value, resolved) := by
  refine ⟨stream.watched_eq_result call, ?_, ?_, ?_⟩
  · intro count outcome closing closes
    exact closes.traced vacant spared silent
  · intro outcome after resolved
    rw [← stream.watched_eq_result] at resolved
    obtain ⟨⟨⟨answer, runs⟩, last⟩, watched, same⟩ := Option.map_eq_some_iff.mp resolved
    cases same
    exact ⟨runs.length, (Stream.accounts_of_watched spared vacant watched).1.count.closes⟩
  · intro resolved value kept
    exact Stream.result_of_kept kept call

end

namespace Flaky

theorem silent (store : Store Nat) : Sample.grown.Silent call store := by
  refine Stream.Silent.of_candidates ?_ store
  intro step member candidate within args store outcome after ran
  exact (candidate_quiet member within ran).2

def size : PendingStep Value := ⟨"size", [Sample.sizeOfList, Sample.sizeOfText], []⟩

def midway (store : Store Nat) : Progress Nat :=
  ⟨1, .string "abc", [size], store.report [.stepResolved "first" 0 [.list] Sample.first.signature]⟩

theorem reaches_midway (store : Store Nat) :
    Reaches call (Sample.grown.begin store) (midway store) := by
  have chosen : PendingStep.choose? ⟨"first", [Sample.first], []⟩ Sample.source =
    some Sample.first := rfl
  exact .single (.run chosen rfl)

theorem size_chosen : size.choose? (.string "abc") = some Sample.sizeOfText := rfl

theorem closes_failed :
    Sample.grown.Closes call (Sample.store 3) 2 (.error (.raised "not ready")) [] :=
  .failed ⟨reaches_midway _, rfl, size_chosen, rfl⟩

theorem closes_resolved :
    Sample.grown.Closes call failed 2 (.ok (.int 2)) [.streamResolved 2 .number] :=
  .value ((reaches_midway _).tail (.run size_chosen rfl)) rfl

end Flaky

theorem events_tell_resolution_flaky :
    ((Sample.store 3).Vacant Sample.grown.cell ∧
        Sample.grown.Traced Flaky.call (Sample.store 3) 2 (.error (.raised "not ready")) []) ∧
      Flaky.failed.Vacant Sample.grown.cell ∧
      Sample.grown.Traced Flaky.call Flaky.failed 2 (.ok (.int 2)) [.streamResolved 2 .number] := by
  have first := events_tell_resolution Sample.vacant (Flaky.spared _) (Flaky.silent _)
  have vacant : Flaky.failed.Vacant Sample.grown.cell := rfl
  have second := events_tell_resolution vacant (Flaky.spared _) (Flaky.silent _)
  exact ⟨⟨Sample.vacant, first.2.1 _ _ _ Flaky.closes_failed⟩,
    vacant, second.2.1 _ _ _ Flaky.closes_resolved⟩

end LazyDispatch
