import LazyDispatch.Proofs.Mirroring
import LazyDispatch.Proofs.Prediction

/-! Which overload runs, whatever callables return. A step chooses among the candidates that its
prediction kept, so the prediction selects as well as the value at hand. A candidate that the value
alone selects is passed over only after some callable returned what it does not declare. -/

namespace LazyDispatch

section

variable {σ : Type} {snapshot : Snapshot} {call : Callable → List Value → Run σ Value}
  {source : Value} {first stream : Stream Value} {calls : List Call} {store : Store σ}
  {step : PendingStep Value} {predicted : Tag} {reached : Progress σ}

def AdvancesTruly (call : Callable → List Value → Run σ Value) (before after : Progress σ) : Prop :=
  Advances call before after ∧ ∀ step rest candidate, before.rest = step :: rest →
    step.choose? before.current = some candidate → candidate.returns.Covers after.current.tag

def ReachesTruly (call : Callable → List Value → Run σ Value) : Progress σ → Progress σ → Prop :=
  Relation.ReflTransGen (AdvancesTruly call)

theorem ReachesTruly.reaches {before : Progress σ} (reaches : ReachesTruly call before reached) :
    Reaches call before reached := Relation.ReflTransGen.mono (fun _ _ => And.left) _ _ reaches

/-- While all candidates return what they declare, the prediction made after some steps covers the
value reached there. -/
theorem ReachesTruly.covers {tag middle : Tag} {front back : List (PendingStep Value)}
    (planned : snapshot.Planned tag calls front middle) {index : Nat} {current : Value}
    (covers : tag.Covers current.tag)
    (reaches : ReachesTruly call ⟨index, current, front ++ back, store⟩ reached)
    (place : reached.index = index + front.length) : middle.Covers reached.current.tag := by
  -- Along the plan: a prediction covers what its candidates declare, and that covers what came.
  induction planned generalizing index current store with
  | nil =>
      rcases Relation.ReflTransGen.cases_head reaches with rfl | ⟨next, ⟨advances, -⟩, later⟩
      · exact covers
      · have further := Reaches.index_le (ReachesTruly.reaches later)
        cases advances with
        | run chosen ran =>
            simp only [List.length_nil] at place further
            omega
  | cons plan rest ih =>
      rcases Relation.ReflTransGen.cases_head reaches with rfl | ⟨next, ⟨advances, truly⟩, later⟩
      · simp only [List.length_cons] at place
        omega
      · cases advances with
        | run chosen ran =>
            have declared := Snapshot.plan_covers plan (List.mem_of_find?_eq_some chosen)
            refine ih (declared.trans (truly _ _ _ rfl chosen)) later ?_
            rw [place, List.length_cons]
            omega

theorem Reaches.rest_eq (reaches : Reaches call (stream.begin store) reached) :
    reached.rest = stream.steps.drop reached.index := by
  induction reaches with
  | refl => rfl
  | tail _ advances ih =>
      cases advances with
      | run chosen ran =>
          rw [← List.tail_drop, ← ih]
          rfl

theorem Reaches.getElem?_of_rest (reaches : Reaches call (stream.begin store) reached)
    {rest : List (PendingStep Value)} (left : reached.rest = step :: rest) :
    stream.steps[reached.index]? = some step := by
  rw [← List.head?_drop, ← Reaches.rest_eq reaches, left]
  rfl

theorem Reaches.rest_of_getElem? (reaches : Reaches call (stream.begin store) reached)
    (here : stream.steps[reached.index]? = some step) : ∃ rest, reached.rest = step :: rest := by
  rw [← List.head?_drop, ← Reaches.rest_eq reaches] at here
  exact List.head?_eq_some_iff.mp here

namespace Stream

/-- A resolution has reached a step of the stream, and the step was planned from a prediction. -/
structure Faces (call : Callable → List Value → Run σ Value) (stream first : Stream Value)
    (store : Store σ) (step : PendingStep Value) (predicted : Tag) (reached : Progress σ) :
    Prop where
  reaches : Reaches call (stream.begin store) reached
  step : stream.steps[reached.index]? = some step
  predicted : ∃ middle, first.Midway stream reached.index middle ∧ middle.predicted = predicted

namespace Faces

theorem rest (faces : Faces call stream first store step predicted reached) :
    ∃ rest, reached.rest = step :: rest :=
  Reaches.rest_of_getElem? faces.reaches faces.step

theorem of_rest (started : Started snapshot source first) (grown : first.Extends calls stream)
    (reaches : Reaches call (stream.begin store) reached) {rest : List (PendingStep Value)}
    (left : reached.rest = step :: rest) :
    ∃ predicted, Faces call stream first store step predicted reached := by
  have here := Reaches.getElem?_of_rest reaches left
  obtain ⟨inside, -⟩ := List.getElem?_eq_some_iff.mp here
  rw [(started.planned grown).2.2.length_eq] at inside
  obtain ⟨earlier, later, middle, place, before, beyond⟩ := grown.at_place (Nat.le_of_lt inside)
  exact ⟨middle.predicted, reaches, here, middle, ⟨earlier, later, place, before, beyond⟩, rfl⟩

theorem planned (faces : Faces call stream first store step predicted reached)
    (started : Started snapshot source first) :
    ∃ next, snapshot.plan predicted step.operation step.args = .ok (step, next) := by
  obtain ⟨-, here, middle, midway, rfl⟩ := faces
  obtain ⟨-, later, steps, -, appended, length, -, following⟩ := midway.planned started
  rw [appended, List.getElem?_append_right (Nat.le_of_eq length), length, Nat.sub_self] at here
  generalize stream.predicted = last at following
  cases following with
  | nil => cases here
  | cons plan _ =>
      cases here
      obtain ⟨operation, args⟩ := Snapshot.plan_call plan
      rw [operation, args]
      exact ⟨_, plan⟩

theorem choose?_eq (faces : Faces call stream first store step predicted reached)
    (started : Started snapshot source first) :
    step.choose? reached.current =
      snapshot.chooseBoth? step.operation (Value.tags predicted step.args)
        (Value.tags reached.current.tag step.args) := by
  obtain ⟨next, plan⟩ := faces.planned started
  exact Snapshot.plan_chooseBoth? plan

theorem covers (faces : Faces call stream first store step predicted reached)
    (started : Started snapshot source first)
    (truly : ReachesTruly call (stream.begin store) reached) :
    predicted.Covers reached.current.tag := by
  obtain ⟨-, -, middle, midway, rfl⟩ := faces
  obtain ⟨earlier, -, steps, sameSource, appended, length, planned, -⟩ := midway.planned started
  rw [Stream.begin, sameSource, appended] at truly
  exact truly.covers planned (Tag.Covers.refl _) (by rw [length, Nat.zero_add])

theorem mismatch (faces : Faces call stream first store step predicted reached)
    (started : Started snapshot source first) (empty : store.result? stream.cell = none)
    (missing : snapshot.chooseBoth? step.operation (Value.tags predicted step.args)
      (Value.tags reached.current.tag step.args) = none) :
    stream.result call store = some (.error (step.mismatch reached.current),
      reached.store.report [step.mismatched reached.index reached.current]) := by
  obtain ⟨rest, left⟩ := faces.rest
  have none : step.choose? reached.current = none := (faces.choose?_eq started).trans missing
  have ends : reached.Ends call (.error (step.mismatch reached.current))
      (reached.store.report [step.mismatched reached.index reached.current]) := by
    obtain ⟨index, current, rest, store⟩ := reached
    cases left
    exact .mismatch none
  exact result_eq_error_iff.mpr
    ⟨empty, (Progress.finish_of_reaches faces.reaches).trans ends.finish_eq⟩

end Faces
end Stream

theorem journaled_appends {callable : Callable} {args : List Value}
    {store after : Store (σ × List Application)} {outcome : Except Failure Value}
    (ran : journaled call callable args store = some (outcome, after)) :
    after.host.2 = store.host.2 ++ [⟨callable, args⟩] := by
  obtain ⟨ended, -, same⟩ := Option.map_eq_some_iff.mp ran
  cases same
  rfl

/-- A resolution runs an application at a place: it comes there, and the step chooses so. -/
def Stream.RunsAt (call : Callable → List Value → Run σ Value) (stream : Stream Value)
    (store : Store σ) (place : Nat) (application : Application) : Prop :=
  ∃ reached step rest candidate, Reaches call (stream.begin store) reached ∧
    reached.index = place ∧ reached.rest = step :: rest ∧
    step.choose? reached.current = some candidate ∧
    application = ⟨candidate.callable, reached.current :: step.args⟩

def Stream.Journals (call : Callable → List Value → Run σ Value) (stream : Stream Value)
    (store : Store σ) (journal : List Application) : Prop :=
  ∀ place application, journal[place]? = some application →
    stream.RunsAt call store place application

theorem Stream.Journals.concat {journal : List Application} {application : Application}
    (journals : stream.Journals call store journal)
    (last : stream.RunsAt call store journal.length application) :
    stream.Journals call store (journal ++ [application]) := by
  intro place entry found
  rcases of_getElem?_concat found with earlier | ⟨rfl, rfl⟩
  · exact journals place entry earlier
  · exact last

end

section

variable {σ : Type} {snapshot : Snapshot} {call : Callable → List Value → Run σ Value}
  {source : Value} {first stream : Stream Value} {calls : List Call} {store : Store σ}

theorem Reaches.journal {reached : Progress (σ × List Application)}
    (reaches : Reaches (journaled call) (stream.begin (store.beside [])) reached) :
    reached.store.host.2.length = reached.index ∧
      stream.Journals (journaled call) (store.beside []) reached.store.host.2 := by
  induction reaches with
  | refl =>
      refine ⟨rfl, ?_⟩
      intro place application found
      cases found
  | tail earlier advances ih =>
      cases advances with
      | run chosen ran =>
          obtain ⟨length, journals⟩ := ih
          rw [journaled_appends ran]
          refine ⟨?_, journals.concat ⟨_, _, _, _, earlier, length.symm, rfl, chosen, rfl⟩⟩
          rw [List.length_append, List.length_singleton]
          exact congrArg (· + 1) length

theorem Progress.Ends.journal {last : Progress (σ × List Application)}
    {outcome : Except Failure Value} {after : Store (σ × List Application)}
    (reaches : Reaches (journaled call) (stream.begin (store.beside [])) last)
    (ends : Ends (journaled call) last outcome after) :
    stream.Journals (journaled call) (store.beside []) after.host.2 := by
  obtain ⟨length, journals⟩ := Reaches.journal reaches
  cases ends with
  | value => exact journals
  | mismatch none => exact journals
  | failed chosen ran =>
      rw [journaled_appends ran]
      exact journals.concat ⟨_, _, _, _, reaches, length.symm, rfl, chosen, rfl⟩

theorem Stream.journal_of_result {outcome : Except Failure Value}
    {after : Store (σ × List Application)}
    (ended : stream.result (journaled call) (store.beside []) = some (outcome, after)) :
    stream.Journals (journaled call) (store.beside []) after.host.2 := by
  cases kept : (store.beside ([] : List Application)).result? stream.cell with
  | some value =>
      rw [Stream.result_of_kept kept] at ended
      cases ended
      intro place application found
      cases found
  | none =>
      rw [Stream.result_of_empty kept] at ended
      split at ended
      · cases ended
      · rename_i value middle finished
        have finished : (stream.begin (store.beside [])).finish (journaled call) =
            some (.ok value, middle) := finished
        obtain ⟨last, reaches, ends⟩ := Progress.ends_of_finish finished
        cases ended
        rw [Stream.settled, Store.host_keep]
        have journals := Progress.Ends.journal reaches ends
        exact journals
      · rename_i failure middle finished
        have finished : (stream.begin (store.beside [])).finish (journaled call) =
            some (.error failure, middle) := finished
        obtain ⟨last, reaches, ends⟩ := Progress.ends_of_finish finished
        cases ended
        exact Progress.Ends.journal reaches ends

/-- Whatever callables return, each one that runs is that of the first candidate which accepts both
the types its call was planned with and the actual ones; without such a candidate nothing runs. It
is the first of all that accept the actual types where the prediction covers the value, and so
wherever candidates returned what they declare. -/
theorem runs_first_of_both (started : Stream.Started snapshot source first)
    (grown : first.Extends calls stream) (call : Callable → List Value → Run σ Value)
    (store : Store σ) :
    Run.seen (stream.result (journaled call) (store.beside [])) = stream.result call store ∧
      (∀ outcome after, stream.result (journaled call) (store.beside []) = some (outcome, after) →
        ∀ place application, after.host.2[place]? = some application →
          ∃ step predicted reached candidate,
            stream.Faces (journaled call) first (store.beside []) step predicted reached ∧
              reached.index = place ∧
              snapshot.chooseBoth? step.operation (Value.tags predicted step.args)
                (Value.tags reached.current.tag step.args) = some candidate ∧
              application = ⟨candidate.callable, reached.current :: step.args⟩) ∧
      ∀ step predicted reached,
        stream.Faces (journaled call) first (store.beside []) step predicted reached →
          (store.result? stream.cell = none →
            snapshot.chooseBoth? step.operation (Value.tags predicted step.args)
                (Value.tags reached.current.tag step.args) = none →
              stream.result (journaled call) (store.beside []) =
                some (.error (step.mismatch reached.current),
                  reached.store.report [step.mismatched reached.index reached.current])) ∧
          (predicted.Covers reached.current.tag →
            snapshot.chooseBoth? step.operation (Value.tags predicted step.args)
                (Value.tags reached.current.tag step.args) =
              snapshot.choose? step.operation (Value.tags reached.current.tag step.args)) ∧
          (ReachesTruly (journaled call) (stream.begin (store.beside [])) reached →
            predicted.Covers reached.current.tag) := by
  refine ⟨stream.result_mirrors (journaled_mirrors call) _, ?_, ?_⟩
  · intro outcome after ended place application found
    obtain ⟨reached, step, rest, candidate, reaches, here, left, chosen, same⟩ :=
      Stream.journal_of_result ended place application found
    obtain ⟨predicted, faces⟩ := Stream.Faces.of_rest started grown reaches left
    rw [faces.choose?_eq started] at chosen
    exact ⟨step, predicted, reached, candidate, faces, here, chosen, same⟩
  · intro step predicted reached faces
    refine ⟨?_, Snapshot.chooseBoth?_of_covers, faces.covers started⟩
    intro empty missing
    exact faces.mismatch started empty missing

end

namespace Misled

def measure : Candidate := ⟨"measure", ⟨.any, [], .number⟩, .custom 0 "measure"⟩

def quote : Candidate := ⟨"show", ⟨.string, [], .string⟩, .custom 1 "quote"⟩

def plain : Candidate := ⟨"show", ⟨.any, [], .string⟩, .custom 2 "plain"⟩

def snapshot : Snapshot :=
  ⟨(NameTable.empty.put "show" [quote, plain]).put "measure" [measure]⟩

def call : Callable → List Value → Run Nat Value := Host.call (fun id _ => answer id) 1
where
  answer : Nat → Action Nat
    | 0 => .answer (.string "long")
    | 1 => .answer (.string "quoted")
    | _ => .answer (.string "plain")

def source : Value := .string "abc"

def calls : List Call := [⟨"measure", []⟩, ⟨"show", []⟩]

def begun : Stream Value := ⟨0, snapshot, source, .string, []⟩

def midway : Stream Value := ⟨1, snapshot, source, .number, [⟨"measure", [measure], []⟩]⟩

def grown : Stream Value :=
  ⟨2, snapshot, source, .string, [⟨"measure", [measure], []⟩, ⟨"show", [plain], []⟩]⟩

theorem started : Stream.Started snapshot source begun := ⟨Nat, Sample.store 0, _, rfl⟩

theorem extends_ : begun.Extends calls grown := by
  have accepted : begun.invoke "measure" [] (Sample.store 1) = some (.ok midway, _) := rfl
  have again : midway.invoke "show" [] (Sample.store 2) = some (.ok grown, _) := rfl
  exact (Stream.Extends.refl.invoke accepted).invoke again

end Misled

/-- The text that came where a number was promised has an overload of its own, which does not
run. -/
theorem runs_another_than_the_first :
    Stream.Started Misled.snapshot Misled.source Misled.begun ∧
      Misled.begun.Extends Misled.calls Misled.grown ∧
      ∃ value after, Misled.grown.result (journaled Misled.call) ((Sample.store 3).beside []) =
          some (.ok (.string "plain"), after) ∧
        after.host.2 = [⟨Misled.measure.callable, [Misled.source]⟩,
          ⟨Misled.plain.callable, [value]⟩] ∧
        Misled.snapshot.choose? "show" (Value.tags value.tag []) = some Misled.quote ∧
        Misled.plain.callable ≠ Misled.quote.callable :=
  ⟨Misled.started, Misled.extends_, .string "long", _, rfl, rfl, by decide, by decide⟩

theorem runs_first_of_both_misled :
    Stream.Started Misled.snapshot Misled.source Misled.begun ∧
      Misled.begun.Extends Misled.calls Misled.grown ∧
      ∃ step predicted reached candidate,
        Misled.grown.Faces (journaled Misled.call) Misled.begun ((Sample.store 3).beside [])
            step predicted reached ∧
          reached.index = 1 ∧
          Misled.snapshot.chooseBoth? step.operation (Value.tags predicted step.args)
            (Value.tags reached.current.tag step.args) = some candidate ∧
          Application.mk Misled.plain.callable [.string "long"] =
            ⟨candidate.callable, reached.current :: step.args⟩ :=
  ⟨Misled.started, Misled.extends_,
    (runs_first_of_both Misled.started Misled.extends_ Misled.call (Sample.store 3)).2.1
      _ _ rfl 1 _ rfl⟩

end LazyDispatch
