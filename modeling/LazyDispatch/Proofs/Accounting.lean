import LazyDispatch.Proofs.Isolation
import LazyDispatch.Proofs.Overloads

/-! What runs for a result, call by call. While nothing is kept, each result() goes through the
steps from the source on: a value takes one run for each of them, and a failure the runs up to where
it came about. Once a value is kept, nothing runs. -/

namespace LazyDispatch

section

variable {σ τ : Type} {call : Callable → List Value → Run σ Value} {stream : Stream Value}
  {store after : Store σ}

namespace Stream

def RunsTo (call : Callable → List Value → Run σ Value) (stream : Stream Value) (store : Store σ)
    (place : Nat) (application : Application) (outcome : Except Failure Value) (after : Store σ) :
    Prop :=
  ∃ reached step rest candidate, Reaches call (stream.begin store) reached ∧
    reached.index = place ∧ reached.rest = step :: rest ∧
    step.choose? reached.current = some candidate ∧
    application = ⟨candidate.callable, reached.current :: step.args⟩ ∧
    call application.callable application.args
      (reached.store.report [step.chosen place reached.current candidate]) = some (outcome, after)

/-- No callable that runs in a resolution from the store resolves the stream itself. -/
def Spared (call : Callable → List Value → Run σ Value) (stream : Stream Value)
    (store : Store σ) : Prop :=
  store.Vacant stream.cell → ∀ place application outcome after,
    stream.RunsTo call store place application outcome after → after.Vacant stream.cell

/-- How many runs a resolution takes, by how it ends: one for each step, one for each step before
the one that has no candidate, or these and the one that failed. -/
inductive Takes (call : Callable → List Value → Run σ Value) (stream : Stream Value)
    (store : Store σ) : Nat → Except Failure Value → Prop where
  | value {reached : Progress σ} (reaches : Reaches call (stream.begin store) reached)
      (last : reached.index = stream.steps.length) :
      Takes call stream store stream.steps.length (.ok reached.current)
  | mismatch {step : PendingStep Value} {reached : Progress σ}
      (reaches : Reaches call (stream.begin store) reached)
      (here : stream.steps[reached.index]? = some step)
      (none : step.choose? reached.current = none) :
      Takes call stream store reached.index (.error (step.mismatch reached.current))
  | failed {place : Nat} {application : Application} {failure : Failure} {after : Store σ}
      (ran : stream.RunsTo call store place application (.error failure) after) :
      Takes call stream store (place + 1) (.error failure)

/-- The runs of a resolution in order: each is what the stream runs at its place, and there are as
many as the outcome takes. -/
structure Accounts (call : Callable → List Value → Run σ Value) (stream : Stream Value)
    (store : Store σ) (runs : List Application) (outcome : Except Failure Value) : Prop where
  each : stream.Journals call store runs
  count : stream.Takes call store runs.length outcome

end Stream

/-- One call of result(): what it answered and what ran for it, between two stores. -/
structure Attempt (σ : Type) where
  before : Store σ
  outcome : Except Failure Value
  runs : List Application
  after : Store σ

/-- Calls of result() on a stream or a clone of it, which is the stream itself once more. Whatever
else happens between them leaves the cell of the stream as it is. -/
inductive Stream.Asked (call : Callable → List Value → Run σ Value) (stream : Stream Value) :
    Store σ → List (Attempt σ) → Prop where
  | nil {store : Store σ} : Asked call stream store []
  | elsewhere {store after : Store σ} {attempts : List (Attempt σ)}
      (same : after.results[stream.cell]? = store.results[stream.cell]?)
      (later : Asked call stream after attempts) : Asked call stream store attempts
  | result {store after : Store σ} {outcome : Except Failure Value} {runs : List Application}
      {attempts : List (Attempt σ)}
      (ended : stream.watched call store = some ((outcome, runs), after))
      (later : Asked call stream after attempts) :
      Asked call stream store (⟨store, outcome, runs, after⟩ :: attempts)

/-- Calls of result() up to the first that answers are each accounted for from the source on. Those
after it answer the same, run nothing and change nothing. -/
def Stream.Accounted (call : Callable → List Value → Run σ Value) (stream : Stream Value)
    (attempts : List (Attempt σ)) : Prop :=
  ∀ front attempt back, attempts = front ++ attempt :: back →
    ((∀ earlier ∈ front, ∃ failure, earlier.outcome = .error failure) →
      stream.Accounts call attempt.before attempt.runs attempt.outcome) ∧
    ∀ earlier ∈ front, ∀ value, earlier.outcome = .ok value →
      attempt.outcome = .ok value ∧ attempt.runs = [] ∧ attempt.after = attempt.before

def Progress.plain (progress : Progress (σ × τ)) : Progress σ :=
  ⟨progress.index, progress.current, progress.rest, progress.store.plain⟩

section

variable {wide : Callable → List Value → Run (σ × τ) Value}
  (mirrors : ∀ callable args, Run.Mirrors (wide callable args) (call callable args))

include mirrors

theorem Reaches.plain {before reached : Progress (σ × τ)} (reaches : Reaches wide before reached) :
    Reaches call before.plain reached.plain := by
  induction reaches with
  | refl => exact .refl
  | tail _ advances ih =>
      cases advances with
      | run chosen ran => exact ih.tail (.run chosen ((mirrors _ _).of_some ran))

theorem Stream.Journals.plain {store : Store (σ × τ)} {journal : List Application}
    (journals : stream.Journals wide store journal) :
    stream.Journals call store.plain journal := by
  intro place application found
  obtain ⟨reached, step, rest, candidate, reaches, here, left, chosen, same⟩ :=
    journals place application found
  exact ⟨reached.plain, step, rest, candidate, Reaches.plain mirrors reaches, here, left, chosen,
    same⟩

end

namespace Stream

theorem watched_eq_result (stream : Stream Value) (call : Callable → List Value → Run σ Value)
    (store : Store σ) :
    (stream.watched call store).map (fun ended => (ended.1.1, ended.2)) =
      stream.result call store := by
  have same : Run.seen (stream.result (journaled call) (store.beside [])) =
      stream.result call store :=
    stream.result_mirrors (journaled_mirrors call) _
  rw [← same, watched, Run.seen, Option.map_map]
  rfl

theorem watched_of_kept {value : Value} (kept : store.result? stream.cell = some value) :
    stream.watched call store = some ((.ok value, []), store) := by
  have also : (store.beside ([] : List Application)).result? stream.cell = some value := kept
  rw [watched, result_of_kept also]
  rfl

theorem Spared.vacant (spared : stream.Spared call store) (vacant : store.Vacant stream.cell)
    {reached : Progress σ} (reaches : Reaches call (stream.begin store) reached) :
    reached.store.Vacant stream.cell := by
  cases reaches with
  | refl => exact vacant
  | tail earlier advances =>
      cases advances with
      | run chosen ran =>
          exact spared vacant _ _ _ _ ⟨_, _, _, _, earlier, rfl, rfl, chosen, rfl, ran⟩

theorem Spared.vacant_of_ends (spared : stream.Spared call store)
    (vacant : store.Vacant stream.cell) {last : Progress σ} {outcome : Except Failure Value}
    (reaches : Reaches call (stream.begin store) last) (ends : last.Ends call outcome after) :
    after.Vacant stream.cell := by
  have here := spared.vacant vacant reaches
  cases ends with
  | value => exact here
  | mismatch none => exact here.report _
  | failed chosen ran =>
      exact spared vacant _ _ _ _ ⟨_, _, _, _, reaches, rfl, rfl, chosen, rfl, ran⟩

theorem Spared.of_candidates
    (spares : ∀ step ∈ stream.steps, ∀ candidate ∈ step.candidates, ∀ args store outcome after,
      store.Vacant stream.cell → call candidate.callable args store = some (outcome, after) →
        after.Vacant stream.cell) (store : Store σ) : stream.Spared call store := by
  have runs {reached : Progress σ} {step : PendingStep Value} {rest : List (PendingStep Value)}
      {candidate : Candidate} {outcome : Except Failure Value} {after : Store σ}
      (reaches : Reaches call (stream.begin store) reached) (left : reached.rest = step :: rest)
      (chosen : step.choose? reached.current = some candidate)
      (ran : call candidate.callable (reached.current :: step.args)
        (reached.store.report [step.chosen reached.index reached.current candidate]) =
          some (outcome, after))
      (still : reached.store.Vacant stream.cell) : after.Vacant stream.cell :=
    spares step (List.mem_of_getElem? (Reaches.getElem?_of_rest reaches left)) candidate
      (List.mem_of_find?_eq_some chosen) _ _ _ _ (still.report _) ran
  intro vacant place application outcome after ran
  obtain ⟨reached, step, rest, candidate, reaches, rfl, left, chosen, rfl, ran⟩ := ran
  refine runs reaches left chosen ran ?_
  clear left chosen ran
  induction reaches with
  | refl => exact vacant
  | tail earlier advances still =>
      cases advances with
      | run chosen ran => exact runs earlier rfl chosen ran still

theorem accounts_of_ends {last : Progress (σ × List Application)}
    {wide : Store (σ × List Application)} {outcome : Except Failure Value}
    (reaches : Reaches (journaled call) (stream.begin (store.beside [])) last)
    (ends : last.Ends (journaled call) outcome wide) :
    stream.Accounts call store wide.host.2 outcome := by
  have mirrors := journaled_mirrors call
  refine ⟨(Progress.Ends.journal reaches ends).plain mirrors, ?_⟩
  have plainly : Reaches call (stream.begin store) last.plain := Reaches.plain mirrors reaches
  obtain ⟨length, -⟩ := Reaches.journal reaches
  obtain ⟨index, current, rest, reached⟩ := last
  obtain rfl : reached.host.2.length = index := length
  cases ends with
  | value =>
      have whole : wide.host.2.length = stream.steps.length := by
        simpa [Progress.plain, begin] using plainly.places
      rw [whole] at plainly ⊢
      exact .value plainly rfl
  | mismatch none => exact .mismatch plainly (Reaches.getElem?_of_rest plainly rfl) none
  | failed chosen ran =>
      have also := (mirrors _ _).of_some ran
      rw [journaled_appends ran, List.length_append, List.length_singleton]
      exact .failed ⟨_, _, _, _, plainly, rfl, rfl, chosen, rfl, also⟩

theorem ends_plain {last : Progress (σ × List Application)} {wide : Store (σ × List Application)}
    {outcome : Except Failure Value} (ends : last.Ends (journaled call) outcome wide) :
    last.plain.Ends call outcome wide.plain := by
  cases ends with
  | value => exact .value
  | mismatch none => exact .mismatch none
  | failed chosen ran => exact .failed chosen ((journaled_mirrors call _ _).of_some ran)

theorem accounts_of_watched (spared : stream.Spared call store)
    (vacant : store.Vacant stream.cell) {outcome : Except Failure Value}
    {runs : List Application}
    (ended : stream.watched call store = some ((outcome, runs), after)) :
    stream.Accounts call store runs outcome ∧
      ((∃ value, outcome = .ok value ∧ after.result? stream.cell = some value) ∨
        ∃ failure, outcome = .error failure ∧ after.Vacant stream.cell) := by
  obtain ⟨⟨answer, wide⟩, resolved, same⟩ := Option.map_eq_some_iff.mp ended
  simp only [Prod.mk.injEq] at same
  obtain ⟨⟨rfl, rfl⟩, rfl⟩ := same
  have empty : (store.beside ([] : List Application)).Vacant stream.cell := vacant
  rw [result_of_empty empty.result?] at resolved
  have settles {outcome : Except Failure Value} {middle : Store (σ × List Application)}
      (finished : (stream.begin (store.beside [])).finish (journaled call) =
        some (outcome, middle)) :
      stream.Accounts call store middle.host.2 outcome ∧ middle.plain.Vacant stream.cell := by
    obtain ⟨last, reaches, ends⟩ := Progress.ends_of_finish finished
    have plainly := Reaches.plain (journaled_mirrors call) reaches
    exact ⟨accounts_of_ends reaches ends, spared.vacant_of_ends vacant plainly (ends_plain ends)⟩
  split at resolved
  · cases resolved
  · rename_i value middle finished
    obtain ⟨accounts, still⟩ := settles finished
    have kept : middle.result? stream.cell = none := still.result?
    rw [kept, Option.getD_none] at resolved
    cases resolved
    have journal : (stream.settled value middle).host = middle.host := Store.host_keep _ _ _
    have plainly : (stream.settled value middle).plain = stream.settled value middle.plain :=
      Store.keep_plain _ _ _
    rw [journal, plainly]
    exact ⟨accounts, .inl ⟨value, rfl, (still.report _).keep value⟩⟩
  · rename_i failure middle finished
    obtain ⟨accounts, still⟩ := settles finished
    cases resolved
    exact ⟨accounts, .inr ⟨failure, rfl, still⟩⟩

theorem Asked.of_kept {attempts : List (Attempt σ)} {value : Value}
    (asked : stream.Asked call store attempts) (kept : store.result? stream.cell = some value) :
    ∀ attempt ∈ attempts,
      attempt.outcome = .ok value ∧ attempt.runs = [] ∧ attempt.after = attempt.before := by
  induction asked with
  | nil => exact List.forall_mem_nil _
  | elsewhere same _ ih =>
      rw [Store.result?, ← same] at kept
      exact ih kept
  | result ended _ ih =>
      cases (watched_of_kept kept).symm.trans ended
      exact List.forall_mem_cons.mpr ⟨⟨rfl, rfl, rfl⟩, ih kept⟩

theorem Accounted.cons {first : Attempt σ} {attempts : List (Attempt σ)}
    (accounts : stream.Accounts call first.before first.runs first.outcome)
    (repeats : ∀ value, first.outcome = .ok value → ∀ attempt ∈ attempts,
      attempt.outcome = .ok value ∧ attempt.runs = [] ∧ attempt.after = attempt.before)
    (onward : ∀ failure, first.outcome = .error failure → stream.Accounted call attempts) :
    stream.Accounted call (first :: attempts) := by
  intro front attempt back split
  cases front with
  | nil =>
      obtain ⟨rfl, rfl⟩ := List.cons.inj split
      exact ⟨fun _ => accounts, List.forall_mem_nil _⟩
  | cons head front =>
      obtain ⟨rfl, rfl⟩ := List.cons.inj split
      cases outcome : first.outcome with
      | ok value =>
          have answers := repeats value outcome
          refine ⟨?_, ?_⟩
          · intro failed
            obtain ⟨failure, absurdly⟩ := failed first List.mem_cons_self
            cases outcome.symm.trans absurdly
          · intro earlier member other answered
            have same : (Except.ok value : Except Failure Value) = .ok other := by
              rcases List.mem_cons.mp member with rfl | within
              · exact outcome.symm.trans answered
              · have also := answers earlier (List.mem_append_left _ within)
                exact also.1.symm.trans answered
            cases same
            exact answers attempt (List.mem_append_right _ List.mem_cons_self)
      | error failure =>
          obtain ⟨accounted, settled⟩ := onward failure outcome front attempt back rfl
          refine ⟨?_, ?_⟩
          · intro failed
            exact accounted fun earlier within => failed earlier (List.mem_cons_of_mem _ within)
          · intro earlier member value answered
            rcases List.mem_cons.mp member with rfl | within
            · cases outcome.symm.trans answered
            · exact settled earlier within value answered

end Stream

/-- The runs for the results of a stream that is not resolved, and that its callables do not
resolve. As long as calls fail, each next one is accounted for from the first step on the source;
once one has answered, the calls after it answer the same and run nothing. -/
theorem runs_accounted (vacant : store.Vacant stream.cell) {attempts : List (Attempt σ)}
    (asked : stream.Asked call store attempts)
    (spared : ∀ attempt ∈ attempts, stream.Spared call attempt.before) :
    (∀ store, (stream.watched call store).map (fun ended => (ended.1.1, ended.2)) =
        stream.result call store) ∧
      stream.Accounted call attempts := by
  refine ⟨stream.watched_eq_result call, ?_⟩
  induction asked with
  | nil =>
      intro front attempt back split
      simp at split
  | elsewhere same _ ih =>
      have still : Store.Vacant _ stream.cell := same.trans vacant
      exact ih still spared
  | result ended later ih =>
      obtain ⟨here, others⟩ := List.forall_mem_cons.mp spared
      obtain ⟨accounts, left⟩ := Stream.accounts_of_watched here vacant ended
      refine .cons accounts ?_ ?_
      · rintro value rfl
        rcases left with ⟨answer, same, kept⟩ | ⟨failure, absurdly, -⟩
        · cases same
          exact later.of_kept kept
        · cases absurdly
      · rintro failure rfl
        rcases left with ⟨answer, absurdly, -⟩ | ⟨-, -, still⟩
        · cases absurdly
        · exact ih still others

end

namespace Flaky

def reply : Nat → Action Nat
  | 0 => .raise "not ready"
  | earlier + 1 => .answer (.ofNat (earlier + 2))

def host : Host Nat := fun _ args =>
  Action.unary "measure" args fun _ => .read fun runs => .write (runs + 1) (reply runs)

def call : Callable → List Value → Run Nat Value := host.call 1

def both : List Application :=
  [⟨.native .head, [Sample.source]⟩, ⟨.custom 0 "measure", [.string "abc"]⟩]

def failed : Store Nat :=
  ((Sample.grown.watched call (Sample.store 3)).map Prod.snd).getD (Sample.store 3)

def resolved : Store Nat := ((Sample.grown.watched call failed).map Prod.snd).getD failed

def attempts : List (Attempt Nat) :=
  [⟨Sample.store 3, .error (.raised "not ready"), both, failed⟩,
    ⟨failed, .ok (.int 2), both, resolved⟩, ⟨resolved, .ok (.int 2), [], resolved⟩]

theorem asked : Sample.grown.Asked call (Sample.store 3) attempts :=
  .result rfl (.result rfl (.result rfl .nil))

theorem measured {args : List Value} {store after : Store Nat} {outcome : Except Failure Value}
    (ran : call (.custom 0 "measure") args store = some (outcome, after)) :
    after.results = store.results ∧ after.events = store.events := by
  cases unary : Callable.unary "measure" args with
  | error failure =>
      simp only [call, Host.call, host, Action.unary, unary] at ran
      cases ran
      exact ⟨rfl, rfl⟩
  | ok value =>
      simp only [call, Host.call, host, Action.unary, unary] at ran
      obtain ⟨results, shared, events, runs⟩ := store
      cases runs with
      | zero =>
          cases ran
          exact ⟨rfl, rfl⟩
      | succ earlier =>
          cases ran
          exact ⟨rfl, rfl⟩

theorem candidate_quiet {step : PendingStep Value} (member : step ∈ Sample.grown.steps)
    {candidate : Candidate} (within : candidate ∈ step.candidates) {args : List Value}
    {store after : Store Nat} {outcome : Except Failure Value}
    (ran : call candidate.callable args store = some (outcome, after)) :
    after.results = store.results ∧ after.events = store.events := by
  have known : candidate = Sample.first ∨ candidate = Sample.sizeOfList ∨
      candidate = Sample.sizeOfText := by
    simp only [Sample.grown, List.mem_cons, List.not_mem_nil, or_false] at member
    rcases member with rfl | rfl
    · exact .inl (List.mem_singleton.mp within)
    · simpa only [List.mem_cons, List.not_mem_nil, or_false] using Or.inr within
  rcases known with rfl | rfl | rfl
  · cases (Host.of_call_native ran).2
    exact ⟨rfl, rfl⟩
  · cases (Host.of_call_native ran).2
    exact ⟨rfl, rfl⟩
  · exact measured ran

theorem spared (store : Store Nat) : Sample.grown.Spared call store := by
  refine Stream.Spared.of_candidates ?_ store
  intro step member candidate within args store outcome after vacant ran
  rw [Store.Vacant, (candidate_quiet member within ran).1]
  exact vacant

end Flaky

/-- The first of three calls fails at the second step. The next one runs both steps, and the last
one neither. -/
theorem runs_accounted_flaky :
    (Sample.store 3).Vacant Sample.grown.cell ∧
      Sample.grown.Asked Flaky.call (Sample.store 3) Flaky.attempts ∧
      (∀ attempt ∈ Flaky.attempts, Sample.grown.Spared Flaky.call attempt.before) ∧
      Sample.grown.Accounts Flaky.call Flaky.failed Flaky.both (.ok (.int 2)) := by
  have accounted := runs_accounted Sample.vacant Flaky.asked fun attempt _ => Flaky.spared _
  refine ⟨Sample.vacant, Flaky.asked, fun attempt _ => Flaky.spared _, ?_⟩
  have again := accounted.2 [_] _ [_] rfl
  exact again.1 (by simp)

end LazyDispatch
