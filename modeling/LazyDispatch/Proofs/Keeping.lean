import LazyDispatch.Proofs.Machine

/-! What a stream keeps, through any run, its own callables calling result() on it included. No move
takes back a value once kept, so one value is ever kept under a cell, and it is what each result()
that answers comes to. -/

namespace LazyDispatch

variable {σ : Type}

namespace Machine

variable {host : Host σ} {start before after : Machine σ}

theorem grows_at_once {α : Type} {request : Run σ α} {depth : Nat} {frames : List (Frame σ)}
    {store ended : Store σ} {outcome : Except Failure α} {next : Except Failure α → Action σ}
    (made : request store = some (outcome, ended)) (grows : store.Grows ended)
    (moved : ((request store).map fun ended => ⟨.act depth (next ended.1), frames, ended.2⟩) =
      some after) : store.Grows after.store := by
  rw [made] at moved
  cases moved
  exact grows

theorem grows_of_act {depth : Nat} {frames : List (Frame σ)} {store : Store σ}
    {action : Action σ} (moved : action.move depth frames store = some after) :
    store.Grows after.store := by
  cases action with
  | done outcome =>
      cases moved
      exact .refl store
  | read next =>
      cases moved
      exact .refl store
  | write state next =>
      cases moved
      exact .of_results_eq rfl
  | call callable args next =>
      cases moved
      exact .refl store
  | result stream next =>
      cases moved
      exact .refl store
  | start snapshot source next =>
      cases moved
      exact Stream.start_grows source store
  | startShared source next =>
      obtain ⟨outcome, ended, made, grows⟩ := Stream.startShared_grows source store
      exact grows_at_once made grows moved
  | invoke stream operation args next =>
      obtain ⟨outcome, ended, made, grows⟩ := Stream.invoke_grows stream operation args store
      exact grows_at_once made grows moved
  | edit change next =>
      obtain ⟨outcome, ended, made, grows⟩ := Run.editShared_grows change store
      exact grows_at_once made grows moved
  | restart config next =>
      cases moved
      exact .of_results_eq rfl

theorem store_of_call {frames : List (Frame σ)} {store : Store σ} {depth : Nat}
    {callable : Callable} {args : List Value}
    (moved : host.move frames store depth callable args = some after) : after.store = store := by
  cases depth with
  | zero => cases moved
  | succ depth =>
      cases callable with
      | native native =>
          obtain ⟨outcome, -, rfl⟩ := Option.map_eq_some_iff.mp moved
          rfl
      | arithmetic arithmetic =>
          cases moved
          rfl
      | custom id name =>
          cases moved
          rfl
      | apply =>
          rw [Host.move] at moved
          split at moved <;> cases moved <;> rfl

theorem store_of_result (depth : Nat) (stream : Stream Value) (frames : List (Frame σ))
    (store : Store σ) : (stream.move depth frames store).store = store := by
  rw [Stream.move]
  cases store.result? stream.cell <;> rfl

theorem evolves_of_answer (outcome : Except Failure Value) (frames : List (Frame σ))
    (store : Store σ) (frame : Frame σ) :
    store.Evolves (frame.move outcome frames store).store := by
  cases frame with
  | act depth next => exact .refl store
  | resolve depth index rest => cases outcome <;> exact .refl store
  | settle stream =>
      cases outcome with
      | ok value => exact stream.settled_evolves value store
      | error failure => exact .refl store

theorem Moves.evolves (moves : Moves host before after) : before.store.Evolves after.store := by
  obtain ⟨control, frames, store⟩ := before
  cases control with
  | act depth action => exact (grows_of_act moves).evolves
  | call depth callable args =>
      exact (Store.Grows.of_results_eq (congrArg _ (store_of_call moves))).evolves
  | resolve depth index current steps =>
      cases moves
      exact (grows_takeStep depth index current frames store steps).evolves
  | result depth stream =>
      cases moves
      have same := store_of_result depth stream frames store
      exact (Store.Grows.of_results_eq (congrArg _ same)).evolves
  | answer outcome =>
      cases frames with
      | nil => cases moves
      | cons frame frames =>
          cases moves
          exact evolves_of_answer outcome frames store frame

theorem Passes.evolves (passes : Passes host before after) :
    before.store.Evolves after.store := by
  induction passes with
  | refl => exact .refl _
  | tail _ moves ih => exact ih.trans (Moves.evolves moves)

theorem kept_unique {one other : Machine σ} (first : Passes host start one)
    (second : Passes host start other) {cell : Nat} {value another : Value}
    (kept : one.store.result? cell = some value)
    (held : other.store.result? cell = some another) : value = another := by
  rcases passes_total first second with further | further
  · have still := (Passes.evolves further).keeps cell value kept
    exact Option.some.inj (still.symm.trans held)
  · have still := (Passes.evolves further).keeps cell another held
    exact Option.some.inj (kept.symm.trans still)

def Writes (host : Host σ) (cell : Nat) (before after : Machine σ) : Prop :=
  Moves host before after ∧ before.store.result? cell = none ∧
    ∃ value, after.store.result? cell = some value

theorem eq_of_writes_of_passes {cell : Nat} {one next other further : Machine σ}
    (first : Writes host cell one next) (second : Writes host cell other further)
    (passes : Passes host one other) : one = other := by
  obtain ⟨moves, -, value, kept⟩ := first
  rcases Relation.ReflTransGen.cases_head passes with same | ⟨middle, moved, rest⟩
  · exact same
  -- Past the first write the cell holds its value, so the second one cannot be a write.
  · cases moves_unique moves moved
    have still := (Passes.evolves rest).keeps cell value kept
    rw [second.2.1] at still
    cases still

theorem writes_unique {cell : Nat} {one next other further : Machine σ}
    (before : Passes host start one) (after : Passes host start other)
    (first : Writes host cell one next) (second : Writes host cell other further) :
    one = other := by
  rcases passes_total before after with passes | passes
  · exact eq_of_writes_of_passes first second passes
  · exact (eq_of_writes_of_passes second first passes).symm

theorem evolves_of_run {control : Control σ} {store after : Store σ}
    {outcome : Except Failure Value} (ran : control.run host store = some (outcome, after)) :
    store.Evolves after := Passes.evolves ((run_eq_some_iff control store after outcome).mp ran)

/-- What result() answers is kept from then on, be it another value than the one resolved. -/
theorem kept_of_result {depth : Nat} {stream : Stream Value} {store after : Store σ}
    {value : Value} (inside : stream.cell < store.nextCell)
    (answered : stream.result (host.call depth) store = some (.ok value, after)) :
    after.result? stream.cell = some value := by
  cases kept : store.result? stream.cell with
  | some held =>
      rw [Stream.result_of_kept kept] at answered
      cases answered
      exact kept
  | none =>
      rw [Stream.result_of_empty kept] at answered
      split at answered
      · cases answered
      · rename_i resolved middle finished
        have ran : (Control.resolve depth 0 stream.source stream.steps).run host store =
            some (.ok resolved, middle) := finished
        have evolves := evolves_of_run ran
        cases answered
        exact Stream.result?_settled (Nat.lt_of_lt_of_le inside evolves.cells) resolved
      · cases answered

/-- On the way from the start, result() is called on a stream whose cell was given out, and answers
with the value; `done` has the answer. -/
structure Answers (host : Host σ) (start : Machine σ) (cell : Nat) (value : Value)
    (done : Machine σ) : Prop where
  called : ∃ depth stream frames store after, stream.cell = cell ∧ cell < store.nextCell ∧
    Passes host start ⟨.result depth stream, frames, store⟩ ∧
    stream.result (host.call depth) store = some (.ok value, after) ∧
    done = ⟨.answer (.ok value), frames, after⟩

theorem Answers.kept {cell : Nat} {value : Value} {done : Machine σ}
    (answers : Answers host start cell value done) :
    Passes host start done ∧ done.store.result? cell = some value := by
  obtain ⟨depth, stream, frames, store, after, rfl, inside, called, answered, rfl⟩ := answers.called
  have leads : Leads host ⟨.result depth stream, frames, store⟩ frames
      (stream.result (host.call depth) store) := run_leads (.result depth stream) frames store
  rw [answered] at leads
  exact ⟨called.trans leads, kept_of_result inside answered⟩

end Machine

open Machine in
/-- A cell is written at most once on any way, whatever the callables ask for and however deep they
nest. All calls of result() that answer agree, with each other and with what is ever kept; and once
a value is kept, a call answers with it in one move that changes nothing. -/
theorem memo_written_once (host : Host σ) (start : Machine σ) (cell : Nat) :
    (∀ control store outcome after, control.run host store = some (outcome, after) ↔
        Passes host ⟨control, [], store⟩ ⟨.answer outcome, [], after⟩) ∧
      (∀ one next other further, Passes host start one → Passes host start other →
        Writes host cell one next → Writes host cell other further → one = other) ∧
      (∀ value done, Answers host start cell value done →
        ∀ machine kept, Passes host start machine → machine.store.result? cell = some kept →
          kept = value) ∧
      (∀ value another done finished, Answers host start cell value done →
        Answers host start cell another finished → value = another) ∧
      ∀ machine later value, Passes host start machine →
        machine.store.result? cell = some value → Passes host machine later →
          ∀ stream : Stream Value, stream.cell = cell → stream.isResolved later.store = true ∧
            ∀ depth frames,
              stream.result (host.call depth) later.store = some (.ok value, later.store) ∧
                Moves host ⟨.result depth stream, frames, later.store⟩
                  ⟨.answer (.ok value), frames, later.store⟩ := by
  refine ⟨?_, ?_, ?_, ?_, ?_⟩
  · intro control store outcome after
    exact run_eq_some_iff control store after outcome
  · intro one next other further before after first second
    exact writes_unique before after first second
  · intro value done answers machine kept passes held
    obtain ⟨reached, settled⟩ := answers.kept
    exact kept_unique passes reached held settled
  · intro value another done finished answers others
    obtain ⟨reached, settled⟩ := answers.kept
    obtain ⟨arrived, held⟩ := others.kept
    exact kept_unique reached arrived settled held
  · intro machine later value passes kept further
    have still := (Passes.evolves further).keeps cell value kept
    rintro stream rfl
    constructor
    · rw [Stream.isResolved, still]
      rfl
    · intro depth frames
      refine ⟨Stream.result_of_kept still _, ?_⟩
      rw [Moves, move, Stream.move, still]

namespace Reentrant

def twice : Candidate := ⟨"twice", ⟨.any, [], .any⟩, .custom 0 "twice"⟩

def snapshot : Snapshot := ⟨NameTable.empty.put "twice" [twice]⟩

def stream : Stream Value := ⟨1, snapshot, .null, .any, [⟨"twice", [twice], []⟩]⟩

def host : Host Nat := fun _ _ =>
  .read fun runs => .write (runs + 1)
    (if runs = 0 then .result stream fun _ => .answer (.string "outer")
    else .answer (.string "inner"))

def store : Store Nat := ⟨#[none, none], .withBuiltins, [], 0⟩

def start : Machine Nat := ⟨.result 2 stream, [], store⟩

theorem answers : ∃ done, Machine.Answers host start 1 (.string "inner") done :=
  ⟨_, ⟨2, stream, [], store, _, rfl, by decide, .refl, rfl, rfl⟩⟩

end Reentrant

theorem memo_written_once_reentrant :
    ∃ done, Machine.Answers Reentrant.host Reentrant.start 1 (.string "inner") done ∧
      ∀ machine kept, Machine.Passes Reentrant.host Reentrant.start machine →
        machine.store.result? 1 = some kept → kept = .string "inner" := by
  obtain ⟨done, answers⟩ := Reentrant.answers
  obtain ⟨-, -, agree, -, -⟩ := memo_written_once Reentrant.host Reentrant.start 1
  exact ⟨done, answers, agree _ done answers⟩

end LazyDispatch
