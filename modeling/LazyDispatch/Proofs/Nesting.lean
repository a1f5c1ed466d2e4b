import LazyDispatch.Proofs.Keeping
import LazyDispatch.Proofs.Prediction

/-! What a failure leaves behind. A result() that fails keeps nothing itself; but where its callables
asked for the result of the same stream meanwhile and were answered, that value is kept, and the
failure does not take it back. -/

namespace LazyDispatch

variable {σ : Type}

theorem Stream.vacant_settled {stream : Stream Value} {store : Store σ} {cell : Nat}
    (apart : cell ≠ stream.cell) (value : Value) (vacant : store.Vacant cell) :
    (stream.settled value store).Vacant cell := by
  obtain ⟨inside, empty⟩ := (store.vacant_iff cell).mp vacant
  refine (Store.vacant_iff _ cell).mpr ⟨?_, ?_⟩
  · rw [settled, Store.nextCell_keep]
    exact inside
  · rw [settled, Store.result?_keep_of_ne _ apart]
    exact empty

namespace Machine

variable {host : Host σ} {start middle done : Machine σ} {cell : Nat} {value : Value}

theorem Answers.earlier (passes : Passes host start middle)
    (answers : Answers host middle cell value done) : Answers host start cell value done := by
  obtain ⟨depth, stream, frames, store, after, same, inside, called, answered, ends⟩ :=
    answers.called
  exact ⟨depth, stream, frames, store, after, same, inside, passes.trans called, answered, ends⟩

/-- A cell that was vacant still is in the end, unless a result() on it answered on the way. -/
def Accounts (host : Host σ) (cell : Nat) (start : Machine σ)
    (ended : Option (Except Failure Value × Store σ)) : Prop :=
  start.store.Vacant cell → ∀ outcome after, ended = some (outcome, after) →
    after.Vacant cell ∨ ∃ value done, Answers host start cell value done

theorem Accounts.after {ended : Option (Except Failure Value × Store σ)}
    (accounts : Accounts host cell middle ended) (passes : Passes host start middle)
    (vacant : middle.store.Vacant cell) : Accounts host cell start ended := by
  intro _ outcome after same
  rcases accounts vacant outcome after same with still | ⟨value, done, answers⟩
  · exact .inl still
  · exact .inr ⟨value, done, answers.earlier passes⟩

theorem Accounts.bind {frame : Frame σ} {frames : List (Frame σ)}
    {ended : Option (Except Failure Value × Store σ)}
    {next : Except Failure Value × Store σ → Option (Except Failure Value × Store σ)}
    (same : ∀ outcome after, (frame.move outcome frames after).store = after)
    (leads : Leads host start (frame :: frames) ended) (accounts : Accounts host cell start ended)
    (rest : ∀ outcome after,
      Accounts host cell (frame.move outcome frames after) (next (outcome, after))) :
    Accounts host cell start (ended.bind next) := by
  intro vacant
  cases ended with
  | none =>
      intro outcome after missing
      cases missing
  | some ended =>
      obtain ⟨outcome, after⟩ := ended
      rcases accounts vacant outcome after rfl with still | answered
      · have moves : Moves host ⟨.answer outcome, frame :: frames, after⟩
            (frame.move outcome frames after) := rfl
        have reached : Passes host start (frame.move outcome frames after) :=
          Relation.ReflTransGen.tail leads moves
        have kept : (frame.move outcome frames after).store.Vacant cell := by
          rw [same]
          exact still
        exact (rest outcome after).after reached kept vacant
      · intro _ _ _
        exact .inr answered

theorem accounts_of_result {depth : Nat} {stream : Stream Value} {frames : List (Frame σ)}
    {store : Store σ} (empty : store.result? stream.cell = none)
    (accounts : Accounts host cell
      ⟨.resolve depth 0 stream.source stream.steps, .settle stream :: frames, store⟩
      (resolve (host.call depth) 0 stream.source stream.steps store)) :
    Accounts host cell ⟨.result depth stream, frames, store⟩
      (stream.result (host.call depth) store) := by
  have moves : Moves host ⟨.result depth stream, frames, store⟩
      ⟨.resolve depth 0 stream.source stream.steps, .settle stream :: frames, store⟩ := by
    rw [Moves, move, Stream.move, empty]
  intro vacant outcome after ran
  have resolving := accounts.after (.single moves) vacant vacant
  have opened := ran
  rw [Stream.result_of_empty empty] at opened
  split at opened
  · cases opened
  · rename_i resolved middle finished
    obtain ⟨rfl, rfl⟩ := Prod.mk.inj (Option.some.inj opened)
    by_cases own : stream.cell = cell
    · have inside : cell < store.nextCell := ((store.vacant_iff cell).mp vacant).1
      exact .inr ⟨_, _, depth, stream, frames, store, _, own, inside, .refl, ran, rfl⟩
    · rcases resolving (.ok resolved) middle finished with still | answered
      · exact .inl (Stream.vacant_settled (Ne.symm own) resolved still)
      · exact .inr answered
  · rename_i failure middle finished
    obtain ⟨rfl, rfl⟩ := Prod.mk.inj (Option.some.inj opened)
    exact resolving (.error failure) middle finished

theorem accounts_composes (host : Host σ) (cell : Nat) :
    Composes host fun start frames ended =>
      Leads host start frames ended ∧ Accounts host cell start ended where
  answers outcome frames store := by
    refine ⟨leads_composes.answers outcome frames store, ?_⟩
    intro vacant other after same
    cases same
    exact .inl vacant
  halts depth callable args frames store stuck := by
    refine ⟨leads_composes.halts depth callable args frames store stuck, ?_⟩
    intro _ outcome after missing
    cases missing
  moves := by
    rintro start middle frames ended moves grows ⟨leads, accounts⟩
    refine ⟨leads_composes.moves moves grows leads, ?_⟩
    intro vacant
    exact accounts.after (.single moves) (grows.vacant vacant) vacant
  waits := by
    rintro start frame frames ended next same ⟨leads, accounts⟩ rest
    refine ⟨leads_composes.waits same leads fun outcome after => (rest outcome after).1, ?_⟩
    exact accounts.bind same leads fun outcome after => (rest outcome after).2
  settles := by
    rintro depth stream frames store empty ⟨leads, accounts⟩
    exact ⟨leads_composes.settles depth stream frames store empty leads,
      accounts_of_result empty accounts⟩

theorem Answers.before_end {control : Control σ} {store after : Store σ}
    {outcome : Except Failure Value} (ran : control.run host store = some (outcome, after))
    (answers : Answers host ⟨control, [], store⟩ cell value done) :
    Passes host done ⟨.answer outcome, [], after⟩ ∧ after.result? cell = some value := by
  obtain ⟨reached, kept⟩ := answers.kept
  have ends := (run_eq_some_iff control store after outcome).mp ran
  have further : Passes host done ⟨.answer outcome, [], after⟩ := by
    rcases passes_total reached ends with further | further
    · exact further
    · cases eq_of_stuck rfl further
      exact .refl
  exact ⟨further, (Passes.evolves further).keeps cell value kept⟩

end Machine

open Machine in
/-- A result() that fails leaves its stream unresolved, unless a call of result() on the same cell,
made by its callables at any depth, answered meanwhile: its value is what the cell then holds. -/
theorem failed_result_keeps_nested (host : Host σ) {depth : Nat} {stream : Stream Value}
    {store after : Store σ} {failure : Failure} (vacant : store.Vacant stream.cell)
    (failed : stream.result (host.call depth) store = some (.error failure, after)) :
    (stream.isResolved after = true ↔
        ∃ value done, Answers host ⟨.result depth stream, [], store⟩ stream.cell value done) ∧
      ∀ value done, Answers host ⟨.result depth stream, [], store⟩ stream.cell value done →
        Passes host done ⟨.answer (.error failure), [], after⟩ ∧
          after.result? stream.cell = some value := by
  have ran : (Control.result depth stream).run host store = some (.error failure, after) := failed
  refine ⟨⟨?_, ?_⟩, ?_⟩
  · intro resolved
    have accounts := ((accounts_composes host stream.cell).run (.result depth stream) [] store).2
    rcases accounts vacant _ _ ran with still | answered
    · rw [Stream.isResolved, still.result?] at resolved
      cases resolved
    · exact answered
  · rintro ⟨value, done, answers⟩
    rw [Stream.isResolved, (answers.before_end ran).2]
    rfl
  · intro value done answers
    exact answers.before_end ran

namespace Overtaken

def again : Candidate := ⟨"again", ⟨.any, [], .any⟩, .custom 0 "again"⟩

def strlen : Candidate := ⟨"strlen", ⟨.string, [], .number⟩, .native .strlen⟩

def snapshot : Snapshot :=
  ⟨((NameTable.empty.put "again" [again]).put "strlen" [strlen]).put "then"
    Registry.applyOverload.candidates⟩

def source : Value := .string "abc"

def calls : List Call := [⟨"again", []⟩, ⟨"strlen", []⟩]

def begun : Stream Value := ⟨0, snapshot, source, .string, []⟩

def midway : Stream Value := ⟨1, snapshot, source, .any, [⟨"again", [again], []⟩]⟩

def grown : Stream Value :=
  ⟨2, snapshot, source, .number, [⟨"again", [again], []⟩, ⟨"strlen", [strlen], []⟩]⟩

def store : Store (List Nat) := ⟨Array.replicate 3 none, .withBuiltins, [], []⟩

/-- Callables answer with their argument. But a first run of the callable `0` before any other asks
for the result of a stream that it is part of, and wraps it. -/
def host (whole : Stream Value) : Host (List Nat) := fun id args =>
  .unary "again" args fun value =>
    .read fun ran => .write (ran ++ [id])
      (if id = 0 ∧ ran = [] then .result whole fun outcome =>
        match outcome with
        | .ok inner => .answer (.list [inner])
        | .error failure => .done (.error failure)
      else .answer value)

theorem started : Stream.Started snapshot source begun := ⟨Nat, Sample.store 0, _, rfl⟩

theorem extends_ : begun.Extends calls grown := by
  have accepted : begun.invoke "again" [] (Sample.store 1) = some (.ok midway, _) := rfl
  have measured : midway.invoke "strlen" [] (Sample.store 2) = some (.ok grown, _) := rfl
  exact (Stream.Extends.refl.invoke accepted).invoke measured

theorem vacant : store.Vacant grown.cell := rfl

end Overtaken

/-- The nested call gets to the text and keeps its length; the outer one gets to a list and fails,
and leaves its stream resolved. -/
theorem failed_and_resolved :
    Stream.Started Overtaken.snapshot Overtaken.source Overtaken.begun ∧
      Overtaken.begun.Extends Overtaken.calls Overtaken.grown ∧
      Overtaken.grown.isResolved Overtaken.store = false ∧
      ∃ after, Overtaken.grown.result ((Overtaken.host Overtaken.grown).call 2) Overtaken.store =
          some (.error (.wrongTransformationArgs "strlen" [.list] [[.string]]), after) ∧
        Overtaken.grown.isResolved after = true ∧
        after.result? Overtaken.grown.cell = some (.ofNat 3) :=
  ⟨Overtaken.started, Overtaken.extends_, rfl, _, rfl, rfl, rfl⟩

theorem failed_result_keeps_nested_overtaken :
    ∃ failure after,
      Overtaken.grown.result ((Overtaken.host Overtaken.grown).call 2) Overtaken.store =
        some (.error failure, after) ∧
      ∃ value done, Machine.Answers (Overtaken.host Overtaken.grown)
        ⟨.result 2 Overtaken.grown, [], Overtaken.store⟩ Overtaken.grown.cell value done :=
  ⟨_, _, rfl, (failed_result_keeps_nested (Overtaken.host Overtaken.grown) Overtaken.vacant
    rfl).1.mp rfl⟩

end LazyDispatch
