import LazyDispatch.Host

/-! Runs, opened. Each kind of code has one equation that says what it does to a store, and later
modules use these equations alone. -/

namespace LazyDispatch

variable {σ α β : Type}

namespace Run

theorem bind_apply (run : Run σ α) (next : α → Run σ β) (store : Store σ) :
    (run >>= next) store =
      match run store with
      | none => none
      | some (.ok value, after) => next value after
      | some (.error failure, after) => some (.error failure, after) := by
  simp only [bind, ExceptT.bind, ExceptT.mk, StateT.bind]
  cases run store with
  | none => rfl
  | some ended =>
      obtain ⟨outcome, after⟩ := ended
      cases outcome <;> rfl

theorem bind_apply_bind (run : Run σ α) (next : α → Run σ β) (store : Store σ) :
    (run >>= next) store = (run store).bind fun ended =>
      match ended with
      | (.ok value, after) => next value after
      | (.error failure, after) => some (.error failure, after) := by
  rw [bind_apply]
  cases run store with
  | none => rfl
  | some ended =>
      obtain ⟨outcome, after⟩ := ended
      cases outcome <;> rfl

theorem bind_of_ok {run : Run σ α} {store after : Store σ} {value : α}
    (ran : run store = some (.ok value, after)) (next : α → Run σ β) :
    (run >>= next) store = next value after := by
  rw [bind_apply, ran]

theorem attempt_bind_apply (run : Run σ α) (next : Except Failure α → Run σ β) (store : Store σ) :
    (attempt run >>= next) store = (run store).bind fun ended => next ended.1 ended.2 := by
  rw [bind_apply, attempt]
  cases run store <;> rfl

theorem of_bind_eq_some {run : Run σ α} {next : α → Run σ β} {store after : Store σ}
    {outcome : Except Failure β} (ran : (run >>= next) store = some (outcome, after)) :
    (∃ value middle, run store = some (.ok value, middle) ∧
        next value middle = some (outcome, after)) ∨
      ∃ failure, run store = some (.error failure, after) ∧ outcome = .error failure := by
  rw [bind_apply] at ran
  split at ran
  · cases ran
  · rename_i value middle first
    exact .inl ⟨value, middle, first, ran⟩
  · rename_i failure middle first
    obtain ⟨rfl, rfl⟩ := Prod.mk.inj (Option.some.inj ran)
    exact .inr ⟨failure, first, rfl⟩

end Run

namespace PendingStep

def types (step : PendingStep Value) (current : Value) : List Tag :=
  Value.tags current.tag step.args

def choose? (step : PendingStep Value) (current : Value) : Option Candidate :=
  step.candidates.find? fun candidate => candidate.accepts (step.types current)

def mismatch (step : PendingStep Value) (current : Value) : Failure :=
  .wrongTransformationArgs step.operation (step.types current)
    (step.candidates.map Candidate.params)

def chosen (step : PendingStep Value) (index : Nat) (current : Value) (candidate : Candidate) :
    Event :=
  .stepResolved step.operation index (step.types current) candidate.signature

def mismatched (step : PendingStep Value) (index : Nat) (current : Value) : Event :=
  .wrongTransformationArgs step.operation index (step.types current)

end PendingStep

theorem resolve_nil (call : Callable → List Value → Run σ Value) (index : Nat) (current : Value)
    (store : Store σ) : resolve call index current [] store = some (.ok current, store) := rfl

theorem resolve_of_mismatch {step : PendingStep Value} {current : Value}
    (none : step.choose? current = none) (call : Callable → List Value → Run σ Value)
    (index : Nat) (rest : List (PendingStep Value)) (store : Store σ) :
    resolve call index current (step :: rest) store =
      some (.error (step.mismatch current), store.report [step.mismatched index current]) := by
  have none : (step.candidates.find? fun candidate =>
      candidate.accepts (Value.tags current.tag step.args)) = Option.none := none
  simp only [resolve, none]
  rfl

theorem resolve_of_chosen {step : PendingStep Value} {current : Value} {candidate : Candidate}
    (chosen : step.choose? current = some candidate) (call : Callable → List Value → Run σ Value)
    (index : Nat) (rest : List (PendingStep Value)) (store : Store σ) :
    resolve call index current (step :: rest) store =
      (call candidate.callable (current :: step.args) >>= fun next =>
        resolve call (index + 1) next rest)
        (store.report [step.chosen index current candidate]) := by
  have found : (step.candidates.find? fun candidate =>
      candidate.accepts (Value.tags current.tag step.args)) = some candidate := chosen
  simp only [resolve, found]
  rfl

namespace Store

/-- The cell was given out, and nothing is kept there yet. -/
def Vacant (store : Store σ) (cell : Nat) : Prop := store.results[cell]? = some none

theorem Vacant.result? {store : Store σ} {cell : Nat} (vacant : store.Vacant cell) :
    store.result? cell = none := by
  rw [Store.result?, vacant]
  rfl

theorem Vacant.keep {store : Store σ} {cell : Nat} (vacant : store.Vacant cell) (value : Value) :
    (store.keep cell value).result? cell = some value := by
  obtain ⟨inside, -⟩ := Array.getElem?_eq_some_iff.mp vacant
  rw [result?_keep store inside, vacant.result?]
  rfl

theorem Vacant.report {store : Store σ} {cell : Nat} (vacant : store.Vacant cell)
    (events : List Event) : (store.report events).Vacant cell := vacant

@[simp] theorem result?_report (store : Store σ) (events : List Event) (cell : Nat) :
    (store.report events).result? cell = store.result? cell := rfl

theorem report_report (store : Store σ) (events more : List Event) :
    (store.report events).report more = store.report (events ++ more) := by
  simp only [report, List.append_assoc]

@[simp] theorem nextCell_report (store : Store σ) (events : List Event) :
    (store.report events).nextCell = store.nextCell := rfl

@[simp] theorem nextCell_keep (store : Store σ) (cell : Nat) (value : Value) :
    (store.keep cell value).nextCell = store.nextCell := by
  unfold keep
  cases store.result? cell with
  | some kept => rfl
  | none => simp only [nextCell, Array.size_setIfInBounds]

@[simp] theorem host_keep (store : Store σ) (cell : Nat) (value : Value) :
    (store.keep cell value).host = store.host := by
  unfold keep
  cases store.result? cell <;> rfl

@[simp] theorem shared_keep (store : Store σ) (cell : Nat) (value : Value) :
    (store.keep cell value).shared = store.shared := by
  unfold keep
  cases store.result? cell <;> rfl

@[simp] theorem result?_allocate (store : Store σ) (cell : Nat) :
    store.allocate.result? cell = store.result? cell := by
  rw [result?, result?, allocate]
  by_cases inside : cell < store.results.size
  · rw [Array.getElem?_push_lt inside, ← Array.getElem?_eq_getElem inside]
  · have outside : store.results.size ≤ cell := Nat.le_of_not_lt inside
    rw [Array.getElem?_eq_none outside]
    by_cases next : cell = store.results.size
    · rw [next, Array.getElem?_push_size]
      rfl
    · rw [Array.getElem?_eq_none (by rw [Array.size_push]; omega)]

@[simp] theorem nextCell_allocate (store : Store σ) :
    store.allocate.nextCell = store.nextCell + 1 := Array.size_push _

theorem result?_nextCell (store : Store σ) : store.result? store.nextCell = none := by
  rw [result?, nextCell, Array.getElem?_eq_none (Nat.le_refl _)]
  rfl

theorem result?_keep_self (store : Store σ) (cell : Nat) (value : Value) :
    ((store.keep cell value).result? cell).getD value = (store.result? cell).getD value := by
  by_cases inside : cell < store.nextCell
  · rw [result?_keep store inside]
    rfl
  · have outside : store.results.size ≤ cell := Nat.le_of_not_lt inside
    have empty : store.result? cell = none := by simp [result?, outside]
    simp [keep, result?, outside]

end Store

namespace Stream

theorem start_apply (snapshot : Snapshot) (source : Value) (store : Store σ) :
    start snapshot source store =
      some (.ok ⟨store.nextCell, snapshot, source, source.tag, []⟩,
        (store.report [.streamCreated source.tag]).allocate) := rfl

def longer (stream : Stream Value) (cell : Nat) (step : PendingStep Value) (next : Tag) :
    Stream Value :=
  { stream with cell, predicted := next, steps := stream.steps ++ [step] }

theorem invoke_of_planned {stream : Stream Value} {operation : String} {args : List Value}
    {step : PendingStep Value} {next : Tag}
    (planned : stream.snapshot.plan stream.predicted operation args = .ok (step, next))
    (store : Store σ) :
    stream.invoke operation args store =
      some (.ok (stream.longer store.nextCell step next),
        (store.report [.stepAppended operation (Value.tags stream.predicted args)
          step.candidates.length next]).allocate) := by
  simp only [invoke, planned]
  rfl

theorem invoke_of_refused {stream : Stream Value} {operation : String} {args : List Value}
    {failure : Failure}
    (refused : stream.snapshot.plan stream.predicted operation args = .error failure)
    (store : Store σ) : stream.invoke operation args store = some (.error failure, store) := by
  simp only [invoke, refused]
  rfl

theorem of_invoke_eq_ok {stream made : Stream Value} {operation : String} {args : List Value}
    {store after : Store σ}
    (accepted : stream.invoke operation args store = some (.ok made, after)) :
    ∃ step next, stream.snapshot.plan stream.predicted operation args = .ok (step, next) ∧
      made = stream.longer store.nextCell step next ∧
      after = (store.report [.stepAppended operation (Value.tags stream.predicted args)
        step.candidates.length next]).allocate := by
  cases planned : stream.snapshot.plan stream.predicted operation args with
  | error failure =>
      rw [invoke_of_refused planned] at accepted
      cases accepted
  | ok plan =>
      obtain ⟨step, next⟩ := plan
      rw [invoke_of_planned planned] at accepted
      cases accepted
      exact ⟨step, next, rfl, rfl, rfl⟩

theorem result_of_kept {stream : Stream Value} {store : Store σ} {value : Value}
    (kept : store.result? stream.cell = some value) (call : Callable → List Value → Run σ Value) :
    stream.result call store = some (.ok value, store) := by
  rw [result, Run.bind_of_ok (rfl : Run.store store = some (.ok store, store))]
  simp only [kept]
  rfl

def settled (stream : Stream Value) (value : Value) (store : Store σ) : Store σ :=
  (store.report [.streamResolved stream.steps.length value.tag]).keep stream.cell value

theorem result?_settled {stream : Stream Value} {store : Store σ}
    (inside : stream.cell < store.nextCell) (value : Value) :
    (stream.settled value store).result? stream.cell =
      some ((store.result? stream.cell).getD value) :=
  Store.result?_keep (store.report [.streamResolved stream.steps.length value.tag]) inside value

theorem result_of_empty {stream : Stream Value} {store : Store σ}
    (empty : store.result? stream.cell = none) (call : Callable → List Value → Run σ Value) :
    stream.result call store =
      match resolve call 0 stream.source stream.steps store with
      | none => none
      | some (.ok value, after) =>
        some (.ok ((after.result? stream.cell).getD value), stream.settled value after)
      | some (.error failure, after) => some (.error failure, after) := by
  rw [result, Run.bind_of_ok (rfl : Run.store store = some (.ok store, store))]
  simp only [empty]
  rw [Run.bind_apply]
  cases resolve call 0 stream.source stream.steps store with
  | none => rfl
  | some ended =>
      obtain ⟨outcome, after⟩ := ended
      cases outcome with
      | error failure => rfl
      | ok value =>
          simp only
          rw [← Store.result?_report after [.streamResolved stream.steps.length value.tag],
            ← Store.result?_keep_self]
          rfl

end Stream

theorem Host.call_native (host : Host σ) (depth : Nat) (native : Native) (args : List Value)
    (store : Store σ) :
    host.call (depth + 1) (.native native) args store =
      (Halt.outcome? (native.run args)).map fun outcome => (outcome, store) := rfl

theorem Host.of_call_native {host : Host σ} {depth : Nat} {native : Native} {args : List Value}
    {store after : Store σ} {outcome : Except Failure Value}
    (ran : host.call (depth + 1) (.native native) args store = some (outcome, after)) :
    Halt.outcome? (native.run args) = some outcome ∧ after = store := by
  rw [call_native, Option.map_eq_some_iff] at ran
  obtain ⟨ended, came, same⟩ := ran
  cases same
  exact ⟨came, rfl⟩

theorem Host.call_apply (host : Host σ) (depth : Nat) (args : List Value) (store : Store σ) :
    host.call (depth + 1) .apply args store =
      match Callable.binary "then" args with
      | .error failure => some (.error failure, store)
      | .ok (value, .function callable) => host.call depth callable [value] store
      | .ok (_, other) =>
        some (.error (.raised
          ("then() expects a function, " ++ other.tag.name ++ " given")), store) := by
  rw [Host.call]
  cases Callable.binary "then" args with
  | error failure => rfl
  | ok pair =>
      obtain ⟨value, other⟩ := pair
      cases other <;> rfl

end LazyDispatch
