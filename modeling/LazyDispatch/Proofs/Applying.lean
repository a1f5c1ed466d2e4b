import LazyDispatch.Proofs.Keeping
import LazyDispatch.Proofs.Mirroring
import LazyDispatch.Proofs.Nesting
import LazyDispatch.Proofs.Shape

/-! Functions applied to a stream. The built-in operation takes any function as one more step,
whatever the prediction, and no value stops it. A result runs the steps that were there before, and
then the functions one after another, each once and on what the one before it answered. -/

namespace LazyDispatch

def Candidate.applying : Candidate := ⟨"then", ⟨.any, [.function], .any⟩, .apply⟩

def Call.applying (function : Callable) : Call := ⟨"then", [.function function]⟩

def PendingStep.applying (function : Callable) : PendingStep Value :=
  ⟨"then", [Candidate.applying], [.function function]⟩

/-- The snapshot has the built-in operation, and no other overload under its name. -/
def Snapshot.AppliesOnly (snapshot : Snapshot) : Prop :=
  snapshot.candidates? "then" = some [Candidate.applying]

def Event.applying (place : Nat) (current : Value) : Event :=
  .stepResolved "then" place [current.tag, .function] ⟨.any, [.function], .any⟩

variable {σ : Type}

/-- Functions run one after another, from a place among the steps on: the first on a value, each
other on what the one before it answered, up to the first that fails. -/
inductive Feeds (call : Callable → List Value → Run σ Value) :
    Nat → Value → Store σ → List Callable → List Application → Except Failure Value → Store σ →
      Prop where
  | nil {place : Nat} {current : Value} {store : Store σ} :
      Feeds call place current store [] [] (.ok current) store
  | answered {place : Nat} {current next : Value} {store middle after : Store σ}
      {function : Callable} {rest : List Callable} {runs : List Application}
      {outcome : Except Failure Value}
      (ran : call function [current] (store.report [.applying place current]) =
        some (.ok next, middle))
      (later : Feeds call (place + 1) next middle rest runs outcome after) :
      Feeds call place current store (function :: rest) (⟨function, [current]⟩ :: runs) outcome
        after
  | failed {place : Nat} {current : Value} {store after : Store σ} {function : Callable}
      {rest : List Callable} {failure : Failure}
      (ran : call function [current] (store.report [.applying place current]) =
        some (.error failure, after)) :
      Feeds call place current store (function :: rest) [⟨function, [current]⟩] (.error failure)
        after

/-- The functions that ran are the first ones, in order, each run once and on one argument; for an
answer they are all of them. -/
structure RanInOrder (functions : List Callable) (runs : List Application)
    (outcome : Except Failure Value) : Prop where
  front : runs.map Application.callable <+: functions
  alone : ∀ run ∈ runs, ∃ value, run.args = [value]
  whole : ∀ value, outcome = .ok value → runs.map Application.callable = functions

/-- None of the functions that run this way resolves the stream of the cell. -/
inductive Spares (call : Callable → List Value → Run σ Value) (cell : Nat) :
    Nat → Value → Store σ → List Callable → Prop where
  | nil {place : Nat} {current : Value} {store : Store σ} : Spares call cell place current store []
  | cons {place : Nat} {current : Value} {store : Store σ} {function : Callable}
      {rest : List Callable}
      (here : ∀ outcome after,
        call function [current] (store.report [.applying place current]) = some (outcome, after) →
          after.Vacant cell)
      (later : ∀ next after,
        call function [current] (store.report [.applying place current]) =
          some (.ok next, after) → Spares call cell (place + 1) next after rest) :
      Spares call cell place current store (function :: rest)

/-- How a result comes out on a stream that functions were applied to: its own steps fail, one of
the functions fails, or all of them answer. The last answer stands, unless a callable of its own
steps has resolved the longer stream meanwhile. -/
inductive Stream.Applies (host : Host σ) (depth : Nat) (stream : Stream Value)
    (functions : List Callable) (final : Stream Value) (store : Store σ) :
    List Application → Except Failure Value → Store σ → Prop where
  | stopped {failure : Failure} {after : Store σ}
      (failed : resolve (host.call (depth + 1)) 0 stream.source stream.steps store =
        some (.error failure, after)) :
      Applies host depth stream functions final store [] (.error failure) after
  | failed {current : Value} {middle after : Store σ} {runs : List Application} {failure : Failure}
      (came : resolve (host.call (depth + 1)) 0 stream.source stream.steps store =
        some (.ok current, middle))
      (feeds : Feeds (host.call depth) stream.steps.length current middle functions runs
        (.error failure) after) :
      Applies host depth stream functions final store runs (.error failure) after
  | value {current value : Value} {middle after : Store σ} {runs : List Application}
      (came : resolve (host.call (depth + 1)) 0 stream.source stream.steps store =
        some (.ok current, middle))
      (unresolved : middle.Vacant final.cell)
      (feeds : Feeds (host.call depth) stream.steps.length current middle functions runs
        (.ok value) after) :
      Applies host depth stream functions final store runs (.ok value) (final.settled value after)
  | overtaken {current value kept : Value} {middle after : Store σ} {runs : List Application}
      (came : resolve (host.call (depth + 1)) 0 stream.source stream.steps store =
        some (.ok current, middle))
      (resolved : middle.result? final.cell = some kept)
      (feeds : Feeds (host.call depth) stream.steps.length current middle functions runs
        (.ok value) after) :
      Applies host depth stream functions final store runs (.ok kept) (final.settled value after)

section

variable {call : Callable → List Value → Run σ Value} {place cell : Nat} {current value : Value}
  {store after : Store σ} {functions : List Callable} {runs : List Application}
  {outcome : Except Failure Value} {host : Host σ} {depth : Nat}

theorem PendingStep.choose?_applying (function : Callable) (current : Value) :
    (applying function).choose? current = some Candidate.applying := rfl

theorem Snapshot.AppliesOnly.plan {snapshot : Snapshot} (only : snapshot.AppliesOnly)
    (predicted : Tag) (function : Callable) :
    snapshot.plan predicted "then" [.function function] =
      .ok (PendingStep.applying function, .any) :=
  plan_eq_ok.mpr ⟨_, only, rfl, rfl⟩

namespace Feeds

theorem ranInOrder (feeds : Feeds call place current store functions runs outcome after) :
    RanInOrder functions runs outcome := by
  induction feeds with
  | nil => exact ⟨List.nil_prefix, List.forall_mem_nil _, fun _ _ => rfl⟩
  | answered ran later ih =>
      refine ⟨(List.prefix_cons_inj _).mpr ih.front, ?_, ?_⟩
      · exact List.forall_mem_cons.mpr ⟨⟨_, rfl⟩, ih.alone⟩
      · intro value answered
        rw [List.map_cons, ih.whole value answered]
  | failed ran =>
      refine ⟨(List.prefix_cons_inj _).mpr List.nil_prefix, ?_, ?_⟩
      · exact List.forall_mem_singleton.mpr ⟨_, rfl⟩
      · intro value answered
        cases answered

theorem vacant (feeds : Feeds call place current store functions runs outcome after)
    (spares : Spares call cell place current store functions) (vacant : store.Vacant cell) :
    after.Vacant cell := by
  induction feeds with
  | nil => exact vacant
  | answered ran later ih =>
      cases spares with
      | cons here onward => exact ih (onward _ _ ran) (here _ _ ran)
  | failed ran =>
      cases spares with
      | cons here onward => exact here _ _ ran

theorem evolves (feeds : Feeds (host.call depth) place current store functions runs outcome after) :
    store.Evolves after := by
  have runs {callable : Callable} {args : List Value} {before after : Store σ}
      {outcome : Except Failure Value} (events : List Event)
      (ran : host.call depth callable args (before.report events) = some (outcome, after)) :
      before.Evolves after := by
    have called : (Control.call depth callable args).run host (before.report events) =
      some (outcome, after) := ran
    exact (before.grows_report events).evolves.trans (Machine.evolves_of_run called)
  induction feeds with
  | nil => exact .refl _
  | answered ran later ih => exact (runs _ ran).trans ih
  | failed ran => exact runs _ ran

theorem cons_iff {function : Callable} {rest : List Callable} :
    (∃ runs, Feeds call place current store (function :: rest) runs outcome after) ↔
      (∃ failure, call function [current] (store.report [.applying place current]) =
        some (.error failure, after) ∧ outcome = .error failure) ∨
      ∃ next middle, call function [current] (store.report [.applying place current]) =
        some (.ok next, middle) ∧
        ∃ runs, Feeds call (place + 1) next middle rest runs outcome after := by
  constructor
  · rintro ⟨runs, feeds⟩
    cases feeds with
    | answered ran later => exact .inr ⟨_, _, ran, _, later⟩
    | failed ran => exact .inl ⟨_, ran, rfl⟩
  · rintro (⟨failure, ran, rfl⟩ | ⟨next, middle, ran, runs, later⟩)
    · exact ⟨_, .failed ran⟩
    · exact ⟨_, .answered ran later⟩

end Feeds

theorem Run.bind_eq_some_iff {α β : Type} {run : Run σ α} {next : α → Run σ β}
    {store after : Store σ} {outcome : Except Failure β} :
    (run >>= next) store = some (outcome, after) ↔
      (∃ failure, run store = some (.error failure, after) ∧ outcome = .error failure) ∨
      ∃ value middle, run store = some (.ok value, middle) ∧
        next value middle = some (outcome, after) := by
  constructor
  · intro ran
    exact (of_bind_eq_some ran).symm
  · rintro (⟨failure, first, rfl⟩ | ⟨value, middle, first, second⟩)
    · rw [bind_apply, first]
    · rw [bind_of_ok first, second]

theorem resolve_append (call : Callable → List Value → Run σ Value) (index : Nat) (current : Value)
    (front back : List (PendingStep Value)) (store : Store σ) :
    resolve call index current (front ++ back) store =
      (resolve call index current front >>= fun next =>
        resolve call (index + front.length) next back) store := by
  induction front generalizing index current store with
  | nil => rfl
  | cons step rest ih =>
      cases choice : step.choose? current with
      | none =>
          rw [List.cons_append, resolve_of_mismatch choice, Run.bind_apply,
            resolve_of_mismatch choice]
      | some candidate =>
          have places : index + (step :: rest).length = index + 1 + rest.length := by
            rw [List.length_cons]
            omega
          rw [List.cons_append, resolve_of_chosen choice, Run.bind_apply, Run.bind_apply,
            resolve_of_chosen choice, Run.bind_apply, places]
          cases call candidate.callable (current :: step.args)
              (store.report [step.chosen index current candidate]) with
          | none => rfl
          | some ended =>
              obtain ⟨outcome, middle⟩ := ended
              cases outcome with
              | error failure => rfl
              | ok next => exact (ih (index + 1) next middle).trans (Run.bind_apply _ _ _)

theorem resolve_applying_iff :
    resolve (host.call (depth + 1)) place current (functions.map PendingStep.applying) store =
        some (outcome, after) ↔
      ∃ runs, Feeds (host.call depth) place current store functions runs outcome after := by
  induction functions generalizing place current store with
  | nil =>
      rw [List.map_nil, resolve_nil]
      constructor
      · intro same
        cases same
        exact ⟨[], .nil⟩
      · rintro ⟨runs, feeds⟩
        cases feeds
        rfl
  | cons function rest ih =>
      have applied : host.call (depth + 1) .apply [current, .function function]
          (store.report [.applying place current]) =
        host.call depth function [current] (store.report [.applying place current]) :=
        Host.call_apply _ _ _ _
      rw [List.map_cons, resolve_of_chosen (PendingStep.choose?_applying function current),
        Run.bind_eq_some_iff, Feeds.cons_iff]
      simp only [ih]
      rw [← applied]
      rfl

theorem Spares.of_forall
    (spares : ∀ function ∈ functions, ∀ args before outcome after, before.Vacant cell →
      call function args before = some (outcome, after) → after.Vacant cell)
    (vacant : store.Vacant cell) : Spares call cell place current store functions := by
  induction functions generalizing place current store with
  | nil => exact .nil
  | cons function rest ih =>
      have here := spares function List.mem_cons_self
      have onward := fun other member => spares other (List.mem_cons_of_mem function member)
      have kept := vacant.report [.applying place current]
      refine .cons (fun outcome after ran => here _ _ _ _ kept ran) ?_
      intro next after ran
      exact ih onward (here _ _ _ _ kept ran)

namespace Stream

variable {stream final : Stream Value}

/-- None of the functions that run for a result of the final stream resolves it. -/
def SparedBy (host : Host σ) (depth : Nat) (stream : Stream Value) (functions : List Callable)
    (final : Stream Value) (store : Store σ) : Prop :=
  ∀ current middle, resolve (host.call (depth + 1)) 0 stream.source stream.steps store =
    some (.ok current, middle) → middle.Vacant final.cell →
      Spares (host.call depth) final.cell stream.steps.length current middle functions

theorem result_eq_some_iff_of_empty (empty : store.result? stream.cell = none) :
    stream.result call store = some (outcome, after) ↔
      (∃ failure, resolve call 0 stream.source stream.steps store = some (.error failure, after) ∧
        outcome = .error failure) ∨
      ∃ value middle, resolve call 0 stream.source stream.steps store = some (.ok value, middle) ∧
        outcome = .ok ((middle.result? stream.cell).getD value) ∧
        after = stream.settled value middle := by
  rw [result_of_empty empty]
  cases resolve call 0 stream.source stream.steps store with
  | none => simp
  | some ended =>
      obtain ⟨answer, middle⟩ := ended
      cases answer <;> simp [eq_comm, and_comm]

end Stream

end

theorem Store.Evolves.vacant_or_kept {before after : Store σ} (evolves : before.Evolves after)
    {cell : Nat} (vacant : before.Vacant cell) :
    after.Vacant cell ∨ ∃ kept, after.result? cell = some kept := by
  have inside := Nat.lt_of_lt_of_le ((before.vacant_iff cell).mp vacant).1 evolves.cells
  cases held : after.result? cell with
  | none => exact .inl ((after.vacant_iff cell).mpr ⟨inside, held⟩)
  | some kept => exact .inr ⟨kept, rfl⟩

namespace Stream

structure Gains (stream : Stream Value) (functions : List Callable) (final : Stream Value) :
    Prop where
  snapshot : final.snapshot = stream.snapshot
  source : final.source = stream.source
  steps : final.steps = stream.steps ++ functions.map PendingStep.applying
  predicted : functions ≠ [] → final.predicted = .any

structure TakesOn (stream : Stream Value) (functions : List Callable) (function : Callable)
    (longer : Stream Value) (after : Store σ) : Prop where
  extends_ : stream.Extends ((functions ++ [function]).map Call.applying) longer
  predicted : longer.predicted = .any
  unresolved : after.Vacant longer.cell

variable {stream final : Stream Value} {functions : List Callable} {host : Host σ} {depth : Nat}
  {store after : Store σ} {runs : List Application} {outcome : Except Failure Value}

theorem planned_applying {snapshot : Snapshot} (only : snapshot.AppliesOnly) {first last : Tag}
    {steps : List (PendingStep Value)}
    (planned : snapshot.Planned first (functions.map Call.applying) steps last) :
    steps = functions.map PendingStep.applying ∧ (functions ≠ [] → last = .any) := by
  induction functions generalizing first steps with
  | nil =>
      cases planned
      exact ⟨rfl, fun some => absurd rfl some⟩
  | cons function rest ih =>
      cases planned with
      | cons accepted later =>
          cases (only.plan first function).symm.trans accepted
          obtain ⟨rfl, any⟩ := ih later
          refine ⟨rfl, fun _ => ?_⟩
          cases rest with
          | nil =>
              cases later
              rfl
          | cons next rest => exact any (List.cons_ne_nil _ _)

theorem Extends.gains (extends_ : stream.Extends (functions.map Call.applying) final)
    (only : stream.snapshot.AppliesOnly) : stream.Gains functions final := by
  obtain ⟨snapshot, source, steps, appended, planned⟩ := extends_.planned
  obtain ⟨rfl, predicted⟩ := planned_applying only planned
  exact ⟨snapshot, source, appended, predicted⟩

theorem Extends.takesOn (extends_ : stream.Extends (functions.map Call.applying) final)
    (only : stream.snapshot.AppliesOnly) (function : Callable) (store : Store σ) :
    ∃ longer after, final.andThen function store = some (.ok longer, after) ∧
      stream.TakesOn functions function longer after := by
  have known : final.snapshot.AppliesOnly := (extends_.gains only).snapshot ▸ only
  have accepted : final.andThen function store = some (.ok _, _) :=
    invoke_of_planned (known.plan final.predicted function) store
  refine ⟨_, _, accepted, ?_, rfl, ?_⟩
  · rw [List.map_append]
    exact extends_.invoke accepted
  · refine (Store.vacant_iff _ _).mpr ⟨?_, Store.result?_allocate_nextCell _⟩
    rw [Store.nextCell_allocate]
    exact Nat.lt_succ_self _

theorem Applies.ranInOrder
    (applies : stream.Applies host depth functions final store runs outcome after) :
    RanInOrder functions runs outcome := by
  cases applies with
  | stopped failed =>
      refine ⟨List.nil_prefix, List.forall_mem_nil _, ?_⟩
      intro value answered
      cases answered
  | failed came feeds => exact feeds.ranInOrder
  | value came unresolved feeds => exact feeds.ranInOrder
  | overtaken came resolved feeds =>
      obtain ⟨front, alone, whole⟩ := feeds.ranInOrder
      exact ⟨front, alone, fun _ _ => whole _ rfl⟩

theorem Applies.of_answered {current value : Value} {middle : Store σ}
    (vacant : store.Vacant final.cell) (spared : stream.SparedBy host depth functions final store)
    (came : resolve (host.call (depth + 1)) 0 stream.source stream.steps store =
      some (.ok current, middle))
    (feeds : Feeds (host.call depth) stream.steps.length current middle functions runs (.ok value)
      after) :
    stream.Applies host depth functions final store runs
      (.ok ((after.result? final.cell).getD value)) (final.settled value after) := by
  have ran : (Control.resolve (depth + 1) 0 stream.source stream.steps).run host store =
      some (.ok current, middle) := came
  rcases (Machine.evolves_of_run ran).vacant_or_kept vacant with unresolved | ⟨kept, resolved⟩
  · have still := feeds.vacant (spared current middle came unresolved) unresolved
    rw [still.result?]
    exact .value came unresolved feeds
  · rw [feeds.evolves.keeps final.cell kept resolved]
    exact .overtaken came resolved feeds

theorem Gains.result_eq_some_iff (gains : stream.Gains functions final)
    (vacant : store.Vacant final.cell)
    (spared : stream.SparedBy host depth functions final store) :
    final.result (host.call (depth + 1)) store = some (outcome, after) ↔
      ∃ runs, stream.Applies host depth functions final store runs outcome after := by
  rw [result_eq_some_iff_of_empty vacant.result?, gains.source, gains.steps]
  simp only [resolve_append, Run.bind_eq_some_iff, resolve_applying_iff, Nat.zero_add]
  constructor
  · rintro (⟨failure, ended, rfl⟩ | ⟨value, last, ended, rfl, rfl⟩)
    · rcases ended with ⟨_, stopped, same⟩ | ⟨current, middle, came, runs, feeds⟩
      · cases same
        exact ⟨[], .stopped stopped⟩
      · exact ⟨runs, .failed came feeds⟩
    · rcases ended with ⟨_, _, same⟩ | ⟨current, middle, came, runs, feeds⟩
      · cases same
      · exact ⟨runs, .of_answered vacant spared came feeds⟩
  · rintro ⟨runs, applies⟩
    cases applies with
    | stopped failed => exact .inl ⟨_, .inl ⟨_, failed, rfl⟩, rfl⟩
    | failed came feeds => exact .inl ⟨_, .inr ⟨_, _, came, runs, feeds⟩, rfl⟩
    | value came unresolved feeds =>
        have still := feeds.vacant (spared _ _ came unresolved) unresolved
        refine .inr ⟨_, _, .inr ⟨_, _, came, runs, feeds⟩, ?_, rfl⟩
        rw [still.result?]
        rfl
    | overtaken came resolved feeds =>
        refine .inr ⟨_, _, .inr ⟨_, _, came, runs, feeds⟩, ?_, rfl⟩
        rw [feeds.evolves.keeps _ _ resolved]
        rfl

/-- Functions applied one after another to a stream over a snapshot that has the built-in operation
alone. Another function can always be applied, and the prediction is that of any value. Their steps
fit every value. The first result runs the steps of the stream and then the functions in order, each
on the answer of the one before it, up to the first failure; it comes to that failure or to the last
answer. But where the steps of the stream have resolved the longer one by then, the value kept
stands. -/
theorem applies_functions_in_order (only : stream.snapshot.AppliesOnly)
    (extends_ : stream.Extends (functions.map Call.applying) final) :
    stream.Gains functions final ∧
      (∀ (σ : Type) (store : Store σ) (function : Callable), ∃ longer after,
        final.andThen function store = some (.ok longer, after) ∧
          stream.TakesOn functions function longer after) ∧
      (∀ step ∈ final.steps.drop stream.steps.length, ∀ current,
        step.choose? current = some Candidate.applying) ∧
      ∀ (σ : Type) (host : Host σ) (depth : Nat) (store : Store σ),
        (store.Vacant final.cell → stream.SparedBy host depth functions final store →
          ∀ outcome after,
            final.result (host.call (depth + 1)) store = some (outcome, after) ↔
              ∃ runs, stream.Applies host depth functions final store runs outcome after) ∧
        (∀ runs outcome after,
          stream.Applies host depth functions final store runs outcome after →
            RanInOrder functions runs outcome) ∧
        ∀ kept, store.result? final.cell = some kept →
          final.result (host.call depth) store = some (.ok kept, store) := by
  have gains := extends_.gains only
  refine ⟨gains, fun _ store function => extends_.takesOn only function store, ?_, ?_⟩
  · intro step member current
    rw [gains.steps, List.drop_left] at member
    obtain ⟨function, -, rfl⟩ := List.mem_map.mp member
    exact PendingStep.choose?_applying function current
  · intro σ host depth store
    refine ⟨fun vacant spared _ _ => gains.result_eq_some_iff vacant spared, ?_, ?_⟩
    · intro runs outcome after applies
      exact applies.ranInOrder
    · intro kept held
      exact result_of_kept held _

end Stream

namespace Applied

/-- The second function takes no number, so that the third one does not run. -/
def functions : List Callable := [.native .strlen, .native .count, .custom 0 "measure"]

def snapshot : Snapshot := ⟨NameTable.empty.put "then" [Candidate.applying]⟩

def source : Value := .string "abc"

def begun : Stream Value := ⟨0, snapshot, source, .string, []⟩

def grown (count : Nat) : Stream Value :=
  ⟨count, snapshot, source, .any, (functions.take count).map PendingStep.applying⟩

theorem taken : Registry.withBuiltins.snapshot = .ok snapshot := rfl

theorem only : begun.snapshot.AppliesOnly := rfl

theorem extends_ : begun.Extends (functions.map Call.applying) (grown 3) := by
  have first : begun.invoke "then" [.function (.native .strlen)] (Sample.store 1) =
    some (.ok (grown 1), _) := rfl
  have second : (grown 1).invoke "then" [.function (.native .count)] (Sample.store 2) =
    some (.ok (grown 2), _) := rfl
  have third : (grown 2).invoke "then" [.function (.custom 0 "measure")] (Sample.store 3) =
    some (.ok (grown 3), _) := rfl
  exact ((Stream.Extends.refl.invoke first).invoke second).invoke third

theorem vacant : (Sample.store 4).Vacant (grown 3).cell := rfl

theorem spared : begun.SparedBy Sample.host 1 functions (grown 3) (Sample.store 4) := by
  intro current middle _ unresolved
  refine .of_forall ?_ unresolved
  intro function member args before outcome after vacant ran
  simp only [functions, List.mem_cons, List.not_mem_nil, or_false] at member
  rcases member with rfl | rfl | rfl
  · exact (Host.of_call_native ran).2 ▸ vacant
  · exact (Host.of_call_native ran).2 ▸ vacant
  · rw [Store.Vacant, (Sample.measured ran).1]
    exact vacant

end Applied

theorem Stream.applies_functions_in_order_stopping :
    Registry.withBuiltins.snapshot = .ok Applied.snapshot ∧ Applied.begun.snapshot.AppliesOnly ∧
      Applied.begun.Extends (Applied.functions.map Call.applying) (Applied.grown 3) ∧
      (Sample.store 4).Vacant (Applied.grown 3).cell ∧
      Applied.begun.SparedBy Sample.host 1 Applied.functions (Applied.grown 3) (Sample.store 4) ∧
      ∃ runs failure after,
        Native.count.run [.int 3] = .error (.failure failure) ∧
        (Applied.grown 3).result (Sample.host.call 2) (Sample.store 4) =
          some (.error failure, after) ∧
        Applied.begun.Applies Sample.host 1 Applied.functions (Applied.grown 3) (Sample.store 4)
          runs (.error failure) after ∧
        RanInOrder Applied.functions runs (.error failure) := by
  obtain ⟨-, -, -, results⟩ := applies_functions_in_order Applied.only Applied.extends_
  obtain ⟨comes, order, -⟩ := results Nat Sample.host 1 (Sample.store 4)
  have failed : (Applied.grown 3).result (Sample.host.call 2) (Sample.store 4) =
    some (.error _, _) := rfl
  obtain ⟨runs, applies⟩ := (comes Applied.vacant Applied.spared _ _).mp failed
  exact ⟨Applied.taken, Applied.only, Applied.extends_, Applied.vacant, Applied.spared, runs, _, _,
    rfl, failed, applies, order _ _ _ applies⟩

namespace Reentered

open Overtaken (midway source store)

def same : Callable := .custom 1 "same"

def longer : Stream Value :=
  ⟨2, Overtaken.snapshot, source, .any, [⟨"again", [Overtaken.again], []⟩, .applying same]⟩

def host : Host (List Nat) := Overtaken.host longer

theorem only : midway.snapshot.AppliesOnly := rfl

theorem extends_ : midway.Extends [.applying same] longer := by
  have applied : midway.invoke "then" [.function same] (Sample.store 2) =
    some (.ok longer, _) := rfl
  exact Stream.Extends.refl.invoke applied

theorem results_of_same {depth : Nat} {args : List Value} {before after : Store (List Nat)}
    {outcome : Except Failure Value}
    (ran : host.call depth same args before = some (outcome, after)) :
    after.results = before.results := by
  cases depth with
  | zero => cases ran
  | succ depth =>
      cases unary : Callable.unary "again" args with
      | error failure =>
          simp only [same, Host.call, host, Overtaken.host, Action.unary, unary] at ran
          cases ran
          rfl
      | ok value =>
          simp only [same, Host.call, host, Overtaken.host, Action.unary, unary] at ran
          cases ran
          rfl

end Reentered

/-- The steps of the stream come to a list, and the function answers with it and resolves nothing.
But the step has asked for the result of the longer stream meanwhile: the function runs twice, and
the result is the text that the nested call kept. -/
theorem Stream.applied_function_runs_twice :
    Overtaken.midway.snapshot.AppliesOnly ∧
      Overtaken.midway.Extends [.applying Reentered.same] Reentered.longer ∧
      (∀ depth args before outcome after,
        Reentered.host.call depth Reentered.same args before = some (outcome, after) →
          after.results = before.results) ∧
      Overtaken.store.Vacant Reentered.longer.cell ∧
      (∃ middle last,
        resolve (Reentered.host.call 3) 0 Overtaken.source Overtaken.midway.steps
            Overtaken.store = some (.ok (.list [.string "abc"]), middle) ∧
        Reentered.host.call 2 Reentered.same [.list [.string "abc"]] middle =
          some (.ok (.list [.string "abc"]), last)) ∧
      ∃ after, Reentered.longer.result (Reentered.host.call 3) Overtaken.store =
          some (.ok (.string "abc"), after) ∧
        after.host = [0, 0, 1, 1] :=
  ⟨Reentered.only, Reentered.extends_, fun _ _ _ _ _ => Reentered.results_of_same, rfl,
    ⟨_, _, rfl, rfl⟩, _, rfl, rfl⟩

end LazyDispatch
