import LazyDispatch.Proofs.Evolving
import Mathlib.Logic.Relation

/-! Runs of a host, one move at a time. A machine has what it works on, the frames that wait for its
answer, and the store by then. It comes to what the run comes to, through every store on the way;
where the run comes to no end, it stops at a call: one too deep, or one that panics. What passes
from the parts of a run to the whole is shown of all runs by one induction. -/

namespace LazyDispatch

variable {σ : Type}

inductive Control (σ : Type) where
  | act (depth : Nat) (action : Action σ)
  | call (depth : Nat) (callable : Callable) (args : List Value)
  | resolve (depth index : Nat) (current : Value) (steps : List (PendingStep Value))
  | result (depth : Nat) (stream : Stream Value)
  | answer (outcome : Except Failure Value)

/-- What waits for an answer: an action, the steps left, or a stream that will keep it. -/
inductive Frame (σ : Type) where
  | act (depth : Nat) (next : Except Failure Value → Action σ)
  | resolve (depth index : Nat) (rest : List (PendingStep Value))
  | settle (stream : Stream Value)

structure Machine (σ : Type) where
  control : Control σ
  frames : List (Frame σ)
  store : Store σ

def Control.run (host : Host σ) : Control σ → Run σ Value
  | act depth action => action.run (host.call depth)
  | call depth callable args => host.call depth callable args
  | resolve depth index current steps => LazyDispatch.resolve (host.call depth) index current steps
  | result depth stream => stream.result (host.call depth)
  | answer outcome => Run.ofExcept outcome

def Action.move (depth : Nat) (frames : List (Frame σ)) (store : Store σ) :
    Action σ → Option (Machine σ)
  | done outcome => some ⟨.answer outcome, frames, store⟩
  | read next => some ⟨.act depth (next store.host), frames, store⟩
  | write state next => some ⟨.act depth next, frames, { store with host := state }⟩
  | call callable args next =>
    some ⟨.call depth callable args, .act depth next :: frames, store⟩
  | result stream next => some ⟨.result depth stream, .act depth next :: frames, store⟩
  | start snapshot source next =>
    some ⟨.act depth (next ⟨store.nextCell, snapshot, source, source.tag, []⟩), frames,
      (store.report [.streamCreated source.tag]).allocate⟩
  | startShared source next =>
    (Stream.startShared source store).map fun ended =>
      ⟨.act depth (next ended.1), frames, ended.2⟩
  | invoke stream operation args next =>
    (stream.invoke operation args store).map fun ended =>
      ⟨.act depth (next ended.1), frames, ended.2⟩
  | edit change next =>
    (Run.editShared change store).map fun ended => ⟨.act depth (next ended.1), frames, ended.2⟩
  | restart config next =>
    (Run.restart config store).map fun ended => ⟨.act depth next, frames, ended.2⟩

def Host.move (host : Host σ) (frames : List (Frame σ)) (store : Store σ) :
    Nat → Callable → List Value → Option (Machine σ)
  | 0, _, _ => none
  | _ + 1, .native native, args =>
    (Halt.outcome? (native.run args)).map fun outcome => ⟨.answer outcome, frames, store⟩
  | _ + 1, .arithmetic arithmetic, args => some ⟨.answer (arithmetic.run args), frames, store⟩
  | depth + 1, .apply, args =>
    match Callable.binary "then" args with
    | .error failure => some ⟨.answer (.error failure), frames, store⟩
    | .ok (value, .function callable) => some ⟨.call depth callable [value], frames, store⟩
    | .ok (_, other) =>
      some ⟨.answer (.error (.raised
        ("then() expects a function, " ++ other.tag.name ++ " given"))), frames, store⟩
  | depth + 1, .custom id _, args => some ⟨.act depth (host id args), frames, store⟩

def Machine.takeStep (depth index : Nat) (current : Value) (frames : List (Frame σ))
    (store : Store σ) : List (PendingStep Value) → Machine σ
  | [] => ⟨.answer (.ok current), frames, store⟩
  | step :: rest =>
    match step.choose? current with
    | none =>
      ⟨.answer (.error (step.mismatch current)), frames,
        store.report [step.mismatched index current]⟩
    | some candidate =>
      ⟨.call depth candidate.callable (current :: step.args),
        .resolve depth (index + 1) rest :: frames,
        store.report [step.chosen index current candidate]⟩

def Stream.move (depth : Nat) (stream : Stream Value) (frames : List (Frame σ))
    (store : Store σ) : Machine σ :=
  match store.result? stream.cell with
  | some kept => ⟨.answer (.ok kept), frames, store⟩
  | none => ⟨.resolve depth 0 stream.source stream.steps, .settle stream :: frames, store⟩

def Frame.move (outcome : Except Failure Value) (frames : List (Frame σ)) (store : Store σ) :
    Frame σ → Machine σ
  | act depth next => ⟨.act depth (next outcome), frames, store⟩
  | resolve depth index rest =>
    match outcome with
    | .ok value => ⟨.resolve depth index value rest, frames, store⟩
    | .error failure => ⟨.answer (.error failure), frames, store⟩
  | settle stream =>
    match outcome with
    | .ok value =>
      ⟨.answer (.ok ((store.result? stream.cell).getD value)), frames,
        stream.settled value store⟩
    | .error failure => ⟨.answer (.error failure), frames, store⟩

namespace Machine

/-- One move. There is none from an answer that nothing waits for, from a call too deep, or from one
that panics. -/
def move (host : Host σ) : Machine σ → Option (Machine σ)
  | ⟨.act depth action, frames, store⟩ => action.move depth frames store
  | ⟨.call depth callable args, frames, store⟩ => host.move frames store depth callable args
  | ⟨.resolve depth index current steps, frames, store⟩ =>
    some (takeStep depth index current frames store steps)
  | ⟨.result depth stream, frames, store⟩ => some (stream.move depth frames store)
  | ⟨.answer _, [], _⟩ => none
  | ⟨.answer outcome, frame :: frames, store⟩ => some (frame.move outcome frames store)

def Moves (host : Host σ) (before after : Machine σ) : Prop := before.move host = some after

def Passes (host : Host σ) : Machine σ → Machine σ → Prop := Relation.ReflTransGen (Moves host)

variable {host : Host σ} {start middle : Machine σ} {frame : Frame σ} {frames : List (Frame σ)}

theorem grows_takeStep (depth index : Nat) (current : Value) (frames : List (Frame σ))
    (store : Store σ) (steps : List (PendingStep Value)) :
    store.Grows (takeStep depth index current frames store steps).store := by
  cases steps with
  | nil => exact .refl store
  | cons step rest =>
      rw [takeStep]
      cases step.choose? current <;> exact store.grows_report _

/-- How runs are put together. A property of the machine that sets out, of the frames that wait for
its answer and of what the run ends with holds of every run if it passes from parts to the whole. -/
structure Composes (host : Host σ)
    (property : Machine σ → List (Frame σ) → Option (Except Failure Value × Store σ) → Prop) :
    Prop where
  answers : ∀ outcome frames store,
    property ⟨.answer outcome, frames, store⟩ frames (some (outcome, store))
  halts : ∀ depth callable args frames store,
    host.move frames store depth callable args = none →
      property ⟨.call depth callable args, frames, store⟩ frames none
  moves : ∀ {start middle frames ended}, Moves host start middle →
    start.store.Grows middle.store → property middle frames ended → property start frames ended
  waits : ∀ {start frame frames ended next},
    (∀ outcome after, (frame.move outcome frames after).store = after) →
    property start (frame :: frames) ended →
    (∀ outcome after, property (frame.move outcome frames after) frames (next (outcome, after))) →
    property start frames (ended.bind next)
  settles : ∀ depth stream frames store, store.result? stream.cell = none →
    property ⟨.resolve depth 0 stream.source stream.steps, .settle stream :: frames, store⟩
      (.settle stream :: frames) (resolve (host.call depth) 0 stream.source stream.steps store) →
    property ⟨.result depth stream, frames, store⟩ frames (stream.result (host.call depth) store)

namespace Composes

variable {property : Machine σ → List (Frame σ) → Option (Except Failure Value × Store σ) → Prop}
  (composes : Composes host property)

include composes

section

-- The callables that may nest to this depth have the property.
variable {depth : Nat} (calls : ∀ callable args frames store,
  property ⟨.call depth callable args, frames, store⟩ frames (host.call depth callable args store))

include calls

theorem resolve (index : Nat) (current : Value) (steps : List (PendingStep Value))
    (frames : List (Frame σ)) (store : Store σ) :
    property ⟨.resolve depth index current steps, frames, store⟩ frames
      (LazyDispatch.resolve (host.call depth) index current steps store) := by
  induction steps generalizing index current store with
  | nil => exact composes.moves rfl (.refl store) (composes.answers _ _ _)
  | cons step rest ih =>
      have moves : Moves host ⟨.resolve depth index current (step :: rest), frames, store⟩
          (takeStep depth index current frames store (step :: rest)) := rfl
      refine composes.moves moves (grows_takeStep _ _ _ _ _ _) ?_
      cases choice : step.choose? current with
      | none =>
          rw [resolve_of_mismatch choice]
          simp only [takeStep, choice]
          exact composes.answers _ _ _
      | some candidate =>
          have same (outcome : Except Failure Value) (after : Store σ) :
              ((Frame.resolve depth (index + 1) rest).move outcome frames after).store = after := by
            cases outcome <;> rfl
          rw [resolve_of_chosen choice, Run.bind_apply_bind]
          simp only [takeStep, choice]
          refine composes.waits same (calls _ _ _ _) ?_
          intro outcome after
          cases outcome with
          | error failure => exact composes.answers _ _ _
          | ok value => exact ih (index + 1) value after

theorem result (stream : Stream Value) (frames : List (Frame σ)) (store : Store σ) :
    property ⟨.result depth stream, frames, store⟩ frames
      (stream.result (host.call depth) store) := by
  cases kept : store.result? stream.cell with
  | some value =>
      have moves : Moves host ⟨.result depth stream, frames, store⟩
          ⟨.answer (.ok value), frames, store⟩ := by rw [Moves, move, Stream.move, kept]
      rw [Stream.result_of_kept kept]
      exact composes.moves moves (.refl store) (composes.answers _ _ _)
  | none =>
      exact composes.settles depth stream frames store kept
        (composes.resolve calls 0 stream.source stream.steps _ store)

omit calls in
theorem act_at_once {α : Type} {request : Run σ α} {action : Action σ}
    {next : Except Failure α → Action σ} {frames : List (Frame σ)} {store after : Store σ}
    {outcome : Except Failure α} (ended : request store = some (outcome, after))
    (grows : store.Grows after)
    (moves : action.move depth frames store =
      (request store).map fun ended => ⟨.act depth (next ended.1), frames, ended.2⟩)
    (runs : action.run (host.call depth) store =
      (request store).bind fun ended => (next ended.1).run (host.call depth) ended.2)
    (later : property ⟨.act depth (next outcome), frames, after⟩ frames
      ((next outcome).run (host.call depth) after)) :
    property ⟨.act depth action, frames, store⟩ frames (action.run (host.call depth) store) := by
  rw [ended] at moves runs
  rw [runs]
  exact composes.moves moves grows later

theorem act (action : Action σ) (frames : List (Frame σ)) (store : Store σ) :
    property ⟨.act depth action, frames, store⟩ frames (action.run (host.call depth) store) := by
  induction action generalizing store with
  | done outcome => exact composes.moves rfl (.refl store) (composes.answers _ _ _)
  | read next ih => exact composes.moves rfl (.refl store) (ih store.host store)
  | write state next ih => exact composes.moves rfl (.of_results_eq rfl) (ih _)
  | call callable args next ih =>
      rw [Action.run, Run.attempt_bind_apply]
      exact composes.moves rfl (.refl store)
        (composes.waits (fun _ _ => rfl) (calls _ _ _ store) ih)
  | result stream next ih =>
      rw [Action.run, Run.attempt_bind_apply]
      exact composes.moves rfl (.refl store)
        (composes.waits (fun _ _ => rfl) (composes.result calls stream _ store) ih)
  | start snapshot source next ih =>
      exact composes.moves rfl (Stream.start_grows source store) (ih _ _)
  | startShared source next ih =>
      obtain ⟨outcome, after, ended, grows⟩ := Stream.startShared_grows source store
      exact composes.act_at_once ended grows rfl (Run.attempt_bind_apply _ _ _) (ih outcome after)
  | invoke stream operation args next ih =>
      obtain ⟨outcome, after, ended, grows⟩ := Stream.invoke_grows stream operation args store
      exact composes.act_at_once ended grows rfl (Run.attempt_bind_apply _ _ _) (ih outcome after)
  | edit change next ih =>
      obtain ⟨outcome, after, ended, grows⟩ := Run.editShared_grows change store
      exact composes.act_at_once ended grows rfl (Run.attempt_bind_apply _ _ _) (ih outcome after)
  | restart config next ih => exact composes.moves rfl (.of_results_eq rfl) (ih _)

end

theorem call (depth : Nat) (callable : Callable) (args : List Value)
    (frames : List (Frame σ)) (store : Store σ) :
    property ⟨.call depth callable args, frames, store⟩ frames
      (host.call depth callable args store) := by
  -- A callable of the host acts one level below, where every call has the property already.
  induction depth generalizing callable args frames store with
  | zero => exact composes.halts 0 callable args frames store rfl
  | succ depth ih =>
      cases callable with
      | native native =>
          rw [Host.call_native]
          cases ended : Halt.outcome? (native.run args) with
          | none => exact composes.halts _ _ _ _ _ (by rw [Host.move, ended, Option.map_none])
          | some outcome =>
              have moves : Moves host ⟨.call (depth + 1) (.native native) args, frames, store⟩
                  ⟨.answer outcome, frames, store⟩ := by
                rw [Moves, move, Host.move, ended, Option.map_some]
              exact composes.moves moves (.refl store) (composes.answers _ _ _)
      | arithmetic arithmetic => exact composes.moves rfl (.refl store) (composes.answers _ _ _)
      | custom id name =>
          exact composes.moves rfl (.refl store) (composes.act ih (host id args) frames store)
      | apply =>
          have moves (after : Machine σ) (same : host.move frames store (depth + 1) .apply args =
              some after) : Moves host ⟨.call (depth + 1) .apply args, frames, store⟩ after := same
          rw [Host.call_apply]
          cases binary : Callable.binary "then" args with
          | error failure =>
              exact composes.moves (moves _ (by simp only [Host.move, binary])) (.refl store)
                (composes.answers _ _ _)
          | ok pair =>
              obtain ⟨value, other⟩ := pair
              cases other with
              | function callable =>
                  exact composes.moves (moves _ (by simp only [Host.move, binary])) (.refl store)
                    (ih _ _ _ _)
              | _ =>
                  exact composes.moves (moves _ (by simp only [Host.move, binary])) (.refl store)
                    (composes.answers _ _ _)

theorem run (control : Control σ) (frames : List (Frame σ)) (store : Store σ) :
    property ⟨control, frames, store⟩ frames (control.run host store) := by
  cases control with
  | act depth action => exact composes.act (composes.call depth) action frames store
  | call depth callable args => exact composes.call depth callable args frames store
  | resolve depth index current steps =>
      exact composes.resolve (composes.call depth) index current steps frames store
  | result depth stream => exact composes.result (composes.call depth) stream frames store
  | answer outcome => exact composes.answers outcome frames store

end Composes

/-- From here the machine comes to what a run ended with: to its outcome, or to a call without a
move. -/
def Leads (host : Host σ) (start : Machine σ) (frames : List (Frame σ)) :
    Option (Except Failure Value × Store σ) → Prop
  | some (outcome, after) => Passes host start ⟨.answer outcome, frames, after⟩
  | none => ∃ depth callable args above store, host.move above store depth callable args = none ∧
    Passes host start ⟨.call depth callable args, above, store⟩

theorem Leads.after {ended : Option (Except Failure Value × Store σ)}
    (passes : Passes host start middle) (leads : Leads host middle frames ended) :
    Leads host start frames ended := by
  cases ended with
  | some ended => exact Relation.ReflTransGen.trans passes leads
  | none =>
      obtain ⟨depth, callable, args, above, store, stuck, further⟩ := leads
      exact ⟨depth, callable, args, above, store, stuck, passes.trans further⟩

theorem Leads.head {ended : Option (Except Failure Value × Store σ)}
    (moves : Moves host start middle) (leads : Leads host middle frames ended) :
    Leads host start frames ended := leads.after (.single moves)

theorem Leads.bind {ended : Option (Except Failure Value × Store σ)}
    {next : Except Failure Value × Store σ → Option (Except Failure Value × Store σ)}
    (leads : Leads host start (frame :: frames) ended)
    (rest : ∀ outcome after, Leads host (frame.move outcome frames after) frames
      (next (outcome, after))) :
    Leads host start frames (ended.bind next) := by
  cases ended with
  | none => exact leads
  | some ended =>
      obtain ⟨outcome, after⟩ := ended
      have moves : Moves host ⟨.answer outcome, frame :: frames, after⟩
          (frame.move outcome frames after) := rfl
      exact Leads.after leads ((rest outcome after).head moves)

theorem leads_composes : Composes host (Leads host) where
  answers _ _ _ := .refl
  halts depth callable args frames store stuck :=
    ⟨depth, callable, args, frames, store, stuck, .refl⟩
  moves moves _ leads := leads.head moves
  waits _ leads rest := leads.bind rest
  settles := by
    intro depth stream frames store empty leads
    have moves : Moves host ⟨.result depth stream, frames, store⟩
        ⟨.resolve depth 0 stream.source stream.steps, .settle stream :: frames, store⟩ := by
      rw [Moves, move, Stream.move, empty]
    refine Leads.head moves ?_
    rw [Stream.result_of_empty empty]
    cases resolved : resolve (host.call depth) 0 stream.source stream.steps store with
    | none =>
        rw [resolved] at leads
        exact leads
    | some ended =>
        obtain ⟨outcome, after⟩ := ended
        rw [resolved] at leads
        cases outcome with
        | error failure => exact Relation.ReflTransGen.tail leads rfl
        | ok value => exact Relation.ReflTransGen.tail leads rfl

theorem run_leads (control : Control σ) (frames : List (Frame σ)) (store : Store σ) :
    Leads host ⟨control, frames, store⟩ frames (control.run host store) :=
  leads_composes.run control frames store

theorem moves_unique : Relator.RightUnique (Moves host) := by
  intro before after other one another
  rw [Moves] at one another
  exact Option.some.inj (one.symm.trans another)

theorem passes_total {one other : Machine σ} (before : Passes host start one)
    (after : Passes host start other) : Passes host one other ∨ Passes host other one :=
  Relation.ReflTransGen.total_of_right_unique moves_unique before after

theorem eq_of_stuck (stuck : start.move host = none) (passes : Passes host start middle) :
    start = middle := by
  rcases Relation.ReflTransGen.cases_head passes with same | ⟨next, moves, -⟩
  · exact same
  · rw [Moves, stuck] at moves
    cases moves

theorem run_eq_some_iff (control : Control σ) (store after : Store σ)
    (outcome : Except Failure Value) :
    control.run host store = some (outcome, after) ↔
      Passes host ⟨control, [], store⟩ ⟨.answer outcome, [], after⟩ := by
  have leads : Leads host ⟨control, [], store⟩ [] (control.run host store) :=
    run_leads control [] store
  constructor
  · intro ran
    rw [ran] at leads
    exact leads
  · intro passes
    -- No move leaves an answer that nothing waits for, so the machine stops there alone.
    cases ran : control.run host store with
    | none =>
        rw [ran] at leads
        obtain ⟨depth, callable, args, above, last, halts, halted⟩ := leads
        have stuck : (⟨.call depth callable args, above, last⟩ : Machine σ).move host = none :=
          halts
        rcases passes_total passes halted with further | further
        · cases eq_of_stuck rfl further
        · cases eq_of_stuck stuck further
    | some ended =>
        obtain ⟨other, last⟩ := ended
        rw [ran] at leads
        rcases passes_total passes leads with further | further
        · cases eq_of_stuck rfl further
          rfl
        · cases eq_of_stuck rfl further
          rfl

end Machine
end LazyDispatch
