import LazyDispatch.Proofs.Evolving
import LazyDispatch.Proofs.Prediction

/-! Forests of streams over pure callables. Streams are planted, cloned, extended and resolved in
any order. What a stream keeps is what its own steps evaluate to, so that results are kept cannot be
seen. -/

namespace LazyDispatch

section

variable {σ : Type} {call : Callable → List Value → Run σ Value}
  {apply : Callable → List Value → Option (Except Failure Value)}

/-- The callables are functions of their arguments that touch no store; `none` comes to no end. -/
def Computes (call : Callable → List Value → Run σ Value)
    (apply : Callable → List Value → Option (Except Failure Value)) : Prop :=
  ∀ callable args store,
    call callable args store = (apply callable args).map fun outcome => (outcome, store)

def evaluate (apply : Callable → List Value → Option (Except Failure Value)) :
    Value → List (PendingStep Value) → Option (Except Failure Value)
  | current, [] => some (.ok current)
  | current, step :: rest =>
    match step.choose? current with
    | none => some (.error (step.mismatch current))
    | some candidate =>
      match apply candidate.callable (current :: step.args) with
      | some (.ok next) => evaluate apply next rest
      | ended => ended

def Stream.evaluate (stream : Stream Value)
    (apply : Callable → List Value → Option (Except Failure Value)) :
    Option (Except Failure Value) :=
  LazyDispatch.evaluate apply stream.source stream.steps

theorem evaluate_append (current : Value) (front back : List (PendingStep Value)) :
    evaluate apply current (front ++ back) =
      match evaluate apply current front with
      | some (.ok value) => evaluate apply value back
      | ended => ended := by
  induction front generalizing current with
  | nil => rfl
  | cons step rest ih =>
      rw [List.cons_append, evaluate, evaluate]
      cases step.choose? current with
      | none => rfl
      | some candidate =>
          simp only
          cases apply candidate.callable (current :: step.args) with
          | none => rfl
          | some outcome =>
              cases outcome with
              | error failure => rfl
              | ok next => exact ih next

theorem resolve_of_computes (computes : Computes call apply) (index : Nat) (current : Value)
    (steps : List (PendingStep Value)) (store : Store σ) :
    ∃ events, resolve call index current steps store =
      (evaluate apply current steps).map fun outcome => (outcome, store.report events) := by
  induction steps generalizing index current store with
  | nil =>
      refine ⟨[], ?_⟩
      rw [resolve_nil, evaluate, Store.report, List.append_nil]
      rfl
  | cons step rest ih =>
      cases choice : step.choose? current with
      | none =>
          refine ⟨[step.mismatched index current], ?_⟩
          rw [resolve_of_mismatch choice, evaluate, choice]
          rfl
      | some candidate =>
          rw [resolve_of_chosen choice, Run.bind_apply, computes, evaluate, choice]
          simp only
          cases apply candidate.callable (current :: step.args) with
          | none => exact ⟨[], rfl⟩
          | some outcome =>
              cases outcome with
              | error failure => exact ⟨[step.chosen index current candidate], rfl⟩
              | ok next =>
                  obtain ⟨events, resolved⟩ :=
                    ih (index + 1) next (store.report [step.chosen index current candidate])
                  refine ⟨step.chosen index current candidate :: events, ?_⟩
                  simp only [Option.map_some, resolved, Store.report_report,
                    List.singleton_append]

/-- How a result leaves the store: only the stream's own cell may hold more, and that is right. -/
structure Stream.Leaves (stream : Stream Value)
    (apply : Callable → List Value → Option (Except Failure Value)) (before after : Store σ) :
    Prop where
  cells : after.nextCell = before.nextCell
  others : ∀ cell, cell ≠ stream.cell → after.result? cell = before.result? cell
  own : ∀ value, after.result? stream.cell = some value →
    stream.evaluate apply = some (.ok value)

theorem result_of_computes (computes : Computes call apply) {stream : Stream Value}
    {store : Store σ} (inside : stream.cell < store.nextCell)
    (right : ∀ value, store.result? stream.cell = some value →
      stream.evaluate apply = some (.ok value)) :
    (stream.result call store).map Prod.fst = stream.evaluate apply ∧
      ∀ outcome after, stream.result call store = some (outcome, after) →
        stream.Leaves apply store after := by
  cases kept : store.result? stream.cell with
  | some value =>
      rw [Stream.result_of_kept kept, right value kept]
      refine ⟨rfl, ?_⟩
      intro outcome after ended
      cases ended
      exact ⟨rfl, fun _ _ => rfl, right⟩
  | none =>
      obtain ⟨events, resolved⟩ :=
        resolve_of_computes computes 0 stream.source stream.steps store
      rw [Stream.result_of_empty kept, resolved]
      cases evaluated : evaluate apply stream.source stream.steps with
      | none => exact ⟨evaluated.symm, by intro outcome after ended; cases ended⟩
      | some outcome =>
          cases outcome with
          | error failure =>
              refine ⟨evaluated.symm, ?_⟩
              intro outcome after ended
              cases ended
              exact ⟨rfl, fun _ _ => rfl, right⟩
          | ok value =>
              simp only [Option.map_some, Store.result?_report, kept, Option.getD_none]
              refine ⟨evaluated.symm, ?_⟩
              intro outcome after ended
              cases ended
              have within : stream.cell < (store.report events).nextCell := inside
              have filled := Stream.result?_settled within value
              rw [Store.result?_report, kept, Option.getD_none] at filled
              refine ⟨by simp [Stream.settled], ?_, ?_⟩
              · intro cell apart
                exact Store.result?_keep_of_ne _ apart value
              · intro held own
                rw [filled] at own
                cases own
                exact evaluated

structure Forest (σ : Type) where
  store : Store σ
  streams : List (Stream Value)

namespace Forest

/-- What happens to a forest. A clone is the stream itself once more. -/
inductive Grows (call : Callable → List Value → Run σ Value) : Forest σ → Forest σ → Prop where
  | plant {store after : Store σ} {streams : List (Stream Value)} {snapshot : Snapshot}
      {source : Value} {stream : Stream Value}
      (planted : Stream.start snapshot source store = some (.ok stream, after)) :
      Grows call ⟨store, streams⟩ ⟨after, streams ++ [stream]⟩
  | clone {store : Store σ} {streams : List (Stream Value)} {stream : Stream Value}
      (member : stream ∈ streams) : Grows call ⟨store, streams⟩ ⟨store, streams ++ [stream]⟩
  | extend {store after : Store σ} {streams : List (Stream Value)} {stream longer : Stream Value}
      {operation : String} {args : List Value} (member : stream ∈ streams)
      (accepted : stream.invoke operation args store = some (.ok longer, after)) :
      Grows call ⟨store, streams⟩ ⟨after, streams ++ [longer]⟩
  | refuse {store after : Store σ} {streams : List (Stream Value)} {stream : Stream Value}
      {operation : String} {args : List Value} {failure : Failure} (member : stream ∈ streams)
      (refused : stream.invoke operation args store = some (.error failure, after)) :
      Grows call ⟨store, streams⟩ ⟨after, streams⟩
  | resolve {store after : Store σ} {streams : List (Stream Value)} {stream : Stream Value}
      {outcome : Except Failure Value} (member : stream ∈ streams)
      (resolved : stream.result call store = some (outcome, after)) :
      Grows call ⟨store, streams⟩ ⟨after, streams⟩

def Grown (call : Callable → List Value → Run σ Value) : Forest σ → Forest σ → Prop :=
  Relation.ReflTransGen (Grows call)

/-- Streams have cells of their own in the store, and keep at most what they evaluate to. -/
structure Sound (apply : Callable → List Value → Option (Except Failure Value))
    (forest : Forest σ) : Prop where
  inside : ∀ stream ∈ forest.streams, stream.cell < forest.store.nextCell
  apart : ∀ stream ∈ forest.streams, ∀ other ∈ forest.streams, stream.cell = other.cell →
    stream = other
  right : ∀ stream ∈ forest.streams, ∀ value, forest.store.result? stream.cell = some value →
    stream.evaluate apply = some (.ok value)

variable {forest grown : Forest σ}

theorem Sound.fresh (sound : forest.Sound apply) (events : List Event) {stream : Stream Value}
    (new : stream.cell = forest.store.nextCell) :
    Sound apply ⟨(forest.store.report events).allocate, forest.streams ++ [stream]⟩ := by
  have beyond : ∀ other ∈ forest.streams, other.cell ≠ stream.cell := by
    intro other member same
    have below := sound.inside other member
    omega
  constructor
  · intro other member
    simp only [Store.nextCell_allocate, Store.nextCell_report]
    rcases List.mem_append.mp member with old | last
    · exact Nat.lt_succ_of_lt (sound.inside other old)
    · cases List.mem_singleton.mp last
      omega
  · intro one first other second same
    rcases List.mem_append.mp first with old | last
    · rcases List.mem_append.mp second with older | later
      · exact sound.apart one old other older same
      · cases List.mem_singleton.mp later
        exact absurd same (beyond one old)
    · cases List.mem_singleton.mp last
      rcases List.mem_append.mp second with older | later
      · exact absurd same.symm (beyond other older)
      · exact (List.mem_singleton.mp later).symm
  · intro other member value kept
    rw [Store.result?_allocate, Store.result?_report] at kept
    rcases List.mem_append.mp member with old | last
    · exact sound.right other old value kept
    · cases List.mem_singleton.mp last
      rw [new, Store.result?_nextCell] at kept
      cases kept

theorem Sound.leaves (sound : forest.Sound apply) {stream : Stream Value} {after : Store σ}
    (member : stream ∈ forest.streams) (leaves : stream.Leaves apply forest.store after) :
    Sound apply ⟨after, forest.streams⟩ := by
  constructor
  · intro other present
    rw [leaves.cells]
    exact sound.inside other present
  · exact sound.apart
  · intro other present value kept
    -- Only a clone has the cell of the stream that was resolved, and it is the same stream.
    by_cases same : other.cell = stream.cell
    · cases sound.apart other present stream member same
      exact leaves.own value kept
    · rw [leaves.others other.cell same] at kept
      exact sound.right other present value kept

theorem Sound.clone (sound : forest.Sound apply) {stream : Stream Value}
    (member : stream ∈ forest.streams) :
    Sound apply ⟨forest.store, forest.streams ++ [stream]⟩ := by
  have old : ∀ other ∈ forest.streams ++ [stream], other ∈ forest.streams := by
    intro other present
    rcases List.mem_append.mp present with old | last
    · exact old
    · cases List.mem_singleton.mp last
      exact member
  constructor
  · intro other present
    exact sound.inside other (old other present)
  · intro one first other second
    exact sound.apart one (old one first) other (old other second)
  · intro other present
    exact sound.right other (old other present)

theorem Grows.sound (grows : Grows call forest grown) (computes : Computes call apply)
    (sound : forest.Sound apply) : grown.Sound apply := by
  cases grows with
  | plant planted =>
      rw [Stream.start_apply] at planted
      cases planted
      exact sound.fresh _ rfl
  | clone member =>
      exact sound.clone member
  | extend member accepted =>
      obtain ⟨step, next, planned, rfl, rfl⟩ := Stream.of_invoke_eq_ok accepted
      exact sound.fresh _ rfl
  | refuse member refused =>
      rename_i store after streams stream operation args failure
      cases planned : stream.snapshot.plan stream.predicted operation args with
      | ok plan =>
          rw [Stream.invoke_of_planned planned] at refused
          cases refused
      | error other =>
          rw [Stream.invoke_of_refused planned] at refused
          cases refused
          exact sound
  | resolve member resolved =>
      obtain ⟨-, leaves⟩ := result_of_computes computes (sound.inside _ member)
        (sound.right _ member)
      exact sound.leaves member (leaves _ _ resolved)

theorem Grown.sound (growing : Grown call forest grown) (computes : Computes call apply)
    (sound : forest.Sound apply) : grown.Sound apply := by
  induction growing with
  | refl => exact sound
  | tail _ grows ih => exact Grows.sound grows computes ih

theorem Grown.streams_prefix (growing : Grown call forest grown) :
    forest.streams <+: grown.streams := by
  induction growing with
  | refl => exact List.prefix_refl _
  | tail _ grows ih =>
      cases grows with
      | plant planted => exact ih.trans (List.prefix_append _ _)
      | clone member => exact ih.trans (List.prefix_append _ _)
      | extend member accepted => exact ih.trans (List.prefix_append _ _)
      | refuse member refused => exact ih
      | resolve member resolved => exact ih

theorem sound_nil (store : Store σ) : Sound apply ⟨store, []⟩ := by
  constructor
  · intro stream member
    cases member
  · intro stream member
    cases member
  · intro stream member
    cases member

end Forest

open Forest in
/-- Over pure callables, nobody can tell that results are kept. However a forest has grown, each
result is what the stream's own steps evaluate to; resolving one stream leaves every other one as it
was, now and later; and an extension comes to its further steps on the result it extends. -/
theorem memo_transparent (computes : Computes call apply) {store : Store σ} {forest : Forest σ}
    (grown : Grown call ⟨store, []⟩ forest) :
    (∀ stream ∈ forest.streams,
        (stream.result call forest.store).map Prod.fst = stream.evaluate apply) ∧
      (∀ stream ∈ forest.streams, ∀ other ∈ forest.streams, other ≠ stream →
        ∀ outcome after, stream.result call forest.store = some (outcome, after) →
          other.isResolved after = other.isResolved forest.store ∧
            ∀ later, Grown call ⟨after, forest.streams⟩ later →
              forest.streams <+: later.streams ∧
                (other.result call later.store).map Prod.fst =
                  (other.result call forest.store).map Prod.fst) ∧
      ∀ stream ∈ forest.streams, ∀ longer ∈ forest.streams, ∀ calls,
        stream.Extends calls longer → ∃ appended, longer.steps = stream.steps ++ appended ∧
          (longer.result call forest.store).map Prod.fst =
            match (stream.result call forest.store).map Prod.fst with
            | some (.ok value) => evaluate apply value appended
            | ended => ended := by
  have sound : forest.Sound apply := Grown.sound grown computes (sound_nil store)
  have results {forest : Forest σ} (sound : forest.Sound apply) {stream : Stream Value}
      (member : stream ∈ forest.streams) :=
    result_of_computes computes (sound.inside stream member) (sound.right stream member)
  refine ⟨?_, ?_, ?_⟩
  · intro stream member
    exact (results sound member).1
  · intro stream member other present apart outcome after resolved
    have leaves := (results sound member).2 outcome after resolved
    refine ⟨?_, ?_⟩
    · have elsewhere : other.cell ≠ stream.cell := by
        intro same
        exact apart (sound.apart other present stream member same)
      rw [Stream.isResolved, leaves.others other.cell elsewhere]
      rfl
    · intro later growing
      have still := Grown.streams_prefix growing
      have sounder := Grown.sound growing computes (sound.leaves member leaves)
      refine ⟨still, ?_⟩
      rw [(results sounder (still.subset present)).1, (results sound present).1]
  · intro stream member longer present calls extends_
    obtain ⟨-, source, appended, steps, -⟩ := extends_.planned
    refine ⟨appended, steps, ?_⟩
    rw [(results sound present).1, (results sound member).1, Stream.evaluate, source, steps,
      evaluate_append]
    rfl

end

namespace Sample

def counter : Host Nat := fun _ args => .answer (.ofNat args.length)

def counting : Callable → List Value → Run Nat Value := counter.call 1

def counted (callable : Callable) (args : List Value) : Option (Except Failure Value) :=
  (counting callable args (store 0)).map Prod.fst

theorem computes : Computes counting counted := by
  intro callable args store
  cases callable with
  | native native =>
      rw [counted, counting, Host.call_native, Host.call_native]
      cases Halt.outcome? (native.run args) <;> rfl
  | arithmetic arithmetic => rfl
  | custom id name => rfl
  | apply =>
      rw [counted, counting, Host.call_apply, Host.call_apply]
      cases Callable.binary "then" args with
      | error failure => rfl
      | ok pair =>
          obtain ⟨value, other⟩ := pair
          cases other <;> rfl

def planted : Store Nat := ((store 0).report [.streamCreated .list]).allocate

def extended : Store Nat := (planted.report [.stepAppended "first" [.list] 1 .any]).allocate

def finished : Store Nat := (extended.report [.stepAppended "size" [.any] 2 .number]).allocate

def streams : List (Stream Value) := [begun, midway, grown]

theorem forest_grown :
    ∃ after, Forest.Grown counting ⟨store 0, []⟩ ⟨after, streams⟩ ∧
      (after.result? grown.cell).isSome := by
  have plant : Forest.Grows counting ⟨store 0, []⟩ ⟨planted, [begun]⟩ := .plant rfl
  have first : begun.invoke "first" [] planted = some (.ok midway, extended) := rfl
  have second : midway.invoke "size" [] extended = some (.ok grown, finished) := rfl
  have shorter : Forest.Grows counting ⟨planted, [begun]⟩ ⟨extended, [begun, midway]⟩ :=
    .extend (by simp) first
  have longer : Forest.Grows counting ⟨extended, [begun, midway]⟩ ⟨finished, streams⟩ :=
    .extend (by simp) second
  have resolved : grown.result counting finished = some (.ok (.ofNat 1), _) := rfl
  refine ⟨_, (((Relation.ReflTransGen.single plant).tail shorter).tail longer).tail
    (.resolve (by simp [streams]) resolved), rfl⟩

end Sample

theorem memo_transparent_sample :
    Computes Sample.counting Sample.counted ∧
      ∃ after, Forest.Grown Sample.counting ⟨Sample.store 0, []⟩ ⟨after, Sample.streams⟩ ∧
        (Sample.grown.result Sample.counting after).map Prod.fst =
          Sample.grown.evaluate Sample.counted := by
  obtain ⟨after, grown, -⟩ := Sample.forest_grown
  refine ⟨Sample.computes, after, grown, ?_⟩
  exact (memo_transparent Sample.computes grown).1 Sample.grown (by simp [Sample.streams])

end LazyDispatch
