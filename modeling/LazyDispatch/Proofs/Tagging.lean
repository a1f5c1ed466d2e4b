import LazyDispatch.Proofs.Shuffling

/-! Calls go by types alone. Two chains of calls over one snapshot, from sources of one type and
with arguments of the same types, are accepted or refused alike, and keep the same candidates and
predictions at every step. -/

namespace LazyDispatch

theorem map_eq_of_forall₂ {α β γ : Type} {relation : α → β → Prop} {f : α → γ} {g : β → γ}
    {values : List α} {others : List β} (alike : List.Forall₂ relation values others)
    (same : ∀ value other, relation value other → f value = g other) :
    values.map f = others.map g := by
  rw [← List.forall₂_eq_eq_eq, List.forall₂_map_left_iff, List.forall₂_map_right_iff]
  exact alike.imp same

/-- Two calls of an operation, with arguments of the same types. -/
structure Call.Parallel (asked other : Call) : Prop where
  operation : asked.operation = other.operation
  tags : asked.args.map Value.tag = other.args.map Value.tag

structure PendingStep.Parallel (step other : PendingStep Value) : Prop where
  operation : step.operation = other.operation
  candidates : step.candidates = other.candidates
  tags : step.args.map Value.tag = other.args.map Value.tag

structure Stream.Parallel (stream other : Stream Value) : Prop where
  cell : stream.cell = other.cell
  snapshot : stream.snapshot = other.snapshot
  predicted : stream.predicted = other.predicted
  steps : List.Forall₂ PendingStep.Parallel stream.steps other.steps

inductive ChainsParallel {σ : Type} : Option (Except Failure (List (Stream Value)) × Store σ) →
    Option (Except Failure (List (Stream Value)) × Store σ) → Prop where
  | refused {failure : Failure} {after : Store σ} :
      ChainsParallel (some (.error failure, after)) (some (.error failure, after))
  | accepted {made others : List (Stream Value)} {after : Store σ}
      (parallel : List.Forall₂ Stream.Parallel made others) :
      ChainsParallel (some (.ok made, after)) (some (.ok others, after))

section

variable {σ : Type} {snapshot : Snapshot} {stream other : Stream Value}

theorem ChainsParallel.cons
    {ended also : Option (Except Failure (List (Stream Value)) × Store σ)}
    (chains : ChainsParallel ended also) (parallel : stream.Parallel other) :
    ChainsParallel (ended.map fun ended => (ended.1.map (stream :: ·), ended.2))
      (also.map fun ended => (ended.1.map (other :: ·), ended.2)) := by
  cases chains with
  | refused => exact .refused
  | accepted others => exact .accepted (.cons parallel others)

namespace Call.Parallel

variable {asked also : Call}

theorem plan (parallel : asked.Parallel also) (snapshot : Snapshot) (predicted : Tag) :
    (∃ failure, snapshot.plan predicted asked.operation asked.args = .error failure ∧
        snapshot.plan predicted also.operation also.args = .error failure) ∨
      ∃ step other next, snapshot.plan predicted asked.operation asked.args = .ok (step, next) ∧
        snapshot.plan predicted also.operation also.args = .ok (other, next) ∧
        step.Parallel other := by
  obtain ⟨operation, args⟩ := asked
  obtain ⟨_, others⟩ := also
  obtain ⟨rfl, tags⟩ := parallel
  have types : Value.tags predicted args = Value.tags predicted others :=
    congrArg (predicted :: ·) tags
  unfold Snapshot.plan
  rw [types]
  cases snapshot.candidates? operation with
  | none => exact .inl ⟨_, rfl, rfl⟩
  | some candidates =>
      simp only
      cases predict? (candidates.filter fun candidate =>
          candidate.accepts (Value.tags predicted others)) with
      | none => exact .inl ⟨_, rfl, rfl⟩
      | some next => exact .inr ⟨_, _, next, rfl, rfl, rfl, rfl, tags⟩

end Call.Parallel

namespace Stream.Parallel

theorem longer (parallel : stream.Parallel other) {step also : PendingStep Value}
    (last : step.Parallel also) (cell : Nat) (next : Tag) :
    (stream.longer cell step next).Parallel (other.longer cell also next) :=
  ⟨rfl, parallel.snapshot, rfl, List.rel_append parallel.steps (.cons last .nil)⟩

theorem invokeEach (parallel : stream.Parallel other) {calls others : List Call}
    (alike : List.Forall₂ Call.Parallel calls others) (store : Store σ) :
    ChainsParallel (stream.invokeEach calls store) (other.invokeEach others store) := by
  induction alike generalizing stream other store with
  | nil => exact .accepted .nil
  | cons head _ ih =>
      have planned := head.plan stream.snapshot stream.predicted
      rcases planned with ⟨failure, refused, also⟩ | ⟨step, later, next, planned, also, last⟩
      · rw [parallel.snapshot, parallel.predicted] at also
        rw [invokeEach_of_refused refused, invokeEach_of_refused also]
        exact .refused
      · rw [parallel.snapshot, parallel.predicted] at also
        have types : Value.tags stream.predicted _ = Value.tags other.predicted _ :=
          congrArg₂ List.cons parallel.predicted head.tags
        rw [invokeEach_of_planned planned, invokeEach_of_planned also, types, head.operation,
          last.candidates]
        have grown := parallel.longer last store.nextCell next
        exact (ih grown _).cons grown

end Stream.Parallel

theorem Snapshot.chain_parallel (snapshot : Snapshot) {source other : Value}
    (tag : source.tag = other.tag) {calls others : List Call}
    (alike : List.Forall₂ Call.Parallel calls others) (store : Store σ) :
    ChainsParallel (snapshot.chain source calls store) (snapshot.chain other others store) := by
  have begun : Stream.Parallel ⟨store.nextCell, snapshot, source, source.tag, []⟩
      ⟨store.nextCell, snapshot, other, other.tag, []⟩ := ⟨rfl, rfl, tag, .nil⟩
  have chain_apply (source : Value) (calls : List Call) := Run.bind_of_ok
    (Stream.start_apply snapshot source store) fun stream =>
      do return stream :: (← stream.invokeEach calls)
  rw [Snapshot.chain, Snapshot.chain, chain_apply, chain_apply, Run.cons_apply, Run.cons_apply]
  rw [← tag] at begun ⊢
  exact (begun.invokeEach alike _).cons begun

end

end LazyDispatch
