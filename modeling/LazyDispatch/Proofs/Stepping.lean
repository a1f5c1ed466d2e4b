import LazyDispatch.Proofs.Running
import Mathlib.Logic.Relation

/-! Resolution, step by step. A resolution under way advances by running the candidate that its
next step chooses; whatever comes of it, it advanced as far as it could and ended there. -/

namespace LazyDispatch

variable {σ : Type}

structure Progress (σ : Type) where
  index : Nat
  current : Value
  rest : List (PendingStep Value)
  store : Store σ

def Stream.begin (stream : Stream Value) (store : Store σ) : Progress σ :=
  ⟨0, stream.source, stream.steps, store⟩

inductive Advances (call : Callable → List Value → Run σ Value) :
    Progress σ → Progress σ → Prop where
  | run {index : Nat} {current next : Value} {step : PendingStep Value}
      {rest : List (PendingStep Value)} {store after : Store σ} {candidate : Candidate}
      (chosen : step.choose? current = some candidate)
      (ran : call candidate.callable (current :: step.args)
        (store.report [step.chosen index current candidate]) = some (.ok next, after)) :
      Advances call ⟨index, current, step :: rest, store⟩ ⟨index + 1, next, rest, after⟩

def Reaches (call : Callable → List Value → Run σ Value) : Progress σ → Progress σ → Prop :=
  Relation.ReflTransGen (Advances call)

section

variable {call : Callable → List Value → Run σ Value} {before after : Progress σ}

theorem Reaches.index_le (reaches : Reaches call before after) : before.index ≤ after.index := by
  induction reaches with
  | refl => exact Nat.le_refl _
  | tail _ advances ih =>
      cases advances with
      | run chosen ran => exact Nat.le_succ_of_le ih

theorem Reaches.places (reaches : Reaches call before after) :
    after.index + after.rest.length = before.index + before.rest.length := by
  induction reaches with
  | refl => rfl
  | tail _ advances ih =>
      cases advances with
      | run chosen ran =>
          simp only [List.length_cons] at ih ⊢
          omega

theorem Reaches.front {index : Nat} {current : Value} {front back : List (PendingStep Value)}
    {store : Store σ} {reached : Progress σ}
    (reaches : Reaches call ⟨index, current, front ++ back, store⟩ reached)
    (place : reached.index = index + front.length) :
    reached.rest = back ∧ Reaches call ⟨index, current, front, store⟩
      ⟨reached.index, reached.current, [], reached.store⟩ := by
  induction front generalizing index current store with
  | nil =>
      rcases Relation.ReflTransGen.cases_head reaches with rfl | ⟨middle, advances, later⟩
      · exact ⟨rfl, .refl⟩
      · have further := Reaches.index_le later
        cases advances with
        | run chosen ran =>
            simp only [List.length_nil] at place further
            omega
  | cons step rest ih =>
      rcases Relation.ReflTransGen.cases_head reaches with rfl | ⟨middle, advances, later⟩
      · simp only [List.length_cons] at place
        omega
      · cases advances with
        | run chosen ran =>
            have onward : reached.index = index + 1 + rest.length := by
              rw [place, List.length_cons]
              omega
            obtain ⟨left, reaches⟩ := ih later onward
            exact ⟨left, .head (.run chosen ran) reaches⟩

end

namespace Progress

variable {call : Callable → List Value → Run σ Value} {before after : Progress σ}

def finish (progress : Progress σ) (call : Callable → List Value → Run σ Value) :
    Option (Except Failure Value × Store σ) :=
  resolve call progress.index progress.current progress.rest progress.store

/-- The three ways in which a resolution ends: no step is left, no candidate fits, or the candidate
chosen fails. -/
inductive Ends (call : Callable → List Value → Run σ Value) :
    Progress σ → Except Failure Value → Store σ → Prop where
  | value {index : Nat} {current : Value} {store : Store σ} :
      Ends call ⟨index, current, [], store⟩ (.ok current) store
  | mismatch {index : Nat} {current : Value} {step : PendingStep Value}
      {rest : List (PendingStep Value)} {store : Store σ} (none : step.choose? current = none) :
      Ends call ⟨index, current, step :: rest, store⟩ (.error (step.mismatch current))
        (store.report [step.mismatched index current])
  | failed {index : Nat} {current : Value} {step : PendingStep Value}
      {rest : List (PendingStep Value)} {store after : Store σ} {candidate : Candidate}
      {failure : Failure} (chosen : step.choose? current = some candidate)
      (ran : call candidate.callable (current :: step.args)
        (store.report [step.chosen index current candidate]) = some (.error failure, after)) :
      Ends call ⟨index, current, step :: rest, store⟩ (.error failure) after

theorem finish_of_advances (advances : Advances call before after) :
    before.finish call = after.finish call := by
  cases advances with
  | run chosen ran => exact (resolve_of_chosen chosen call _ _ _).trans (Run.bind_of_ok ran _)

theorem finish_of_reaches (reaches : Reaches call before after) :
    before.finish call = after.finish call := by
  induction reaches with
  | refl => rfl
  | tail _ advances ih => exact ih.trans (finish_of_advances advances)

theorem Ends.finish_eq {progress : Progress σ} {outcome : Except Failure Value} {store : Store σ}
    (ends : Ends call progress outcome store) : progress.finish call = some (outcome, store) := by
  cases ends with
  | value => rfl
  | mismatch none => exact resolve_of_mismatch none call _ _ _
  | failed chosen ran =>
      rename_i index current step rest store candidate failure
      have run : resolve call index current (step :: rest) store = _ :=
        resolve_of_chosen chosen call index rest store
      rw [Run.bind_apply, ran] at run
      exact run

theorem ends_of_finish {progress : Progress σ} {outcome : Except Failure Value} {store : Store σ}
    (finished : progress.finish call = some (outcome, store)) :
    ∃ last, Reaches call progress last ∧ Ends call last outcome store := by
  obtain ⟨index, current, rest, start⟩ := progress
  induction rest generalizing index current start with
  | nil =>
      cases finished
      exact ⟨_, .refl, .value⟩
  | cons step rest ih =>
      cases choice : step.choose? current with
      | none =>
          have mismatch : Ends call ⟨index, current, step :: rest, start⟩ _ _ := .mismatch choice
          have same := finished.symm.trans mismatch.finish_eq
          cases same
          exact ⟨_, .refl, mismatch⟩
      | some candidate =>
          have run := (resolve_of_chosen choice call index rest start).symm.trans finished
          rcases Run.of_bind_eq_some run with ⟨next, middle, ran, later⟩ | ⟨failure, ran, rfl⟩
          · obtain ⟨last, reaches, ends⟩ := ih (index + 1) next middle later
            exact ⟨last, .head (.run choice ran) reaches, ends⟩
          · exact ⟨_, .refl, .failed choice ran⟩

theorem finish_eq_some_iff {progress : Progress σ} {outcome : Except Failure Value}
    {store : Store σ} :
    progress.finish call = some (outcome, store) ↔
      ∃ last, Reaches call progress last ∧ Ends call last outcome store := by
  constructor
  · exact ends_of_finish
  · rintro ⟨last, reaches, ends⟩
    rw [finish_of_reaches reaches, ends.finish_eq]

end Progress

theorem Stream.result_eq_error_iff {call : Callable → List Value → Run σ Value}
    {stream : Stream Value} {store after : Store σ} {failure : Failure} :
    stream.result call store = some (.error failure, after) ↔
      store.result? stream.cell = none ∧
        (stream.begin store).finish call = some (.error failure, after) := by
  cases kept : store.result? stream.cell with
  | some value => simp [result_of_kept kept]
  | none =>
      rw [result_of_empty kept, Progress.finish, begin]
      cases resolve call 0 stream.source stream.steps store with
      | none => simp
      | some ended =>
          obtain ⟨outcome, store⟩ := ended
          cases outcome <;> simp

end LazyDispatch
