import LazyDispatch.Proofs.Covering

/-! How streams grow. A stream is started over a source and extended by one accepted call after
another, each in whatever store there is by then. Its steps are those calls, planned in order. -/

namespace LazyDispatch

theorem of_getElem?_concat {α : Type} {items : List α} {item last : α} {index : Nat}
    (found : (items ++ [last])[index]? = some item) :
    items[index]? = some item ∨ index = items.length ∧ item = last := by
  rcases Nat.lt_trichotomy index items.length with inside | rfl | beyond
  · rw [List.getElem?_append_left inside] at found
    exact .inl found
  · rw [List.getElem?_concat_length] at found
    cases found
    exact .inr ⟨rfl, rfl⟩
  · have outside : (items ++ [last]).length ≤ index := by
      rw [List.length_append, List.length_singleton]
      omega
    rw [List.getElem?_eq_none outside] at found
    cases found

theorem Run.cons_apply {σ α : Type} (head : α) (run : Run σ (List α)) (store : Store σ) :
    (do return head :: (← run) : Run σ (List α)) store =
      (run store).map fun ended => (ended.1.map (head :: ·), ended.2) := by
  rw [bind_apply]
  cases run store with
  | none => rfl
  | some ended =>
      obtain ⟨outcome, after⟩ := ended
      cases outcome <;> rfl

structure Call where
  operation : String
  args : List Value

def Stream.Started (snapshot : Snapshot) (source : Value) (stream : Stream Value) : Prop :=
  ∃ (σ : Type) (store after : Store σ), start snapshot source store = some (.ok stream, after)

inductive Stream.Extends (stream : Stream Value) : List Call → Stream Value → Prop where
  | refl : Extends stream [] stream
  | invoke {calls : List Call} {longer longest : Stream Value} {call : Call} {σ : Type}
      {store after : Store σ} (extends_ : Extends stream calls longer)
      (accepted : longer.invoke call.operation call.args store = some (.ok longest, after)) :
      Extends stream (calls ++ [call]) longest

/-- Calls planned in order, from a first prediction to a last one. -/
inductive Snapshot.Planned (snapshot : Snapshot) :
    Tag → List Call → List (PendingStep Value) → Tag → Prop where
  | nil {tag : Tag} : Planned snapshot tag [] [] tag
  | cons {first next last : Tag} {call : Call} {calls : List Call} {step : PendingStep Value}
      {steps : List (PendingStep Value)}
      (planned : snapshot.plan first call.operation call.args = .ok (step, next))
      (rest : Planned snapshot next calls steps last) :
      Planned snapshot first (call :: calls) (step :: steps) last

namespace Snapshot.Planned

variable {snapshot : Snapshot} {first middle last : Tag} {calls more : List Call}
  {steps others : List (PendingStep Value)}

theorem append (front : snapshot.Planned first calls steps middle)
    (back : snapshot.Planned middle more others last) :
    snapshot.Planned first (calls ++ more) (steps ++ others) last := by
  induction front with
  | nil => exact back
  | cons planned _ ih => exact .cons planned (ih back)

theorem snoc {call : Call} {step : PendingStep Value}
    (front : snapshot.Planned first calls steps middle)
    (planned : snapshot.plan middle call.operation call.args = .ok (step, last)) :
    snapshot.Planned first (calls ++ [call]) (steps ++ [step]) last :=
  front.append (.cons planned .nil)

theorem length_eq (planned : snapshot.Planned first calls steps last) :
    steps.length = calls.length := by
  induction planned with
  | nil => rfl
  | cons _ _ ih => simp only [List.length_cons, ih]

end Snapshot.Planned

namespace Stream

/-- Makes calls one after another, up to the first that is refused; answers with the stream that
each call makes. -/
def invokeEach {σ : Type} (stream : Stream Value) : List Call → Run σ (List (Stream Value))
  | [] => return []
  | asked :: rest => do
    let longer ← stream.invoke asked.operation asked.args
    return longer :: (← longer.invokeEach rest)

section

variable {σ : Type} {stream : Stream Value} {asked : Call} {step : PendingStep Value} {next : Tag}
  {failure : Failure}

theorem invokeEach_of_refused
    (refused : stream.snapshot.plan stream.predicted asked.operation asked.args = .error failure)
    (rest : List Call) (store : Store σ) :
    stream.invokeEach (asked :: rest) store = some (.error failure, store) := by
  rw [invokeEach, Run.bind_apply, invoke_of_refused refused]

theorem invokeEach_of_planned
    (planned : stream.snapshot.plan stream.predicted asked.operation asked.args = .ok (step, next))
    (rest : List Call) (store : Store σ) :
    stream.invokeEach (asked :: rest) store =
      ((stream.longer store.nextCell step next).invokeEach rest
        (store.report [.stepAppended asked.operation (Value.tags stream.predicted asked.args)
          step.candidates.length next]).allocate).map
        fun ended => (ended.1.map (stream.longer store.nextCell step next :: ·), ended.2) := by
  rw [invokeEach, Run.bind_of_ok (invoke_of_planned planned store), Run.cons_apply]

end

variable {snapshot : Snapshot} {source : Value} {stream longer : Stream Value} {calls : List Call}

theorem Started.eq (started : Started snapshot source stream) :
    stream = ⟨stream.cell, snapshot, source, source.tag, []⟩ := by
  obtain ⟨σ, store, after, made⟩ := started
  rw [start_apply] at made
  cases made
  rfl

theorem Extends.planned (grown : stream.Extends calls longer) :
    longer.snapshot = stream.snapshot ∧ longer.source = stream.source ∧
      ∃ steps, longer.steps = stream.steps ++ steps ∧
        stream.snapshot.Planned stream.predicted calls steps longer.predicted := by
  induction grown with
  | refl => exact ⟨rfl, rfl, [], by simp, .nil⟩
  | invoke _ accepted ih =>
      obtain ⟨sameSnapshot, sameSource, steps, appended, planned⟩ := ih
      obtain ⟨step, next, plan, rfl, -⟩ := of_invoke_eq_ok accepted
      rw [sameSnapshot] at plan
      refine ⟨sameSnapshot, sameSource, steps ++ [step], ?_, planned.snoc plan⟩
      simp only [Stream.longer, appended, List.append_assoc]

theorem Extends.at_place (grown : stream.Extends calls longer) {place : Nat}
    (inside : place ≤ calls.length) :
    ∃ earlier later middle, earlier.length = place ∧ stream.Extends earlier middle ∧
      middle.Extends later longer := by
  induction grown with
  | refl => exact ⟨[], [], stream, (Nat.le_zero.mp inside).symm, .refl, .refl⟩
  | invoke extends_ accepted ih =>
      rename_i calls longer longest call τ store after
      by_cases short : place ≤ calls.length
      · obtain ⟨earlier, later, middle, length, before, beyond⟩ := ih short
        exact ⟨earlier, later ++ [call], middle, length, before, beyond.invoke accepted⟩
      · have whole : (calls ++ [call]).length = place := by
          rw [List.length_append, List.length_singleton] at inside ⊢
          omega
        exact ⟨calls ++ [call], [], longest, whole, extends_.invoke accepted, .refl⟩

theorem Started.planned {first : Stream Value} (started : Started snapshot source first)
    (grown : first.Extends calls stream) :
    stream.snapshot = snapshot ∧ stream.source = source ∧
      snapshot.Planned source.tag calls stream.steps stream.predicted := by
  obtain ⟨sameSnapshot, sameSource, steps, appended, planned⟩ := grown.planned
  rw [started.eq] at sameSnapshot sameSource appended planned
  simp only [List.nil_append] at appended
  subst appended
  exact ⟨sameSnapshot, sameSource, planned⟩

end Stream
end LazyDispatch
