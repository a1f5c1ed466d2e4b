import LazyDispatch.Proofs.Growth
import LazyDispatch.Proofs.Stepping

/-! Predictions against what resolution reaches. A resolution under way has steps left that were
planned from a prediction of the value at hand. A step of it preserves that, so each prediction
covers its value, and only a prediction of `any` lets a step find no candidate. -/

namespace LazyDispatch

section

variable {σ : Type} {snapshot : Snapshot} {call : Callable → List Value → Run σ Value}

def Progress.Predicts (snapshot : Snapshot) (last : Tag) (progress : Progress σ) : Prop :=
  ∃ tag calls, tag.Covers progress.current.tag ∧ snapshot.Planned tag calls progress.rest last

theorem Progress.Predicts.chosen {index : Nat} {current : Value} {step : PendingStep Value}
    {rest : List (PendingStep Value)} {store : Store σ} {last : Tag} {candidate : Candidate}
    (predicts : Progress.Predicts snapshot last ⟨index, current, step :: rest, store⟩)
    (chosen : step.choose? current = some candidate) :
    snapshot.Dispatches candidate (current :: step.args) ∧
      ∃ next calls, next.Covers candidate.returns ∧ snapshot.Planned next calls rest last := by
  obtain ⟨tag, calls, covers, planned⟩ := predicts
  cases planned with
  | cons plan later =>
      rename_i next asked calls
      have member : candidate ∈ step.candidates := List.mem_of_find?_eq_some chosen
      refine ⟨⟨asked.operation, ?_⟩, next, calls, Snapshot.plan_covers plan member, later⟩
      rw [← chosen, Snapshot.plan_choose? plan covers, (Snapshot.plan_call plan).2]
      rfl

variable {before after : Progress σ} {last : Tag}

theorem Advances.predicts (advances : Advances call before after) (honest : snapshot.Honest call)
    (predicts : before.Predicts snapshot last) : after.Predicts snapshot last := by
  cases advances with
  | run chosen ran =>
      obtain ⟨dispatches, next, calls, covers, planned⟩ := predicts.chosen chosen
      exact ⟨next, calls, covers.trans (honest _ _ dispatches _ _ _ ran), planned⟩

theorem Reaches.predicts (reaches : Reaches call before after) (honest : snapshot.Honest call)
    (predicts : before.Predicts snapshot last) : after.Predicts snapshot last := by
  induction reaches with
  | refl => exact predicts
  | tail _ advances ih => exact advances.predicts honest ih

theorem Advances.vacant {cell : Nat} (advances : Advances call before after)
    (spares : snapshot.Spares call cell) (predicts : before.Predicts snapshot last)
    (vacant : before.store.Vacant cell) : after.store.Vacant cell := by
  cases advances with
  | run chosen ran => exact spares _ _ (predicts.chosen chosen).1 _ _ _ (vacant.report _) ran

theorem Reaches.vacant {cell : Nat} (reaches : Reaches call before after)
    (honest : snapshot.Honest call) (spares : snapshot.Spares call cell)
    (predicts : before.Predicts snapshot last) (vacant : before.store.Vacant cell) :
    after.store.Vacant cell := by
  induction reaches with
  | refl => exact vacant
  | tail earlier advances ih =>
      exact advances.vacant spares (Reaches.predicts earlier honest predicts) ih

theorem Progress.Ends.vacant {cell : Nat} {outcome : Except Failure Value} {store : Store σ}
    (ends : Ends call before outcome store) (spares : snapshot.Spares call cell)
    (predicts : before.Predicts snapshot last) (vacant : before.store.Vacant cell) :
    store.Vacant cell := by
  cases ends with
  | value => exact vacant
  | mismatch none => exact vacant
  | failed chosen ran => exact spares _ _ (predicts.chosen chosen).1 _ _ _ (vacant.report _) ran

theorem Progress.Predicts.finish_vacant {cell : Nat} {outcome : Except Failure Value}
    {store : Store σ} (predicts : before.Predicts snapshot last) (honest : snapshot.Honest call)
    (spares : snapshot.Spares call cell) (vacant : before.store.Vacant cell)
    (finished : before.finish call = some (outcome, store)) : store.Vacant cell := by
  obtain ⟨place, reaches, ends⟩ := Progress.ends_of_finish finished
  exact ends.vacant spares (reaches.predicts honest predicts)
    (reaches.vacant honest spares predicts vacant)

theorem Progress.Predicts.finish_covers {value : Value} {store : Store σ}
    (predicts : before.Predicts snapshot last) (honest : snapshot.Honest call)
    (finished : before.finish call = some (.ok value, store)) : last.Covers value.tag := by
  obtain ⟨place, reaches, ends⟩ := Progress.ends_of_finish finished
  obtain ⟨tag, calls, covers, planned⟩ := reaches.predicts honest predicts
  cases ends with
  | value =>
      cases planned with
      | nil => exact covers

namespace Stream

def Midway (first last : Stream Value) (place : Nat) (middle : Stream Value) : Prop :=
  ∃ earlier later, earlier.length = place ∧ first.Extends earlier middle ∧
    middle.Extends later last

/-- The stores in which a stream lives when only its own result() calls touch what it keeps. -/
inductive Lived (call : Callable → List Value → Run σ Value) (stream : Stream Value) :
    Store σ → Prop where
  | fresh {store : Store σ} (vacant : store.Vacant stream.cell) : Lived call stream store
  | elsewhere {store after : Store σ} (lived : Lived call stream store)
      (same : after.results[stream.cell]? = store.results[stream.cell]?) : Lived call stream after
  | result {store after : Store σ} {outcome : Except Failure Value}
      (lived : Lived call stream store)
      (resolved : stream.result call store = some (outcome, after)) : Lived call stream after

end Stream

variable {source : Value} {first stream : Stream Value} {calls : List Call}

theorem Stream.Started.predicts (started : Stream.Started snapshot source first)
    (grown : first.Extends calls stream) (store : Store σ) :
    (stream.begin store).Predicts snapshot stream.predicted := by
  obtain ⟨-, sameSource, planned⟩ := started.planned grown
  refine ⟨source.tag, calls, ?_, planned⟩
  rw [Stream.begin, sameSource]
  exact Tag.Covers.refl _

theorem Stream.Midway.planned {place : Nat} {middle : Stream Value}
    (midway : first.Midway stream place middle) (started : Stream.Started snapshot source first) :
    ∃ earlier later steps, stream.source = source ∧ stream.steps = middle.steps ++ steps ∧
      middle.steps.length = place ∧
      snapshot.Planned source.tag earlier middle.steps middle.predicted ∧
      snapshot.Planned middle.predicted later steps stream.predicted := by
  obtain ⟨earlier, later, length, before, beyond⟩ := midway
  obtain ⟨sameSnapshot, sameSource, planned⟩ := started.planned before
  obtain ⟨-, source, steps, appended, following⟩ := beyond.planned
  rw [sameSnapshot] at following
  exact ⟨earlier, later, steps, source.trans sameSource, appended,
    planned.length_eq.trans length, planned, following⟩

/-- At every place, the prediction made there covers the value reached there, and the steps left
are the calls made since. -/
theorem Stream.Midway.predicts {place : Nat} {middle : Stream Value}
    (midway : first.Midway stream place middle) (started : Stream.Started snapshot source first)
    (honest : snapshot.Honest call) {store : Store σ} {reached : Progress σ}
    (reaches : Reaches call (stream.begin store) reached) (here : reached.index = place) :
    middle.predicted.Covers reached.current.tag ∧
      ∃ later, snapshot.Planned middle.predicted later reached.rest stream.predicted := by
  obtain ⟨earlier, later, steps, sameSource, appended, length, planned, following⟩ :=
    midway.planned started
  have begin : stream.begin store = ⟨0, source, middle.steps ++ steps, store⟩ := by
    rw [Stream.begin, sameSource, appended]
  have past : reached.index = 0 + middle.steps.length := by
    rw [here, length, Nat.zero_add]
  -- The steps of the middle stream, run alone, come to the same value with none left.
  rw [begin] at reaches
  obtain ⟨rest, front⟩ := reaches.front past
  have predicts : Progress.Predicts snapshot middle.predicted
      ⟨0, source, middle.steps, store⟩ := ⟨source.tag, earlier, Tag.Covers.refl _, planned⟩
  obtain ⟨tag, none, covers, ended⟩ := Reaches.predicts front honest predicts
  cases ended
  rw [rest]
  exact ⟨covers, later, following⟩

theorem result_of_vacant (predicts : ∀ store : Store σ, (stream.begin store).Predicts snapshot
      stream.predicted) (honest : snapshot.Honest call)
    (spares : snapshot.Spares call stream.cell) {store after : Store σ}
    {outcome : Except Failure Value} (vacant : store.Vacant stream.cell)
    (resolved : stream.result call store = some (outcome, after)) :
    (∃ value, outcome = .ok value ∧ after.result? stream.cell = some value ∧
        stream.predicted.Covers value.tag) ∨
      ∃ failure, outcome = .error failure ∧ after.Vacant stream.cell := by
  rw [Stream.result_of_empty vacant.result?] at resolved
  split at resolved
  · cases resolved
  · rename_i value ended finished
    have still := (predicts store).finish_vacant honest spares vacant finished
    rw [still.result?, Option.getD_none] at resolved
    cases resolved
    exact .inl ⟨value, rfl, (still.report _).keep value,
      (predicts store).finish_covers honest finished⟩
  · rename_i failure ended finished
    have still := (predicts store).finish_vacant honest spares vacant finished
    cases resolved
    exact .inr ⟨failure, rfl, still⟩

theorem Stream.Lived.keeps {kind : Value → Prop}
    (settles : ∀ store outcome after, store.Vacant stream.cell →
      stream.result call store = some (outcome, after) →
        after.Vacant stream.cell ∨ ∃ value, after.result? stream.cell = some value ∧ kind value)
    {store : Store σ} (lived : stream.Lived call store) :
    store.Vacant stream.cell ∨ ∃ value, store.result? stream.cell = some value ∧ kind value := by
  induction lived with
  | fresh vacant => exact .inl vacant
  | elsewhere _ same ih =>
      rw [Store.Vacant, Store.result?, same]
      exact ih
  | result _ resolved ih =>
      rcases ih with vacant | ⟨value, kept, known⟩
      · exact settles _ _ _ vacant resolved
      · rw [Stream.result_of_kept kept] at resolved
        cases resolved
        exact .inr ⟨value, kept, known⟩

theorem Stream.Lived.covers (predicts : ∀ store : Store σ, (stream.begin store).Predicts snapshot
      stream.predicted) (honest : snapshot.Honest call)
    (spares : snapshot.Spares call stream.cell) {store : Store σ}
    (lived : stream.Lived call store) :
    store.Vacant stream.cell ∨
      ∃ value, store.result? stream.cell = some value ∧ stream.predicted.Covers value.tag := by
  refine lived.keeps ?_
  intro store outcome after vacant resolved
  rcases result_of_vacant predicts honest spares vacant resolved with
    ⟨value, -, kept, covers⟩ | ⟨failure, -, vacant⟩
  · exact .inr ⟨value, kept, covers⟩
  · exact .inl vacant

/-- Predictions are sound. At every place of a resolution the prediction made there covers the value
reached, and without a candidate there it was `any`; a resolution that fails has reached such a
place, or one whose candidate fails. And where no candidate resolves the stream itself, what
result() answers is covered. -/
theorem predictions_sound (started : Stream.Started snapshot source first)
    (grown : first.Extends calls stream) (honest : snapshot.Honest call) (store : Store σ) :
    (∀ reached, Reaches call (stream.begin store) reached →
      (∃ middle, first.Midway stream reached.index middle) ∧
        ∀ middle, first.Midway stream reached.index middle →
          middle.predicted.Covers reached.current.tag ∧
            ∀ step rest, reached.rest = step :: rest → step.choose? reached.current = none →
              middle.predicted = .any) ∧
      (∀ failure after, stream.result call store = some (.error failure, after) ↔
        store.result? stream.cell = none ∧ ∃ reached, Reaches call (stream.begin store) reached ∧
          reached.Ends call (.error failure) after) ∧
      (snapshot.Spares call stream.cell → stream.Lived call store →
        ∀ value after, stream.result call store = some (.ok value, after) →
          stream.predicted.Covers value.tag) := by
  refine ⟨?_, ?_, ?_⟩
  · intro reached reaches
    constructor
    · have total := reaches.places
      have length := (started.planned grown).2.2.length_eq
      have inside : reached.index ≤ calls.length := by
        simp only [Stream.begin] at total
        omega
      obtain ⟨earlier, later, middle, place, before, beyond⟩ := grown.at_place inside
      exact ⟨middle, earlier, later, place, before, beyond⟩
    · intro middle midway
      obtain ⟨covers, later, planned⟩ := midway.predicts started honest reaches rfl
      refine ⟨covers, ?_⟩
      intro step rest left missing
      rw [left] at planned
      cases planned with
      | cons plan _ =>
          rcases covers with wide | same
          · exact wide
          · exact absurd missing (Snapshot.plan_choose?_ne_none plan same)
  · intro failure after
    rw [Stream.result_eq_error_iff, Progress.finish_eq_some_iff]
  · intro spares lived value after resolved
    have predicts := started.predicts grown (σ := σ)
    rcases Stream.Lived.covers predicts honest spares lived with vacant | ⟨value, kept, covers⟩
    · rcases result_of_vacant predicts honest spares vacant resolved with
        ⟨value, same, -, covers⟩ | ⟨failure, same, -⟩
      · cases same
        exact covers
      · cases same
    · rw [Stream.result_of_kept kept] at resolved
      cases resolved
      exact covers

end

namespace Sample

def first : Candidate := ⟨"first", ⟨.list, [], .any⟩, .native .head⟩

def sizeOfList : Candidate := ⟨"size", ⟨.list, [], .number⟩, .native .count⟩

def sizeOfText : Candidate := ⟨"size", ⟨.string, [], .number⟩, .custom 0 "measure"⟩

def snapshot : Snapshot :=
  ⟨(NameTable.empty.put "size" [sizeOfList, sizeOfText]).put "first" [first]⟩

def host : Host Nat := fun _ args =>
  Action.unary "measure" args fun _ =>
    .read fun runs => .write (runs + 1) (.answer (.ofNat (runs + 1)))

def call : Callable → List Value → Run Nat Value := host.call 1

def source : Value := .list [.string "abc", .null]

def calls : List Call := [⟨"first", []⟩, ⟨"size", []⟩]

def store (cells : Nat) : Store Nat := ⟨Array.replicate cells none, .withBuiltins, [], 0⟩

def begun : Stream Value := ⟨0, snapshot, source, .list, []⟩

def midway : Stream Value := ⟨1, snapshot, source, .any, [⟨"first", [first], []⟩]⟩

def grown : Stream Value :=
  ⟨2, snapshot, source, .number,
    [⟨"first", [first], []⟩, ⟨"size", [sizeOfList, sizeOfText], []⟩]⟩

theorem started : Stream.Started snapshot source begun := ⟨Nat, store 0, _, rfl⟩

theorem extends_ : begun.Extends calls grown := by
  have accepted : begun.invoke "first" [] (store 1) = some (.ok midway, _) := rfl
  have again : midway.invoke "size" [] (store 2) = some (.ok grown, _) := rfl
  exact (Stream.Extends.refl.invoke accepted).invoke again

theorem vacant : (store 3).Vacant grown.cell := rfl

theorem of_dispatches {candidate : Candidate} {args : List Value}
    (dispatches : snapshot.Dispatches candidate args) :
    candidate = first ∨ candidate = sizeOfList ∨ candidate = sizeOfText := by
  obtain ⟨operation, chosen⟩ := dispatches
  obtain ⟨candidates, known, found⟩ := Option.bind_eq_some_iff.mp chosen
  have member := List.mem_of_find?_eq_some found
  rw [Snapshot.candidates?, snapshot, NameTable.get?_put, NameTable.get?_put] at known
  split at known
  · cases known
    exact .inl (List.mem_singleton.mp member)
  · split at known
    · cases known
      simpa only [List.mem_cons, List.not_mem_nil, or_false] using Or.inr member
    · cases known

theorem count_tag {args : List Value} {value : Value}
    (counted : Native.count.run args = .ok value) : value.tag = .number := by
  simp only [Native.run, bind, Except.bind, pure, Except.pure] at counted
  split at counted
  · cases counted
  · split at counted
    · cases counted
    · cases counted
      rfl

theorem measured {args : List Value} {store after : Store Nat} {outcome : Except Failure Value}
    (ran : call (.custom 0 "measure") args store = some (outcome, after)) :
    after.results = store.results ∧ ∀ value, outcome = .ok value → value.tag = .number := by
  cases unary : Callable.unary "measure" args with
  | error failure =>
      simp only [call, Host.call, host, Action.unary, unary] at ran
      cases ran
      exact ⟨rfl, by intro value answered; cases answered⟩
  | ok value =>
      simp only [call, Host.call, host, Action.unary, unary] at ran
      cases ran
      exact ⟨rfl, by intro value answered; cases answered; rfl⟩

theorem honest : snapshot.Honest call := by
  intro candidate args dispatches store value after ran
  rcases of_dispatches dispatches with rfl | rfl | rfl
  · exact .inl rfl
  · have counted : Native.count.run args = .ok value :=
      Halt.outcome?_eq_some_ok.mp (Host.of_call_native ran).1
    exact .inr (count_tag counted).symm
  · exact .inr ((measured ran).2 value rfl).symm

theorem spares (cell : Nat) : snapshot.Spares call cell := by
  intro candidate args dispatches store outcome after vacant ran
  rcases of_dispatches dispatches with rfl | rfl | rfl
  · exact (Host.of_call_native ran).2 ▸ vacant
  · exact (Host.of_call_native ran).2 ▸ vacant
  · rw [Store.Vacant, (measured ran).1]
    exact vacant

end Sample

theorem predictions_sound_sample :
    Stream.Started Sample.snapshot Sample.source Sample.begun ∧
      Sample.begun.Extends Sample.calls Sample.grown ∧ Sample.snapshot.Honest Sample.call ∧
      ∃ value after, Sample.grown.result Sample.call (Sample.store 3) = some (.ok value, after) ∧
        Sample.grown.predicted.Covers value.tag :=
  ⟨Sample.started, Sample.extends_, Sample.honest, _, _, rfl,
    (predictions_sound Sample.started Sample.extends_ Sample.honest (Sample.store 3)).2.2
      (Sample.spares 2) (.fresh Sample.vacant) _ _ rfl⟩

end LazyDispatch
