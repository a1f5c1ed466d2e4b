import LazyDispatch.Proofs.Growth
import LazyDispatch.Proofs.Mirroring
import LazyDispatch.Proofs.Shape

/-! The order of registrations. Where no two signatures of a name fit the same types, values select
one candidate at most, whatever the order; and predictions never depend on it. So streams over
shuffled registrations run alike, and only list what a step expected in another order. -/

namespace LazyDispatch

theorem Tag.Fits.symm {one other : Tag} (fits : one.Fits other) : other.Fits one := by
  rcases fits with left | right | same
  · exact .inr (.inl left)
  · exact .inl right
  · exact .inr (.inr same.symm)

theorem Value.tag_ne_any (value : Value) : value.tag ≠ .any := by
  cases value with
  | map entries =>
      rw [Value.tag]
      split <;> decide
  | _ => simp [Value.tag]

theorem Value.any_notMem_tags (current : Value) (args : List Value) :
    .any ∉ Value.tags current.tag args := by
  rw [tags, List.mem_cons, List.mem_map, not_or, not_exists]
  refine ⟨current.tag_ne_any.symm, ?_⟩
  rintro value ⟨-, same⟩
  exact value.tag_ne_any same

namespace Candidate

/-- Neither candidate accepts the parameters of the other. -/
def Apart (one other : Candidate) : Prop := one.accepts other.params = false

variable {one other : Candidate} {types : List Tag}

theorem apart_iff : one.Apart other ↔ ¬one.Fits other.params := by
  rw [Apart, ← accepts_iff, Bool.not_eq_true]

theorem Apart.symm (apart : one.Apart other) : other.Apart one := by
  rw [apart_iff] at apart ⊢
  intro fits
  exact apart (fits.flip.imp fun _ _ => Tag.Fits.symm)

theorem Apart.params_ne (apart : one.Apart other) : one.params ≠ other.params := by
  intro same
  have fits : one.Fits other.params := by
    rw [Fits, ← same, List.forall₂_same]
    intro tag _
    exact .inr (.inr rfl)
  exact apart_iff.mp apart fits

theorem Apart.not_both (apart : one.Apart other) (concrete : ∀ tag ∈ types, tag ≠ .any)
    (first : one.Fits types) (second : other.Fits types) : False := by
  refine apart_iff.mp apart ?_
  rw [Fits] at first second ⊢
  generalize one.params = left at first ⊢
  generalize other.params = right at second ⊢
  -- Where both fit a type that is not `any`, either is `any` or both are that type.
  induction first generalizing right with
  | nil =>
      cases second
      exact .nil
  | cons head _ ih =>
      rename_i parameter tag left types _
      cases second with
      | cons also later =>
          have known : tag ≠ .any := concrete tag List.mem_cons_self
          have rest := ih (fun tag member => concrete tag (List.mem_cons_of_mem _ member)) _ later
          refine .cons ?_ rest
          rcases head with wide | absurdly | same
          · exact .inl wide
          · exact absurd absurdly known
          · rcases also with wide | absurdly | alike
            · exact .inr (.inl wide)
            · exact absurd absurdly known
            · exact .inr (.inr (same.trans alike.symm))

end Candidate

/-- The same candidates in any order, no two of them fit for the same values. -/
structure Shuffled (candidates others : List Candidate) : Prop where
  perm : candidates.Perm others
  apart : candidates.Pairwise Candidate.Apart

namespace Shuffled

variable {candidates others : List Candidate}

theorem filter (shuffled : Shuffled candidates others) (keep : Candidate → Bool) :
    Shuffled (candidates.filter keep) (others.filter keep) :=
  ⟨shuffled.perm.filter keep, shuffled.apart.filter keep⟩

theorem common (shuffled : Shuffled candidates others) {next : Tag}
    (common : Common candidates next) : Common others next := by
  have held {candidate : Candidate} : candidate ∈ candidates ↔ candidate ∈ others :=
    shuffled.perm.mem_iff
  cases common with
  | agreed same => exact .agreed fun candidate member => same candidate (held.mpr member)
  | mixed first second apart => exact .mixed (held.mp first) (held.mp second) apart

theorem predict?_eq (shuffled : Shuffled candidates others) :
    predict? candidates = predict? others := by
  cases predicted : predict? candidates with
  | none =>
      have empty := predict?_eq_none.mp predicted
      have also : others = [] := by simpa [empty] using shuffled.perm.symm
      exact (predict?_eq_none.mpr also).symm
  | some next =>
      obtain ⟨some, common⟩ := predict?_eq_some_iff.mp predicted
      have also : others ≠ [] := by
        intro empty
        have none : candidates = [] := by simpa [empty] using shuffled.perm
        exact some none
      exact (predict?_eq_some_iff.mpr ⟨also, shuffled.common common⟩).symm

theorem find?_eq (shuffled : Shuffled candidates others) {types : List Tag}
    (concrete : ∀ tag ∈ types, tag ≠ .any) :
    candidates.find? (fun candidate => candidate.accepts types) =
      others.find? fun candidate => candidate.accepts types := by
  have fitting := shuffled.filter fun candidate => candidate.accepts types
  rw [← List.head?_filter, ← List.head?_filter]
  cases kept : candidates.filter fun candidate => candidate.accepts types with
  | nil =>
      have also := fitting.perm
      rw [kept, List.nil_perm] at also
      rw [also]
  | cons one rest =>
      cases rest with
      | nil =>
          have also := fitting.perm
          rw [kept, List.singleton_perm] at also
          rw [also]
      -- Two candidates that accept the types would not be apart.
      | cons other rest =>
          have accepted {candidate : Candidate} (member : candidate ∈ one :: other :: rest) :
              candidate.Fits types := by
            rw [← kept] at member
            exact Candidate.accepts_iff.mp (List.mem_filter.mp member).2
          have pairs := fitting.apart
          rw [kept] at pairs
          have apart : one.Apart other := (List.pairwise_cons.mp pairs).1 other List.mem_cons_self
          exact (apart.not_both concrete (accepted List.mem_cons_self)
            (accepted (List.mem_cons_of_mem _ List.mem_cons_self))).elim

end Shuffled

structure PendingStep.Shuffles (step other : PendingStep Value) : Prop where
  operation : step.operation = other.operation
  args : step.args = other.args
  candidates : Shuffled step.candidates other.candidates

def Snapshot.Shuffles (snapshot other : Snapshot) : Prop :=
  ∀ name, Option.Rel Shuffled (snapshot.candidates? name) (other.candidates? name)

structure Stream.Shuffles (stream other : Stream Value) : Prop where
  cell : stream.cell = other.cell
  snapshot : stream.snapshot.Shuffles other.snapshot
  source : stream.source = other.source
  predicted : stream.predicted = other.predicted
  steps : List.Forall₂ PendingStep.Shuffles stream.steps other.steps

/-- One failure, or two mismatches that differ in the order of what they expected. -/
inductive Failure.Resembles : Failure → Failure → Prop where
  | same {failure : Failure} : Resembles failure failure
  | permuted {operation : String} {args : List Tag} {expected others : List (List Tag)}
      (perm : expected.Perm others) :
      Resembles (.wrongTransformationArgs operation args expected)
        (.wrongTransformationArgs operation args others)

inductive ResultsAlike {σ : Type} : Option (Except Failure Value × Store σ) →
    Option (Except Failure Value × Store σ) → Prop where
  | deep : ResultsAlike none none
  | value {value : Value} {after : Store σ} :
      ResultsAlike (some (.ok value, after)) (some (.ok value, after))
  | failure {failure other : Failure} {after : Store σ} (resembles : failure.Resembles other) :
      ResultsAlike (some (.error failure, after)) (some (.error other, after))

theorem ResultsAlike.refl {σ : Type} (ended : Option (Except Failure Value × Store σ)) :
    ResultsAlike ended ended := by
  cases ended with
  | none => exact .deep
  | some ended =>
      obtain ⟨outcome, after⟩ := ended
      cases outcome with
      | ok value => exact .value
      | error failure => exact .failure .same

/-- What can be seen of two streams is alike: what they predict, and what becomes of their results,
the callables that run for them in order included. -/
structure Stream.Resembles (stream other : Stream Value) : Prop where
  predicted : stream.predicted = other.predicted
  result : ∀ {σ : Type} (call : Callable → List Value → Run σ Value) (store : Store σ),
    ResultsAlike (stream.result (journaled call) (store.beside []))
      (other.result (journaled call) (store.beside []))

inductive ChainsAlike {σ : Type} : Option (Except Failure (List (Stream Value)) × Store σ) →
    Option (Except Failure (List (Stream Value)) × Store σ) → Prop where
  | refused {failure : Failure} {after : Store σ} :
      ChainsAlike (some (.error failure, after)) (some (.error failure, after))
  | accepted {made others : List (Stream Value)} {after : Store σ}
      (resemble : List.Forall₂ Stream.Resembles made others) :
      ChainsAlike (some (.ok made, after)) (some (.ok others, after))

theorem ChainsAlike.cons {σ : Type} {stream other : Stream Value}
    {ended also : Option (Except Failure (List (Stream Value)) × Store σ)}
    (alike : ChainsAlike ended also) (resembles : stream.Resembles other) :
    ChainsAlike (ended.map fun ended => (ended.1.map (stream :: ·), ended.2))
      (also.map fun ended => (ended.1.map (other :: ·), ended.2)) := by
  cases alike with
  | refused => exact .refused
  | accepted resemble => exact .accepted (.cons resembles resemble)

section

variable {σ : Type} {call : Callable → List Value → Run σ Value}

theorem PendingStep.Shuffles.types_eq {step other : PendingStep Value}
    (shuffles : step.Shuffles other) (current : Value) :
    step.types current = other.types current := by
  rw [types, types, shuffles.args]

theorem PendingStep.Shuffles.choose?_eq {step other : PendingStep Value}
    (shuffles : step.Shuffles other) (current : Value) :
    step.choose? current = other.choose? current := by
  have concrete : ∀ tag ∈ step.types current, tag ≠ .any := by
    rintro tag member rfl
    exact current.any_notMem_tags step.args member
  rw [choose?, choose?, ← shuffles.types_eq, shuffles.candidates.find?_eq concrete]

theorem resolve_shuffles {steps others : List (PendingStep Value)}
    (shuffles : List.Forall₂ PendingStep.Shuffles steps others) (index : Nat) (current : Value)
    (store : Store σ) :
    ResultsAlike (resolve call index current steps store)
      (resolve call index current others store) := by
  induction shuffles generalizing index current store with
  | nil => exact .refl _
  | cons head _ ih =>
      rename_i step other rest others _
      have types := head.types_eq current
      have same := head.choose?_eq current
      cases choice : step.choose? current with
      | none =>
          rw [resolve_of_mismatch choice, resolve_of_mismatch (same.symm.trans choice),
            PendingStep.mismatch, PendingStep.mismatch, PendingStep.mismatched,
            PendingStep.mismatched, types, head.operation]
          exact .failure (.permuted (head.candidates.perm.map _))
      | some candidate =>
          rw [resolve_of_chosen choice, resolve_of_chosen (same.symm.trans choice),
            PendingStep.chosen, PendingStep.chosen, types, head.operation, head.args,
            Run.bind_apply, Run.bind_apply]
          cases call candidate.callable (current :: other.args) (store.report
              [.stepResolved other.operation index (other.types current) candidate.signature]) with
          | none => exact .deep
          | some ended =>
              obtain ⟨outcome, after⟩ := ended
              cases outcome with
              | error failure => exact .failure .same
              | ok value => exact ih (index + 1) value after

namespace Snapshot.Shuffles

variable {snapshot other : Snapshot}

theorem plan (shuffles : snapshot.Shuffles other) (predicted : Tag) (operation : String)
    (args : List Value) :
    (∃ failure, snapshot.plan predicted operation args = .error failure ∧
        other.plan predicted operation args = .error failure) ∨
      ∃ step also next, snapshot.plan predicted operation args = .ok (step, next) ∧
        other.plan predicted operation args = .ok (also, next) ∧ step.Shuffles also := by
  have named := shuffles operation
  unfold Snapshot.plan
  cases known : snapshot.candidates? operation with
  | none =>
      cases also : other.candidates? operation with
      | none => exact .inl ⟨_, rfl, rfl⟩
      | some others =>
          rw [known, also] at named
          cases named
  | some candidates =>
      cases also : other.candidates? operation with
      | none =>
          rw [known, also] at named
          cases named
      | some others =>
          rw [known, also, Option.rel_some_some] at named
          have accepting := named.filter fun candidate =>
            candidate.accepts (Value.tags predicted args)
          simp only [← accepting.predict?_eq]
          cases predict? (candidates.filter fun candidate =>
              candidate.accepts (Value.tags predicted args)) with
          | none => exact .inl ⟨_, rfl, rfl⟩
          | some next => exact .inr ⟨_, _, next, rfl, rfl, rfl, rfl, accepting⟩

end Snapshot.Shuffles

namespace Stream.Shuffles

variable {stream other : Stream Value}

theorem result (shuffles : stream.Shuffles other) (store : Store σ) :
    ResultsAlike (stream.result call store) (other.result call store) := by
  cases kept : store.result? stream.cell with
  | some value =>
      have also : store.result? other.cell = some value := shuffles.cell ▸ kept
      rw [result_of_kept kept, result_of_kept also]
      exact .value
  | none =>
      have also : store.result? other.cell = none := shuffles.cell ▸ kept
      have resolved : ResultsAlike (resolve call 0 stream.source stream.steps store)
          (resolve call 0 stream.source other.steps store) :=
        resolve_shuffles shuffles.steps 0 stream.source store
      have settled : stream.settled = other.settled (σ := σ) := by
        funext value after
        rw [settled, settled, shuffles.cell, shuffles.steps.length_eq]
      rw [result_of_empty kept, result_of_empty also, ← shuffles.source, ← settled, shuffles.cell]
      generalize resolve call 0 stream.source stream.steps store = one at resolved ⊢
      generalize resolve call 0 stream.source other.steps store = two at resolved ⊢
      cases resolved with
      | deep => exact .deep
      | failure resembles => exact .failure resembles
      | value => exact .value

theorem resembles (shuffles : stream.Shuffles other) : stream.Resembles other :=
  ⟨shuffles.predicted, fun _ store => shuffles.result (store.beside [])⟩

theorem longer (shuffles : stream.Shuffles other) {step also : PendingStep Value}
    (last : step.Shuffles also) (cell : Nat) (next : Tag) :
    (stream.longer cell step next).Shuffles (other.longer cell also next) :=
  ⟨rfl, shuffles.snapshot, shuffles.source, rfl,
    List.rel_append shuffles.steps (.cons last .nil)⟩

theorem invokeEach (shuffles : stream.Shuffles other) (calls : List Call) (store : Store σ) :
    ChainsAlike (stream.invokeEach calls store) (other.invokeEach calls store) := by
  induction calls generalizing stream other store with
  | nil => exact .accepted .nil
  | cons asked rest ih =>
      have planned := shuffles.snapshot.plan stream.predicted asked.operation asked.args
      rcases planned with ⟨failure, refused, also⟩ | ⟨step, later, next, planned, also, last⟩
      · rw [shuffles.predicted] at also
        rw [invokeEach_of_refused refused, invokeEach_of_refused also]
        exact .refused
      · rw [shuffles.predicted] at also
        rw [invokeEach_of_planned planned, invokeEach_of_planned also, shuffles.predicted,
          last.candidates.perm.length_eq]
        have grown := shuffles.longer last store.nextCell next
        exact (ih grown _).cons grown.resembles

end Stream.Shuffles

def Snapshot.chain (snapshot : Snapshot) (source : Value) (calls : List Call) :
    Run σ (List (Stream Value)) := do
  let stream ← Stream.start snapshot source
  return stream :: (← stream.invokeEach calls)

theorem Snapshot.Shuffles.chain {snapshot other : Snapshot} (shuffles : snapshot.Shuffles other)
    (source : Value) (calls : List Call) (store : Store σ) :
    ChainsAlike (snapshot.chain source calls store) (other.chain source calls store) := by
  have begun : Stream.Shuffles ⟨store.nextCell, snapshot, source, source.tag, []⟩
      ⟨store.nextCell, other, source, source.tag, []⟩ := ⟨rfl, shuffles, rfl, rfl, .nil⟩
  have chain_apply (snapshot : Snapshot) := Run.bind_of_ok
    (Stream.start_apply snapshot source store) fun stream =>
      do return stream :: (← stream.invokeEach calls)
  rw [Snapshot.chain, Snapshot.chain, chain_apply, chain_apply, Run.cons_apply, Run.cons_apply]
  exact (begun.invokeEach calls _).cons begun.resembles

end

end LazyDispatch
