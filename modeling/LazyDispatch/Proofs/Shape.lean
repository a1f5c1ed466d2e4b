import LazyDispatch.Proofs.Forest
import Mathlib.Data.List.Forall2

/-! The shape of streams. However a stream was made, each of its steps keeps just the candidates
that fit the prediction before it, and what these return is the prediction after it. The last
prediction decides how a further call comes out. -/

namespace LazyDispatch

def Tag.Fits (parameter argument : Tag) : Prop :=
  parameter = any ∨ argument = any ∨ parameter = argument

theorem Tag.accepts_iff {parameter argument : Tag} :
    parameter.accepts argument = true ↔ parameter.Fits argument := by
  simp [accepts, isAny, Fits, or_assoc]

namespace Candidate

def Fits (candidate : Candidate) (types : List Tag) : Prop :=
  List.Forall₂ Tag.Fits candidate.params types

variable {candidate : Candidate} {types : List Tag}

theorem accepts_iff : candidate.accepts types = true ↔ candidate.Fits types := by
  rw [Fits, List.forall₂_iff_zip, accepts, Signature.accepts, Bool.and_eq_true, beq_iff_eq,
    List.all_eq_true, params]
  simp only [Tag.accepts_iff, Prod.forall]

instance : Decidable (candidate.Fits types) := decidable_of_iff _ accepts_iff

theorem accepts_eq : candidate.accepts types = decide (candidate.Fits types) := by
  rw [Bool.eq_iff_iff, accepts_iff, decide_eq_true_iff]

end Candidate

/-- The type that all candidates return, or `any` where two return different ones. -/
inductive Common (candidates : List Candidate) : Tag → Prop where
  | agreed {tag : Tag} (same : ∀ candidate ∈ candidates, candidate.returns = tag) :
      Common candidates tag
  | mixed {one other : Candidate} (first : one ∈ candidates) (second : other ∈ candidates)
      (apart : one.returns ≠ other.returns) : Common candidates .any

theorem predict?_eq_some_iff {candidates : List Candidate} {next : Tag} :
    predict? candidates = some next ↔ candidates ≠ [] ∧ Common candidates next := by
  cases candidates with
  | nil => simp [predict?]
  | cons head rest =>
      rw [predict?, foldl_merge_eq, Option.some_inj]
      constructor
      · rintro rfl
        refine ⟨List.cons_ne_nil head rest, ?_⟩
        split
        · rename_i same
          exact .agreed (List.forall_mem_cons.mpr ⟨rfl, same⟩)
        · rename_i differ
          simp only [Classical.not_forall, exists_prop] at differ
          obtain ⟨other, member, apart⟩ := differ
          exact .mixed (List.mem_cons_of_mem head member) List.mem_cons_self apart
      · rintro ⟨-, common⟩
        cases common with
        | agreed same =>
            obtain ⟨rfl, others⟩ := List.forall_mem_cons.mp same
            exact if_pos others
        | mixed first second apart =>
            refine if_neg fun same => ?_
            have all : ∀ candidate ∈ head :: rest, candidate.returns = head.returns :=
              List.forall_mem_cons.mpr ⟨rfl, same⟩
            exact apart ((all _ first).trans (all _ second).symm)

namespace Snapshot

/-- A step keeps, in order, just those candidates of its operation that fit the prediction before
it. There are some, and their common return type is the prediction after it. -/
structure Keeps (snapshot : Snapshot) (tag : Tag) (step : PendingStep Value) (next : Tag) :
    Prop where
  candidates : ∃ candidates, snapshot.candidates? step.operation = some candidates ∧
    step.candidates = candidates.filter fun candidate => candidate.Fits (Value.tags tag step.args)
  nonempty : step.candidates ≠ []
  common : Common step.candidates next

variable {snapshot : Snapshot} {tag next : Tag} {operation : String} {args : List Value}
  {step : PendingStep Value}

theorem keeps_of_plan (planned : snapshot.plan tag operation args = .ok (step, next)) :
    step.operation = operation ∧ step.args = args ∧ snapshot.Keeps tag step next := by
  obtain ⟨candidates, known, rfl, found⟩ := plan_eq_ok.mp planned
  obtain ⟨nonempty, common⟩ := predict?_eq_some_iff.mp found
  refine ⟨rfl, rfl, ⟨candidates, known, ?_⟩, nonempty, common⟩
  simp only [Candidate.accepts_eq]

theorem plan_of_unknown (unknown : snapshot.candidates? operation = none) :
    snapshot.plan tag operation args = .error (.unknownOperation operation) := by
  simp only [plan, unknown]

theorem plan_of_unfit {candidates : List Candidate}
    (known : snapshot.candidates? operation = some candidates)
    (unfit : ∀ candidate ∈ candidates, ¬candidate.Fits (Value.tags tag args)) :
    snapshot.plan tag operation args =
      .error (.wrongOperationArgs operation (Value.tags tag args)) := by
  have none : (candidates.filter fun candidate => candidate.accepts (Value.tags tag args)) = [] :=
    List.filter_eq_nil_iff.mpr fun candidate member accepted =>
      unfit candidate member (Candidate.accepts_iff.mp accepted)
  simp only [plan, known, none, predict?]

theorem plan_of_fit {candidates : List Candidate} {candidate : Candidate}
    (known : snapshot.candidates? operation = some candidates) (member : candidate ∈ candidates)
    (fits : candidate.Fits (Value.tags tag args)) :
    ∃ step next, snapshot.plan tag operation args = .ok (step, next) := by
  have kept : candidate ∈ candidates.filter fun candidate =>
      candidate.accepts (Value.tags tag args) :=
    List.mem_filter.mpr ⟨member, Candidate.accepts_iff.mpr fits⟩
  obtain ⟨next, found⟩ := Option.ne_none_iff_exists'.mp
    (mt predict?_eq_none.mp (List.ne_nil_of_mem kept))
  exact ⟨_, next, plan_eq_ok.mpr ⟨candidates, known, rfl, found⟩⟩

end Snapshot

namespace Stream

/-- The streams that are started, over a snapshot or a registry, and those that accepted calls make
of them. -/
inductive Reachable : Stream Value → Prop where
  | start {σ : Type} {store after : Store σ} {snapshot : Snapshot} {source : Value}
      {stream : Stream Value} (made : start snapshot source store = some (.ok stream, after)) :
      Reachable stream
  | startIn {σ : Type} {store after : Store σ} {registry : Registry} {source : Value}
      {stream : Stream Value} (made : (Run.takeSnapshot registry >>= fun snapshot =>
        Stream.start snapshot source) store = some (.ok stream, after)) : Reachable stream
  | startShared {σ : Type} {store after : Store σ} {source : Value} {stream : Stream Value}
      (made : startShared source store = some (.ok stream, after)) : Reachable stream
  | invoke {σ : Type} {store after : Store σ} {stream longer : Stream Value} {operation : String}
      {args : List Value} (reachable : Reachable stream)
      (accepted : stream.invoke operation args store = some (.ok longer, after)) :
      Reachable longer

/-- Predictions lead from the tag of the source, step by step, to that of the stream. -/
structure Shaped (stream : Stream Value) (tags : Nat → Tag) : Prop where
  first : tags 0 = stream.source.tag
  last : tags stream.steps.length = stream.predicted
  steps : ∀ index step, stream.steps[index]? = some step →
    stream.snapshot.Keeps (tags index) step (tags (index + 1))

variable {σ : Type} {stream : Stream Value} {snapshot : Snapshot} {source : Value}
  {operation : String} {args : List Value} {store after : Store σ}

theorem shaped_of_start (made : start snapshot source store = some (.ok stream, after)) :
    ∃ tags, stream.Shaped tags := by
  rw [start_apply] at made
  cases made
  refine ⟨fun _ => source.tag, rfl, rfl, ?_⟩
  intro index step found
  cases found

theorem shaped_of_startIn {registry : Registry}
    (made : (Run.takeSnapshot registry >>= fun snapshot => start snapshot source) store =
      some (.ok stream, after)) : ∃ tags, stream.Shaped tags := by
  rcases Run.of_bind_eq_some made with ⟨snapshot, middle, -, made⟩ | ⟨failure, -, failed⟩
  · exact shaped_of_start made
  · cases failed

theorem Shaped.longer {tags : Nat → Tag} (shaped : stream.Shaped tags) {step : PendingStep Value}
    {next : Tag} (keeps : stream.snapshot.Keeps stream.predicted step next) (cell : Nat) :
    (stream.longer cell step next).Shaped
      fun index => if index ≤ stream.steps.length then tags index else next := by
  constructor
  · exact shaped.first
  · have past : ¬(stream.steps ++ [step]).length ≤ stream.steps.length := by
      rw [List.length_append, List.length_singleton]
      omega
    exact if_neg past
  · intro index found place
    rcases of_getElem?_concat place with old | ⟨rfl, rfl⟩
    · have inside : index < stream.steps.length := (List.getElem?_eq_some_iff.mp old).1
      rw [if_pos (Nat.le_of_lt inside), if_pos (Nat.succ_le_of_lt inside)]
      exact shaped.steps index found old
    · rw [if_pos (Nat.le_refl _), if_neg (Nat.not_succ_le_self _), shaped.last]
      exact keeps

theorem Reachable.shaped (reachable : stream.Reachable) : ∃ tags, stream.Shaped tags := by
  induction reachable with
  | start made => exact shaped_of_start made
  | startIn made => exact shaped_of_startIn made
  | startShared made => exact shaped_of_startIn made
  | invoke _ accepted ih =>
      obtain ⟨tags, shaped⟩ := ih
      obtain ⟨step, next, planned, rfl, -⟩ := of_invoke_eq_ok accepted
      obtain ⟨-, -, keeps⟩ := Snapshot.keeps_of_plan planned
      exact ⟨_, shaped.longer keeps _⟩

/-- An accepted call makes a stream with one step more and a cell of its own, where nothing is kept.
What other streams keep stays, and so do host and registry. -/
structure Lengthens (stream : Stream Value) (operation : String) (args : List Value)
    (before : Store σ) (longer : Stream Value) (after : Store σ) : Prop where
  snapshot : longer.snapshot = stream.snapshot
  source : longer.source = stream.source
  steps : ∃ step, longer.steps = stream.steps ++ [step] ∧ step.operation = operation ∧
    step.args = args ∧ stream.snapshot.Keeps stream.predicted step longer.predicted
  cell : longer.cell = before.nextCell
  vacant : after.Vacant longer.cell
  results : ∀ cell, after.result? cell = before.result? cell
  shared : after.shared = before.shared
  host : after.host = before.host

variable {made : Stream Value}

theorem lengthens_of_invoke
    (accepted : stream.invoke operation args store = some (.ok made, after)) :
    stream.Lengthens operation args store made after := by
  obtain ⟨step, next, planned, rfl, rfl⟩ := of_invoke_eq_ok accepted
  obtain ⟨named, given, keeps⟩ := Snapshot.keeps_of_plan planned
  constructor
  · rfl
  · rfl
  · exact ⟨step, rfl, named, given, keeps⟩
  · rfl
  · exact Array.getElem?_push_size
  · intro cell
    rw [Store.result?_allocate, Store.result?_report]
  · rfl
  · rfl

def Refuses (stream : Stream Value) (operation : String) (args : List Value) : Prop :=
  ∃ candidates, stream.snapshot.candidates? operation = some candidates ∧
    ∀ candidate ∈ candidates, ¬candidate.Fits (Value.tags stream.predicted args)

theorem invoke_of_unknown (unknown : stream.snapshot.candidates? operation = none)
    (store : Store σ) : stream.invoke operation args store =
      some (.error (.unknownOperation operation), store) :=
  invoke_of_refused (Snapshot.plan_of_unknown unknown) store

theorem invoke_of_refuses (refuses : stream.Refuses operation args) (store : Store σ) :
    stream.invoke operation args store =
      some (.error (.wrongOperationArgs operation (Value.tags stream.predicted args)), store) := by
  obtain ⟨candidates, known, unfit⟩ := refuses
  exact invoke_of_refused (Snapshot.plan_of_unfit known unfit) store

theorem invoke_of_fit (known : stream.snapshot.candidates? operation ≠ none)
    (fits : ¬stream.Refuses operation args) (store : Store σ) :
    ∃ longer after, stream.invoke operation args store = some (.ok longer, after) := by
  obtain ⟨candidates, found⟩ := Option.ne_none_iff_exists'.mp known
  have fitting : ∃ candidate ∈ candidates,
      candidate.Fits (Value.tags stream.predicted args) := by
    by_contra none
    exact fits ⟨candidates, found, fun candidate member fit => none ⟨candidate, member, fit⟩⟩
  obtain ⟨candidate, member, fit⟩ := fitting
  obtain ⟨step, next, planned⟩ := Snapshot.plan_of_fit found member fit
  exact ⟨_, _, invoke_of_planned planned store⟩

theorem invoke_outcome (stream : Stream Value) (operation : String) (args : List Value)
    (store : Store σ) :
    (stream.invoke operation args store = some (.error (.unknownOperation operation), store) ↔
        stream.snapshot.candidates? operation = none) ∧
      (stream.invoke operation args store =
          some (.error (.wrongOperationArgs operation (Value.tags stream.predicted args)), store) ↔
        stream.Refuses operation args) ∧
      (stream.snapshot.candidates? operation ≠ none → ¬stream.Refuses operation args →
        ∃ longer after, stream.invoke operation args store = some (.ok longer, after) ∧
          stream.Lengthens operation args store longer after) := by
  refine ⟨⟨?_, fun unknown => invoke_of_unknown unknown store⟩,
    ⟨?_, fun refuses => invoke_of_refuses refuses store⟩, ?_⟩
  · intro failed
    by_contra known
    by_cases refuses : stream.Refuses operation args
    · rw [invoke_of_refuses refuses] at failed
      cases failed
    · obtain ⟨longer, after, accepted⟩ := invoke_of_fit known refuses store
      rw [accepted] at failed
      cases failed
  · intro failed
    by_contra fits
    by_cases unknown : stream.snapshot.candidates? operation = none
    · rw [invoke_of_unknown unknown] at failed
      cases failed
    · obtain ⟨longer, after, accepted⟩ := invoke_of_fit unknown fits store
      rw [accepted] at failed
      cases failed
  · intro known fits
    obtain ⟨longer, after, accepted⟩ := invoke_of_fit known fits store
    exact ⟨longer, after, accepted, lengthens_of_invoke accepted⟩

end Stream

section

variable {σ : Type} {call : Callable → List Value → Run σ Value} {forest grown : Forest σ}

theorem Forest.Grows.reachable (grows : Grows call forest grown)
    (reachable : ∀ stream ∈ forest.streams, stream.Reachable) :
    ∀ stream ∈ grown.streams, stream.Reachable := by
  cases grows with
  | plant planted =>
      exact List.forall_mem_append.mpr
        ⟨reachable, List.forall_mem_singleton.mpr (.start planted)⟩
  | clone member =>
      exact List.forall_mem_append.mpr
        ⟨reachable, List.forall_mem_singleton.mpr (reachable _ member)⟩
  | extend member accepted =>
      exact List.forall_mem_append.mpr
        ⟨reachable, List.forall_mem_singleton.mpr (.invoke (reachable _ member) accepted)⟩
  | refuse member refused => exact reachable
  | resolve member resolved => exact reachable

theorem Forest.Grown.reachable (growing : Grown call forest grown)
    (reachable : ∀ stream ∈ forest.streams, stream.Reachable) :
    ∀ stream ∈ grown.streams, stream.Reachable := by
  induction growing with
  | refl => exact reachable
  | tail _ grows ih => exact Forest.Grows.reachable grows ih

/-- Streams are what their calls make of them: whatever becomes of a reachable stream, its steps
hold the candidates that its predictions let through, and these decide how any call comes out. -/
theorem reachable_shaped {stream : Stream Value} (reachable : stream.Reachable)
    (call : Callable → List Value → Run σ Value) (store : Store σ) :
    (∃ tags, stream.Shaped tags) ∧
      (∀ later, Forest.Grown call ⟨store, [stream]⟩ later →
        [stream] <+: later.streams ∧ ∀ other ∈ later.streams, ∃ tags, other.Shaped tags) ∧
      ∀ operation args,
        (stream.invoke operation args store =
            some (.error (.unknownOperation operation), store) ↔
          stream.snapshot.candidates? operation = none) ∧
        (stream.invoke operation args store =
            some (.error (.wrongOperationArgs operation (Value.tags stream.predicted args)),
              store) ↔
          stream.Refuses operation args) ∧
        (stream.snapshot.candidates? operation ≠ none → ¬stream.Refuses operation args →
          ∃ longer after, stream.invoke operation args store = some (.ok longer, after) ∧
            stream.Lengthens operation args store longer after) := by
  refine ⟨reachable.shaped, ?_, fun operation args => stream.invoke_outcome operation args store⟩
  intro later growing
  refine ⟨Forest.Grown.streams_prefix growing, ?_⟩
  intro other member
  have all := Forest.Grown.reachable growing (List.forall_mem_singleton.mpr reachable)
  exact (all other member).shaped

end

theorem Sample.reachable : grown.Reachable := by
  have made : Stream.start snapshot source (store 0) = some (.ok begun, _) := rfl
  have accepted : begun.invoke "first" [] (store 1) = some (.ok midway, _) := rfl
  have again : midway.invoke "size" [] (store 2) = some (.ok grown, _) := rfl
  exact .invoke (.invoke (.start made) accepted) again

theorem reachable_shaped_sample :
    Sample.grown.Reachable ∧ (∃ tags, Sample.grown.Shaped tags) ∧
      Sample.grown.invoke "size" [] (Sample.store 3) =
        some (.error (.wrongOperationArgs "size" [.number]), Sample.store 3) := by
  obtain ⟨shaped, -, outcome⟩ := reachable_shaped Sample.reachable Sample.call (Sample.store 3)
  have refuses : Sample.grown.Refuses "size" [] := by
    refine ⟨[Sample.sizeOfList, Sample.sizeOfText], rfl, ?_⟩
    decide
  exact ⟨Sample.reachable, shaped, (outcome "size" []).2.1.mpr refuses⟩

end LazyDispatch
